import Kasten.Proofs.Catalog.Refinement
import Kasten.Proofs.Catalog.Scan

/-!
# What the published changes tell

Whoever knows a directory only by the changes that its service publishes still knows which zettel
there are: each change tells whether its zettel is in the catalog after the event, and no zettel
whose entry has changed is passed over in silence.
-/

namespace Kasten

/-! ## 1. Taking note of changes -/

namespace Change

/-- What is known to be there after a change was heard of. -/
def note (known : Finset Zid) (c : Change) : Finset Zid :=
  match c.reason with
  | .onZettel => insert c.zid known
  | .onDelete => known.erase c.zid
  | .onReload => known

def noteAll (known : Finset Zid) (changes : List Change) : Finset Zid := changes.foldl note known

/-- The change says of its zettel whether it is one of these. -/
def Tells (zids : Finset Zid) (c : Change) : Prop :=
  c.reason = .onZettel ∧ c.zid ∈ zids ∨ c.reason = .onDelete ∧ c.zid ∉ zids

variable {zids known : Finset Zid} {changes : List Change} {c : Change} {z : Zid}

theorem mem_note_self (h : c.Tells zids) : c.zid ∈ note known c ↔ c.zid ∈ zids := by
  unfold note
  rcases h with ⟨hreason, hin⟩ | ⟨hreason, hout⟩
  · rw [hreason]
    simp [hin]
  · rw [hreason]
    simp [hout]

theorem mem_note_of_ne (h : z ≠ c.zid) : z ∈ note known c ↔ z ∈ known := by
  unfold note
  split <;> simp [h]

/-- Changes that tell the truth, and tell of each zettel that is not known rightly, make all known
rightly. -/
theorem noteAll_eq (htell : ∀ c ∈ changes, c.Tells zids)
    (hnamed : ∀ z, (z ∈ known ↔ z ∈ zids) ∨ ∃ c ∈ changes, c.zid = z) :
    noteAll known changes = zids := by
  induction changes generalizing known with
  | nil =>
    ext z
    exact (hnamed z).resolve_right fun ⟨c, hc, _⟩ => absurd hc List.not_mem_nil
  | cons c rest ih =>
    apply ih (fun c' hc' => htell c' (List.mem_cons_of_mem c hc'))
    intro z
    by_cases hz : z = c.zid
    · rw [hz]
      exact .inl (mem_note_self (htell c List.mem_cons_self))
    · -- The first change does not tell of this zettel, so one of the others does if need be.
      rw [mem_note_of_ne hz]
      rcases hnamed z with hknown | ⟨c', hc', hzid⟩
      · exact .inl hknown
      · rcases List.mem_cons.mp hc' with rfl | hrest
        · exact absurd hzid.symm hz
        · exact .inr ⟨c', hrest, hzid⟩

theorem noteAll_append (known : Finset Zid) (changes more : List Change) :
    noteAll known (changes ++ more) = noteAll (noteAll known changes) more :=
  List.foldl_append ..

end Change

namespace Service

variable {s s' : Service} {z : Zid} {name : String} {reason : Reason} {zs : List Zid}
variable {c : Change} {changes : List Change}

/-! ## 2. The changes of one event -/

/-- The zettel in the catalog; there are none without a catalog. -/
def zids (s : Service) : Finset Zid := (s.catalog.getD ∅).keys.toFinset

theorem mem_zids : z ∈ s.zids ↔ (s.entry? z).isSome = true := by
  unfold zids entry?
  rw [List.mem_toFinset, Std.ExtTreeMap.mem_keys]
  cases s.catalog with
  | none => simp
  | some cat => exact Std.ExtTreeMap.mem_iff_isSome_getElem?

theorem mem_zids_of_catalog {cat : Catalog} (h : s.catalog = some cat) : z ∈ s.zids ↔ z ∈ cat := by
  unfold zids
  rw [h, List.mem_toFinset]
  exact Std.ExtTreeMap.mem_keys

theorem mem_zids_of_entry_ne (h : s.entry? z ≠ s'.entry? z) : z ∈ s.zids ∨ z ∈ s'.zids := by
  rw [mem_zids, mem_zids]
  by_contra hnone
  rw [not_or, Bool.not_eq_true, Bool.not_eq_true, Option.isSome_eq_false_iff,
    Option.isSome_eq_false_iff, Option.isNone_iff_eq_none, Option.isNone_iff_eq_none] at hnone
  exact h (hnone.1.trans hnone.2.symm)

/-- The changes that come with a step tell what it has done to the catalog. -/
structure Announces (s s' : Service) (changes : List Change) : Prop where
  tells : ∀ c ∈ changes, c.Tells s'.zids
  names : ∀ z, s.entry? z ≠ s'.entry? z → ∃ c ∈ changes, c.zid = z

theorem Announces.noteAll_zids (h : s.Announces s' changes) :
    Change.noteAll s.zids changes = s'.zids := by
  apply Change.noteAll_eq h.tells
  intro z
  by_cases hsame : s.entry? z = s'.entry? z
  · left
    rw [mem_zids, mem_zids, hsame]
  · exact .inr (h.names z hsame)

theorem announces_nothing (h : s'.catalog = s.catalog) : s.Announces s' [] := by
  refine ⟨fun c hc => absurd hc List.not_mem_nil, ?_⟩
  intro z hz
  apply absurd _ hz
  unfold entry?
  rw [h]

theorem mem_publish : c ∈ s.publish reason zs ↔ ∃ z ∈ zs, ⟨s.origin, reason, z⟩ = c := List.mem_map

theorem tells_publish_onZettel {zids : Finset Zid} (h : ∀ z ∈ zs, z ∈ zids) :
    ∀ c ∈ s.publish .onZettel zs, c.Tells zids := by
  intro c hc
  obtain ⟨z, hz, rfl⟩ := mem_publish.mp hc
  exact .inl ⟨rfl, h z hz⟩

theorem tells_publish_onDelete {zids : Finset Zid} (h : ∀ z ∈ zs, z ∉ zids) :
    ∀ c ∈ s.publish .onDelete zs, c.Tells zids := by
  intro c hc
  obtain ⟨z, hz, rfl⟩ := mem_publish.mp hc
  exact .inr ⟨rfl, h z hz⟩

theorem exists_mem_publish (s : Service) (reason : Reason) (hz : z ∈ zs) :
    ∃ c ∈ s.publish reason zs, c.zid = z :=
  ⟨_, mem_publish.mpr ⟨z, hz, rfl⟩, rfl⟩

/-- A step that changes one entry at most, and publishes one change of it. -/
theorem announces_single (hother : ∀ a, a ≠ z → s'.entry? a = s.entry? a)
    (htell : reason = .onZettel ∧ z ∈ s'.zids ∨ reason = .onDelete ∧ z ∉ s'.zids) :
    s.Announces s' (s.publish reason [z]) := by
  constructor
  · intro c hc
    obtain ⟨a, ha, rfl⟩ := mem_publish.mp hc
    rw [List.mem_singleton.mp ha]
    exact htell
  · intro a ha
    have haz : a = z := by
      by_contra hne
      exact ha (hother a hne).symm
    exact exists_mem_publish s reason (List.mem_singleton.mpr haz)

theorem announces_finishScan (s : Service) : s.Announces s.finishScan.1 s.finishScan.2 := by
  unfold finishScan
  split
  next => exact announces_nothing rfl
  next =>
    dsimp only
    generalize s.shadow.getD ∅ = scanned
    -- Whatever is in the new catalog is named, and so is what was only in the one before.
    generalize hafter : ({ s with phase := .working, catalog := some scanned, shadow := none } :
      Service) = after
    have hnow : ∀ z, z ∈ after.zids ↔ z ∈ scanned := fun z => mem_zids_of_catalog (hafter ▸ rfl)
    have hgone : ∀ z, z ∈ (s.catalog.getD ∅).keys.filter (fun z => !scanned.contains z) ↔
        z ∈ s.zids ∧ z ∉ after.zids := by
      intro z
      rw [List.mem_filter, Bool.not_eq_true', ← Bool.not_eq_true, Std.ExtTreeMap.contains_iff_mem,
        hnow]
      exact and_congr_left' List.mem_toFinset.symm
    constructor
    · intro c hc
      rcases List.mem_append.mp hc with hc | hc
      · refine tells_publish_onZettel (fun z hz => ?_) c hc
        exact (hnow z).mpr (Std.ExtTreeMap.mem_keys.mp hz)
      · exact tells_publish_onDelete (fun z hz => ((hgone z).mp hz).2) c hc
    · intro z hz
      by_cases hin : z ∈ after.zids
      · have hkey := Std.ExtTreeMap.mem_keys.mpr ((hnow z).mp hin)
        rcases exists_mem_publish s .onZettel hkey with ⟨c, hc, hzid⟩
        exact ⟨c, List.mem_append_left _ hc, hzid⟩
      · have hwas := (mem_zids_of_entry_ne hz).resolve_right hin
        rcases exists_mem_publish s .onDelete ((hgone z).mpr ⟨hwas, hin⟩) with ⟨c, hc, hzid⟩
        exact ⟨c, List.mem_append_right _ hc, hzid⟩

theorem announces_updateFile (s : Service) (name : String) :
    s.Announces (s.updateFile name).1 (s.updateFile name).2 := by
  unfold updateFile
  dsimp only
  cases hcat : s.catalog with
  | none => exact announces_nothing hcat.symm
  | some cat =>
    rw [Option.map_some]
    by_cases hv : (Zid.ofFileName name).isValid = true
    · have hin : Zid.ofFileName name ∈ cat.addFile name := by
        unfold Catalog.addFile
        dsimp only
        rw [if_pos hv]
        exact Std.ExtTreeMap.mem_insert_self
      rw [hv]
      apply announces_single
      · intro a ha
        unfold entry?
        rw [hcat]
        exact Catalog.getElem?_addFile_of_ne ha.symm
      · rw [mem_zids_of_catalog (show _ = some (cat.addFile name) from rfl)]
        exact .inl ⟨rfl, hin⟩
    · -- A name without an identifier changes no catalog.
      have hsame : cat.addFile name = cat := if_neg hv
      rw [eq_false_of_ne_true hv]
      apply announces_nothing
      rw [hsame, hcat]

theorem announces_deleteFile (s : Service) (name : String) :
    s.Announces (s.deleteFile name).1 (s.deleteFile name).2 := by
  unfold deleteFile
  dsimp only
  cases hcat : s.catalog with
  | none => exact announces_nothing hcat.symm
  | some cat =>
    have hother : ∀ a, a ≠ Zid.ofFileName name → (cat.removeFile name).1[a]? = s.entry? a := by
      intro a ha
      unfold entry?
      rw [hcat]
      exact Catalog.getElem?_removeFile_of_ne ha.symm
    dsimp only
    unfold Catalog.removeFile at hother ⊢
    dsimp only at hother ⊢
    cases hentry : cat[Zid.ofFileName name]? with
    | none => exact announces_nothing hcat.symm
    | some e =>
      rw [hentry] at hother
      dsimp only at hother ⊢
      -- The entry stays without the file, or goes with it.
      split
      next hlive =>
        rw [if_pos hlive] at hother
        apply announces_single hother
        rw [mem_zids_of_catalog
          (show _ = some (cat.insert (Zid.ofFileName name) (e.remove name).1) from rfl)]
        exact .inl ⟨rfl, Std.ExtTreeMap.mem_insert_self⟩
      next hlive =>
        rw [if_neg hlive] at hother
        apply announces_single hother
        rw [mem_zids_of_catalog (show _ = some (cat.erase (Zid.ofFileName name)) from rfl),
          Std.ExtTreeMap.mem_erase]
        exact .inr ⟨rfl, fun hin => hin.1 Std.ReflCmp.compare_self⟩

theorem announces_destroy (s : Service) :
    s.Announces { s with phase := .missing, catalog := none, shadow := none }
      (s.publish .onDelete (s.catalog.getD ∅).keys) := by
  constructor
  · exact tells_publish_onDelete fun z _ hin => absurd (List.mem_toFinset.mp hin) List.not_mem_nil
  · intro z hz
    rcases mem_zids_of_entry_ne hz with hwas | hin
    · exact exists_mem_publish s .onDelete (List.mem_toFinset.mp hwas)
    · exact absurd (List.mem_toFinset.mp hin) List.not_mem_nil

/-- Whatever happens, the changes that are published tell what it has done to the catalog. -/
theorem announces_handle (s : Service) (event : Event) :
    s.Announces (s.handle event).1 (s.handle event).2 := by
  unfold handle
  split
  next => exact announces_nothing rfl
  next =>
    cases event with
    | make => exact announces_nothing rfl
    | list name =>
      dsimp only
      split
      next => exact announces_finishScan s
      next => exact announces_nothing rfl
    | ready => exact announces_finishScan s
    | update name => exact announces_updateFile s name
    | delete name => exact announces_deleteFile s name
    | destroy => exact announces_destroy s
    | error _ => exact announces_nothing rfl

/-! ## 3. The changes of all events -/

theorem handleAll_concat (s : Service) (events : List Event) (event : Event) :
    s.handleAll (events ++ [event]) =
      (((s.handleAll events).1.handle event).1,
        (s.handleAll events).2 ++ ((s.handleAll events).1.handle event).2) :=
  List.foldl_append ..

theorem noteAll_handleAll (s : Service) (events : List Event) :
    Change.noteAll s.zids (s.handleAll events).2 = (s.handleAll events).1.zids := by
  -- By induction over the events, the last one taken off first.
  induction events using List.reverseRecOn with
  | nil => rfl
  | append_singleton events event ih =>
    rw [handleAll_concat, Change.noteAll_append, ih]
    exact (announces_handle _ event).noteAll_zids

/-- Of a service that was started, the changes published so far make known just the zettel of the
catalog. Each event publishes a change of every zettel whose entry it changes, and only changes
that tell truly whether the zettel is there. -/
theorem changes_rebuild_catalog (origin : String) (events : List Event) :
    ∃ s, (new origin).start = .ok s ∧
      Change.noteAll ∅ (s.send events).2 = (s.send events).1.zids ∧
      ∀ event, ∃ published,
        (s.send (events ++ [event])).2 = (s.send events).2 ++ published ∧
        (∀ z, entry? (s.send events).1 z ≠ entry? (s.send (events ++ [event])).1 z →
          ∃ c ∈ published, c.zid = z) ∧
        ∀ c ∈ published, c.Tells (s.send (events ++ [event])).1.zids := by
  let s : Service := ⟨origin, .starting, none, none, true, true⟩
  have hsend : ∀ events, s.send events = s.handleAll events := fun _ => rfl
  refine ⟨s, rfl, ?_, ?_⟩
  · rw [hsend]
    exact noteAll_handleAll s events
  · intro event
    have hstep := announces_handle (s.handleAll events).1 event
    rw [hsend, hsend, handleAll_concat]
    exact ⟨_, rfl, hstep.names, hstep.tells⟩

end Service

end Kasten
