import Kasten.Catalog.Service
import Kasten.Proofs.Entry.Arrangement
import Kasten.Proofs.Except
import Kasten.Proofs.Map

/-!
# Scans and changes made by hand

A scan builds a catalog of its own. Files that come and go meanwhile are noted in both catalogs,
but a change made by hand only in the one that is in place, so the end of the scan undoes it: for
each identifier that no file event names, the catalog then has what the scan had found before.
-/

namespace Kasten

/-! ## 1. Runs -/

/-- A change of the catalog made by hand. -/
inductive Mutation where
  | reserve (now : Time)
  | put (e : Entry)
  | drop (z : Zid)
  | rename (old : Entry) (new : Zid)

/-- What a service is asked next. -/
inductive Turn where
  | event (event : Event)
  | mutation (m : Mutation)

namespace Event

def EndsScan (event : Event) : Prop := event = endOfScan ∨ event = ready

/-- The event neither begins, nor ends, nor breaks off a scan. -/
def IsWithinScan : Event → Prop
  | list name => name ≠ ""
  | update _ => True
  | delete _ => True
  | _ => False

/-- The event tells of a file of the zettel. -/
def Names (z : Zid) : Event → Prop
  | list name => Zid.ofFileName name = z
  | update name => Zid.ofFileName name = z
  | delete name => Zid.ofFileName name = z
  | _ => False

end Event

/-- The turn leaves a scan under way and tells of no file of the zettel. -/
def Turn.Spares (z : Zid) : Turn → Prop
  | .event e => e.IsWithinScan ∧ ¬ e.Names z
  | .mutation _ => True

namespace Catalog

variable {cat : Catalog} {name : String} {z : Zid}

theorem getElem?_addFile_of_ne (h : Zid.ofFileName name ≠ z) :
    (cat.addFile name)[z]? = cat[z]? := by
  unfold addFile
  dsimp only
  by_cases hv : (Zid.ofFileName name).isValid = true
  · rw [if_pos hv, getElem?_insert_eq, if_neg h.symm]
  · rw [if_neg hv]

theorem getElem?_removeFile_of_ne (h : Zid.ofFileName name ≠ z) :
    (cat.removeFile name).1[z]? = cat[z]? := by
  unfold removeFile
  dsimp only
  cases cat[Zid.ofFileName name]? with
  | none => rfl
  | some e =>
    dsimp only
    by_cases hl : (e.remove name).1.isLive = true
    · rw [if_pos hl, getElem?_insert_eq, if_neg h.symm]
    · rw [if_neg hl, getElem?_erase_eq, if_neg h.symm]

end Catalog

namespace Service

variable {s s' : Service} {found : Catalog} {z : Zid}

def mutate (s : Service) : Mutation → Except StoreError Service
  | .reserve now => (s.reserve now).map Prod.snd
  | .put e => s.put e
  | .drop z => s.drop z
  | .rename old new => (s.rename old new).map Prod.snd

/-- One turn; a mutation that fails changes nothing. -/
def turn (s : Service) : Turn → Service
  | .event event => (s.handle event).1
  | .mutation m => (s.mutate m).toOption.getD s

def run (s : Service) (turns : List Turn) : Service := turns.foldl turn s

/-! ## 2. The catalog of a scan -/

/-- A scan is under way that has found this of the zettel. -/
structure Scans (s : Service) (z : Zid) (e : Option Entry) : Prop where
  running : s.phase ≠ .stopping
  found : ∃ cat : Catalog, s.shadow = some cat ∧ cat[z]? = e

variable {e : Option Entry} {e' : Entry}

theorem catalog_of_present {cat : Catalog} (h : s.present = .ok cat) : s.catalog = some cat := by
  unfold present at h
  split at h
  next c hc =>
    cases h
    exact hc
  next => cases h

theorem entry_eq {cat : Catalog} (h : s.catalog = some cat) : s.entry? = fun z => cat[z]? := by
  funext z
  unfold entry?
  rw [h]
  rfl

theorem reserve_eq {now : Time} (h : s.reserve now = .ok (z, s')) :
    ∃ cat, s.present = .ok cat ∧ s' = { s with catalog := some (cat.insert z (Entry.new z)) } := by
  rcases exists_of_bind_eq_ok h with ⟨cat, hc, h⟩
  refine ⟨cat, hc, ?_⟩
  split at h
  next =>
    cases h
    rfl
  next => cases h

theorem rename_eq {old : Entry} {new : Zid} (h : s.rename old new = .ok (e', s')) :
    ∃ cat, s.present = .ok cat ∧ e' = old.renamed new ∧
      s' = { s with catalog := some ((cat.erase old.zid).insert new (old.renamed new)) } := by
  rcases exists_of_bind_eq_ok h with ⟨cat, hc, h⟩
  refine ⟨cat, hc, ?_⟩
  split at h
  next => cases h
  next =>
    cases h
    exact ⟨rfl, rfl⟩

/-- A change made by hand replaces the catalog in place and nothing else. -/
theorem mutate_eq {m : Mutation} (h : s.mutate m = .ok s') :
    ∃ cat : Catalog, s' = { s with catalog := some cat } := by
  cases m with
  -- Reserving and renaming answer with more than the service, so their own equations come first.
  | reserve now =>
    rcases exists_of_map_eq_ok h with ⟨⟨z, t⟩, hr, rfl⟩
    rcases reserve_eq hr with ⟨cat, -, ht⟩
    exact ⟨_, ht⟩
  | put e =>
    rcases exists_of_bind_eq_ok h with ⟨cat, -, h⟩
    exact ⟨_, (Except.ok.inj h).symm⟩
  | drop z =>
    rcases exists_of_bind_eq_ok h with ⟨cat, -, h⟩
    exact ⟨_, (Except.ok.inj h).symm⟩
  | rename old new =>
    rcases exists_of_map_eq_ok h with ⟨⟨e, t⟩, hr, rfl⟩
    rcases rename_eq hr with ⟨cat, -, -, ht⟩
    exact ⟨_, ht⟩

theorem Scans.mutate {m : Mutation} (h : s.Scans z e) (hm : s.mutate m = .ok s') :
    s'.Scans z e := by
  rcases mutate_eq hm with ⟨cat, rfl⟩
  exact ⟨h.running, h.found⟩

/-- Events within the scan that tell of other zettel leave alone what it has found. -/
theorem Scans.handle {event : Event} (h : s.Scans z e) (hw : event.IsWithinScan)
    (hz : ¬ event.Names z) : (s.handle event).1.Scans z e := by
  rcases h.found with ⟨cat, hs, hc⟩
  unfold Service.handle
  rw [if_neg h.running]
  -- Whatever the event does to the catalog in place, only the one being built counts here.
  cases event with
  | list name =>
    have hadd : (cat.addFile name)[z]? = e := (Catalog.getElem?_addFile_of_ne hz).trans hc
    dsimp only
    rw [if_neg hw]
    exact ⟨h.running, cat.addFile name, by rw [hs, Option.map_some], hadd⟩
  | update name =>
    have hadd : (cat.addFile name)[z]? = e := (Catalog.getElem?_addFile_of_ne hz).trans hc
    exact ⟨h.running, cat.addFile name, congrArg (Option.map (Catalog.addFile · name)) hs, hadd⟩
  | delete name =>
    have hremove : (cat.removeFile name).1[z]? = e :=
      (Catalog.getElem?_removeFile_of_ne hz).trans hc
    -- The catalog in place decides what is published, but neither the shadow nor the phase.
    have hshadow : (s.deleteFile name).1.shadow =
        s.shadow.map fun c => (Catalog.removeFile c name).1 := by
      unfold deleteFile
      cases s.catalog <;> rfl
    have hphase : (s.deleteFile name).1.phase = s.phase := by
      unfold deleteFile
      cases s.catalog <;> rfl
    dsimp only
    refine ⟨hphase ▸ h.running, (cat.removeFile name).1, ?_, hremove⟩
    rw [hshadow, hs, Option.map_some]
  | make => exact absurd hw id
  | ready => exact absurd hw id
  | destroy => exact absurd hw id
  | error _ => exact absurd hw id

theorem Scans.turn {t : Turn} (h : s.Scans z e) (ht : Turn.Spares z t) : (s.turn t).Scans z e := by
  cases t with
  | event event => exact h.handle ht.1 ht.2
  | mutation m =>
    unfold Service.turn
    dsimp only
    cases hm : s.mutate m with
    | ok s' => exact h.mutate hm
    | error error => exact h

theorem Scans.run {turns : List Turn} (h : s.Scans z e) (ht : ∀ t ∈ turns, Turn.Spares z t) :
    (s.run turns).Scans z e := by
  -- By induction over the turns, from whatever service the first one leaves.
  induction turns generalizing s with
  | nil => exact h
  | cons t rest ih =>
    exact ih (h.turn (ht t List.mem_cons_self)) fun u hu => ht u (List.mem_cons_of_mem t hu)

theorem Scans.entry_of_endsScan {last : Event} (h : s.Scans z e) (hl : last.EndsScan) :
    entry? (s.handle last).1 z = e := by
  rcases h.found with ⟨cat, hs, hc⟩
  have hfinish : (s.handle last).1 = s.finishScan.1 := by
    unfold Service.handle
    rw [if_neg h.running]
    rcases hl with rfl | rfl <;> rfl
  -- What was built takes the place of the catalog as it is.
  have hcatalog : s.finishScan.1.catalog = some cat := by
    unfold finishScan
    rw [hs]
    rfl
  unfold entry?
  rw [hfinish, hcatalog]
  exact hc

/-! ## 3. Changes during a scan -/

/-- Whatever is changed by hand during a scan, at its end the catalog has for each zettel that no
later event tells of just what the scan had found of it at the time of the change. So the change
is kept if and only if the scan had found the same. -/
theorem entry_after_scan (m : Mutation) (turns : List Turn) (last : Event) (z : Zid)
    (hs : s.phase ≠ .stopping) (hscan : s.shadow = some found) (hm : s.mutate m = .ok s')
    (hturns : ∀ t ∈ turns, t.Spares z) (hlast : last.EndsScan) :
    entry? ((s'.run turns).handle last).1 z = found[z]? ∧
      (found[z]? = entry? s' z ↔ entry? ((s'.run turns).handle last).1 z = entry? s' z) := by
  -- The scan has found just this of the zettel, before the change and through all turns after it.
  have hstart : s.Scans z found[z]? := ⟨hs, found, hscan, rfl⟩
  have hend := ((hstart.mutate hm).run hturns).entry_of_endsScan hlast
  exact ⟨hend, by rw [hend]⟩

/-- An entry is put in place of none, after the scan has found its file. -/
theorem entry_after_scan_of_listed :
    let z : Zid := ⟨20200310195100⟩
    let e : Entry := ((Entry.new z).add "20200310195100.md").1
    let found : Catalog := Catalog.addFile ∅ "20200310195100.md"
    let other : Turn := .event (.list "20200310195101.md")
    let started : Service := ⟨"box", .starting, none, none, true, true⟩
    let s := started.run [.event .ready, .event .make, .event (.list "20200310195100.md")]
    (new "box").start = .ok started ∧ s.phase ≠ .stopping ∧ s.shadow = some found ∧
      other.Spares z ∧ entry? s z = none ∧ ∃ s', s.mutate (.put e) = .ok s' ∧
        entry? s' z = some e ∧ entry? ((s'.run [other]).handle .endOfScan).1 z = some e := by
  intro z e found other started s
  have hrunning : s.phase ≠ .stopping := by decide
  have hother : other.Spares z := by
    constructor
    · show "20200310195101.md" ≠ ""
      decide
    · show Zid.ofFileName "20200310195101.md" ≠ ⟨20200310195100⟩
      decide
  have hput (catalog : Catalog) : (catalog.insert e.zid e)[z]? = some e := by
    have hzid : e.zid = z := Entry.zid_add _ _
    rw [getElem?_insert_eq, if_pos hzid.symm]
  have hfound : found[z]? = some e := by
    have hz : Zid.ofFileName "20200310195100.md" = z := by decide
    show (Catalog.addFile ∅ "20200310195100.md")[z]? = some e
    unfold Catalog.addFile
    dsimp only
    rw [hz, if_pos (by decide), getElem?_insert_eq, if_pos rfl, Std.ExtTreeMap.getD_empty]
  have hafter := entry_after_scan (.put e) [other] .endOfScan z hrunning rfl rfl
    (List.forall_mem_singleton.mpr hother) (.inl rfl)
  exact ⟨rfl, hrunning, rfl, hother, rfl, _, rfl, hput _, hafter.1.trans hfound⟩

/-- An identifier that is reserved during a scan is free again at its end. -/
theorem reservation_lost_after_scan :
    ∃ s s' : Service, (new "box").start = .ok s ∧
      (s.run [.event .ready, .event .make]).mutate (.reserve ⟨2020, 3, 10, 19, 51, 0⟩) = .ok s' ∧
      entry? s' ⟨20200310195100⟩ = some (Entry.new ⟨20200310195100⟩) ∧
      entry? (s'.handle .endOfScan).1 ⟨20200310195100⟩ = none :=
  ⟨_, _, rfl, rfl, rfl, rfl⟩

end Service

end Kasten
