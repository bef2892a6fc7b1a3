import Kasten.Proofs.Catalog.Rescan
import Kasten.Proofs.Catalog.Stock
import Kasten.Proofs.Entry.Ownership
import Mathlib.Logic.Function.Basic

/-!
# Catalogs that tally with a listing

A catalog tallies with the names that a directory lists if it has an entry for just the zettel that
the names belong to, and each entry has all of the listed files of its zettel. It need not sort
these files as a scan would do, so this is kept when a zettel is stored in files that its entry
names, and when one is deleted with all files of its entry.
-/

namespace Kasten

open FileName (isZettelFile)

theorem Zid.of_fresh {withSeconds : Bool} {now : Time} {isFree : Zid → Bool} {z : Zid}
    (h : fresh withSeconds now isFree = .ok z) : z.isValid = true ∧ isFree z = true := by
  unfold fresh at h
  split at h
  next found hfound =>
    cases h
    have hgood := List.find?_some hfound
    exact Bool.and_eq_true_iff.mp hgood
  next => cases h

namespace Entry

/-- The entry has all listed files of the zettel and no files of others, and one at least of the
files that it is written to is seen. -/
structure StandsFor (e : Entry) (z : Zid) (names : List String) : Prop where
  arisen : e.Arisen z
  valid : z.isValid = true
  owns : ∀ n ∈ e.files, z.Owns n
  covers : ∀ n ∈ names, Zid.ofFileName n = z → n ∈ e.files
  shown : e.isLive = true → ∃ n ∈ e.targets, isZettelFile n = true

variable {e : Entry} {z : Zid} {names names' : List String} {n : String}

theorem Arranges.mem_files {names : Finset String} (h : e.Arranges names) :
    n ∈ e.files ↔ n ∈ names := by
  rw [Entry.mem_files, h.mem_useless]
  constructor
  · rintro (⟨hne, rfl | rfl⟩ | hn)
    · exact h.contentName_mem hne
    · exact h.metaName_mem hne
    · exact hn.1
  · intro hn
    by_cases hc : n = e.contentName
    · exact .inl ⟨h.ne_empty hn, .inl hc⟩
    · by_cases hm : n = e.metaName
      · exact .inl ⟨h.ne_empty hn, .inr hm⟩
      · exact .inr ⟨hn, hc, hm⟩

theorem Arranges.exists_target {names : Finset String} (h : e.Arranges names)
    (hlive : e.isLive = true) : ∃ n ∈ e.targets, n ∈ names := by
  by_cases hc : e.contentName = ""
  · have hm : e.metaName ≠ "" := by
      intro hm
      unfold isLive at hlive
      rw [hc, hm] at hlive
      exact absurd hlive (by decide)
    have hz : e.hasMetaInContent = false := eq_false_of_ne_true fun hz =>
      hm (h.metaName_eq_empty hz)
    exact ⟨e.metaName, (mem_targets hz).mpr ⟨hm, .inl rfl⟩, h.metaName_mem hm⟩
  · refine ⟨e.contentName, ?_, h.contentName_mem hc⟩
    cases hz : e.hasMetaInContent with
    | true =>
      rw [targets_of_embedded hz]
      exact List.mem_singleton.mpr rfl
    | false => exact (mem_targets hz).mpr ⟨hc, .inr rfl⟩

namespace StandsFor

/-- A zettel without listed files may have an entry without files. -/
theorem new (hz : z.isValid = true) (hnone : ∀ n ∈ names, Zid.ofFileName n ≠ z) :
    (Entry.new z).StandsFor z names where
  arisen := .reserved z
  valid := hz
  owns n hn := absurd hn List.not_mem_nil
  covers n hn hzid := absurd hzid (hnone n hn)
  shown hlive := absurd hlive (by simp [isLive, Entry.new])

theorem congr (h : e.StandsFor z names)
    (hnames : ∀ n ∈ names', Zid.ofFileName n = z → n ∈ names ∨ n ∈ e.files) :
    e.StandsFor z names' where
  arisen := h.arisen
  valid := h.valid
  owns := h.owns
  covers n hn hzid := (hnames n hn hzid).elim (fun hold => h.covers n hold hzid) id
  shown := h.shown

theorem ofFileName (h : e.StandsFor z names) (hn : n ∈ e.files) : Zid.ofFileName n = z :=
  (h.owns n hn).ofFileName h.valid

theorem isName_of_mem_targets (h : e.StandsFor z names) (hn : n ∈ e.targets) : Disk.IsName n :=
  (h.owns n (h.arisen.named.mem_files_of_mem_targets hn)).isName

theorem prepare (h : e.StandsFor z names) (m : Meta) (zettelSyntaxes : List String) :
    (e.prepare m zettelSyntaxes).StandsFor z names ∧
      (e.prepare m zettelSyntaxes).isLive = true := by
  have hprepared := e.isPrepared_prepare m zettelSyntaxes
  have hzid := h.arisen.zid
  have hnamed := h.arisen.named
  refine ⟨⟨h.arisen.prepared m zettelSyntaxes, h.valid, ?_, ?_, ?_⟩, hprepared.live⟩
  · have howns := h.owns
    rw [← hzid] at howns ⊢
    exact hprepared.owns hnamed howns
  · exact fun n hn hof => hprepared.mem_files_of_mem (h.covers n hn hof)
  · exact fun _ => hprepared.shown hnamed (hzid.symm ▸ h.valid) h.shown

/-- No file is listed yet of the identifier that a live entry is moved to. -/
theorem renamed {new : Zid} (h : e.StandsFor z names) (hlive : e.isLive = true)
    (hnew : new.isValid = true) (hnone : ∀ n ∈ names, Zid.ofFileName n ≠ new) :
    (e.renamed new).StandsFor new names ∧ (e.renamed new).isLive = true := by
  have hnamed := h.arisen.named
  have howns := h.owns
  have hz := h.valid
  rw [← h.arisen.zid] at howns hz
  rcases h.shown hlive with ⟨n, hn, hseen⟩
  have htarget := mem_targets_renamed howns new hnamed hn
  have hown := howns n (hnamed.mem_files_of_mem_targets hn)
  refine ⟨⟨h.arisen.renamed new, hnew, owns_renamed howns new, ?_, fun _ => ⟨_, htarget, ?_⟩⟩, ?_⟩
  · exact fun n hn hof => absurd hof (hnone n hn)
  · rw [FileName.isZettelFile_rename hown hz hnew, hseen]
  · exact isLive_of_name (FileName.owns_rename hown new).isName.ne_empty
      (eq_of_mem_targets htarget).symm

end StandsFor

end Entry

namespace Catalog

/-- The zettel that the names belong to. -/
def zidsOf (names : List String) : Finset Zid := (names.map Zid.ofFileName).toFinset

/-- Entries for just the zettel of the names, each with all its files. -/
structure Tallies (find : Zid → Option Entry) (names : List String) : Prop where
  standsFor : ∀ z e, find z = some e → e.StandsFor z names
  isLive : ∀ z e, find z = some e → e.isLive = true
  listed : ∀ z, (find z).isSome = true ↔ ∃ n ∈ names, Zid.ofFileName n = z

variable {find : Zid → Option Entry} {names names' : List String} {z : Zid} {e : Entry}

theorem mem_zidsOf : z ∈ zidsOf names ↔ ∃ n ∈ names, Zid.ofFileName n = z := by
  unfold zidsOf
  rw [List.mem_toFinset, List.mem_map]

/-! ## 1. After a scan -/

theorem Stocked.addFiles {cat : Catalog} (h : cat.Stocked) (hnames : ∀ n ∈ names, '/' ∉ n.toList) :
    (cat.addFiles names).Stocked := by
  induction names generalizing cat with
  | nil => exact h
  | cons name rest ih =>
    have hfirst := h.addFile (hnames name List.mem_cons_self)
    rw [addFiles_cons]
    exact ih hfirst fun n hn => hnames n (List.mem_cons_of_mem name hn)

theorem tallies_addFiles (hzettel : ∀ n ∈ names, isZettelFile n = true)
    (hslash : ∀ n ∈ names, '/' ∉ n.toList) :
    Tallies (fun z => (addFiles ∅ names)[z]?) names := by
  have hmirrors := mirrors_empty.addFiles names
  have hstocked := stocked_empty.addFiles hslash
  rw [Finset.empty_union] at hmirrors
  constructor
  · intro z e he
    rcases hmirrors.arranges_of_some he with ⟨hz, -, -, harranges⟩
    refine ⟨hstocked z e he, hz, ?_, ?_, ?_⟩
    · intro n hn
      rcases mem_namesOf.mp (harranges.mem_files.mp hn) with ⟨hn, hzid⟩
      exact (Zid.owns_iff hz).mpr ⟨hslash n (List.mem_toFinset.mp hn), hzid⟩
    · intro n hn hzid
      exact harranges.mem_files.mpr (mem_namesOf.mpr ⟨List.mem_toFinset.mpr hn, hzid⟩)
    · intro hlive
      rcases harranges.exists_target hlive with ⟨n, hn, hin⟩
      exact ⟨n, hn, hzettel n (List.mem_toFinset.mp (mem_namesOf.mp hin).1)⟩
  · intro z e he
    rcases hmirrors.arranges_of_some he with ⟨-, -, hne, harranges⟩
    exact harranges.isLive_iff.mpr hne
  · intro z
    rw [← Std.ExtTreeMap.mem_iff_isSome_getElem?, hmirrors.mem_iff]
    constructor
    · rintro ⟨-, n, hn, hzid⟩
      exact ⟨n, List.mem_toFinset.mp hn, hzid⟩
    · rintro ⟨n, hn, hzid⟩
      refine ⟨?_, n, List.mem_toFinset.mpr hn, hzid⟩
      have hseen := hzettel n hn
      unfold isZettelFile at hseen
      rw [hzid] at hseen
      exact (Bool.and_eq_true_iff.mp hseen).1

namespace Tallies

/-! ## 2. After a zettel was stored or deleted -/

theorem not_listed (h : Tallies find names) (hz : find z = none) :
    ∀ n ∈ names, Zid.ofFileName n ≠ z := by
  intro n hn hzid
  have hsome := (h.listed z).mpr ⟨n, hn, hzid⟩
  rw [hz] at hsome
  cases hsome

/-- What there is of a zettel, or an entry to begin with. -/
theorem standsFor_getD (h : Tallies find names) (hz : z.isValid = true) :
    ((find z).getD (Entry.new z)).StandsFor z names := by
  cases he : find z with
  | none => exact .new hz (h.not_listed he)
  | some e => exact h.standsFor z e he

theorem stored (h : Tallies find names) (he : e.StandsFor z names) (hlive : e.isLive = true)
    (hnames : ∀ n, n ∈ names' ↔ n ∈ names ∨ isZettelFile n = true ∧ n ∈ e.targets) :
    Tallies (Function.update find z (some e)) names' := by
  have htargets : ∀ n ∈ e.targets, n ∈ e.files :=
    fun n hn => he.arisen.named.mem_files_of_mem_targets hn
  -- The new files belong to this zettel only.
  have hother : ∀ a, a ≠ z → ∀ n ∈ names', Zid.ofFileName n = a → n ∈ names := by
    intro a ha n hn hzid
    rcases (hnames n).mp hn with hold | hnew
    · exact hold
    · exact absurd (hzid.symm.trans (he.ofFileName (htargets n hnew.2))) ha
  constructor
  · intro a x hx
    by_cases ha : a = z
    · rw [ha, Function.update_self] at hx
      cases hx
      rw [ha]
      refine he.congr fun n hn _ => ?_
      exact ((hnames n).mp hn).imp_right fun hnew => htargets n hnew.2
    · rw [Function.update_of_ne ha] at hx
      exact (h.standsFor a x hx).congr fun n hn hzid => .inl (hother a ha n hn hzid)
  · intro a x hx
    by_cases ha : a = z
    · rw [ha, Function.update_self] at hx
      cases hx
      exact hlive
    · rw [Function.update_of_ne ha] at hx
      exact h.isLive a x hx
  · intro a
    by_cases ha : a = z
    · rcases he.shown hlive with ⟨n, hn, hseen⟩
      rw [ha, Function.update_self]
      refine iff_of_true rfl ⟨n, (hnames n).mpr (.inr ⟨hseen, hn⟩), ?_⟩
      exact he.ofFileName (htargets n hn)
    · rw [Function.update_of_ne ha, h.listed]
      constructor
      · rintro ⟨n, hn, hzid⟩
        exact ⟨n, (hnames n).mpr (.inl hn), hzid⟩
      · rintro ⟨n, hn, hzid⟩
        exact ⟨n, hother a ha n hn hzid, hzid⟩

theorem deleted (h : Tallies find names) (he : find z = some e)
    (hnames : ∀ n, n ∈ names' ↔ n ∈ names ∧ n ∉ e.files) :
    Tallies (Function.update find z none) names' := by
  have hstands := h.standsFor z e he
  have hne : ∀ a x, Function.update find z none a = some x → a ≠ z ∧ find a = some x := by
    intro a x hx
    by_cases ha : a = z
    · rw [ha, Function.update_self] at hx
      cases hx
    · rw [Function.update_of_ne ha] at hx
      exact ⟨ha, hx⟩
  constructor
  · intro a x hx
    refine (h.standsFor a x (hne a x hx).2).congr fun n hn _ => ?_
    exact .inl ((hnames n).mp hn).1
  · exact fun a x hx => h.isLive a x (hne a x hx).2
  · intro a
    by_cases ha : a = z
    · -- Every listed file of the zettel was one of its entry.
      rw [ha, Function.update_self]
      refine iff_of_false Bool.false_ne_true ?_
      rintro ⟨n, hn, hzid⟩
      rcases (hnames n).mp hn with ⟨hold, hgone⟩
      exact hgone (hstands.covers n hold hzid)
    · rw [Function.update_of_ne ha, h.listed]
      constructor
      · rintro ⟨n, hn, hzid⟩
        refine ⟨n, (hnames n).mpr ⟨hn, fun hin => ?_⟩, hzid⟩
        exact ha (hzid.symm.trans (hstands.ofFileName hin))
      · rintro ⟨n, hn, hzid⟩
        exact ⟨n, ((hnames n).mp hn).1, hzid⟩

theorem zidsOf_stored (h : Tallies find names)
    (h' : Tallies (Function.update find z (some e)) names') :
    zidsOf names' = insert z (zidsOf names) := by
  ext a
  rw [Finset.mem_insert, mem_zidsOf, mem_zidsOf, ← h'.listed, ← h.listed]
  by_cases ha : a = z
  · rw [ha, Function.update_self]
    exact iff_of_true rfl (.inl rfl)
  · rw [Function.update_of_ne ha]
    exact (or_iff_right ha).symm

theorem zidsOf_deleted (h : Tallies find names) (h' : Tallies (Function.update find z none) names') :
    zidsOf names' = (zidsOf names).erase z := by
  ext a
  rw [Finset.mem_erase, mem_zidsOf, mem_zidsOf, ← h'.listed, ← h.listed]
  by_cases ha : a = z
  · rw [ha, Function.update_self]
    exact iff_of_false Bool.false_ne_true fun hin => hin.1 rfl
  · rw [Function.update_of_ne ha]
    exact (and_iff_right ha).symm

end Tallies

end Catalog

namespace Service

variable {s s' : Service} {e : Entry} {z : Zid} {names : List String}

/-! ## 3. The zettel that a service lists -/

theorem mem_entries {accept : Zid → Bool} :
    e ∈ s.entries accept ↔ ∃ z, accept z = true ∧ s.entry? z = some e := by
  unfold entries entry?
  cases s.catalog with
  | none => simp
  | some cat =>
    show e ∈ Catalog.entries cat accept ↔ ∃ z, accept z = true ∧ cat[z]? = some e
    unfold Catalog.entries
    rw [List.mem_filterMap]
    constructor
    · rintro ⟨⟨z, found⟩, hmem, hfound⟩
      dsimp only at hfound
      split at hfound
      next haccept =>
        cases hfound
        exact ⟨z, haccept, Std.ExtTreeMap.mem_toList_iff_getElem?_eq_some.mp hmem⟩
      next => cases hfound
    · rintro ⟨z, haccept, he⟩
      exact ⟨(z, e), Std.ExtTreeMap.mem_toList_iff_getElem?_eq_some.mpr he, if_pos haccept⟩

theorem getElem_insert_eq_update (cat : Catalog) (z : Zid) (e : Entry) :
    (fun a => (cat.insert z e)[a]?) = Function.update (fun a => cat[a]?) z (some e) := by
  funext a
  rw [getElem?_insert_eq, Function.update_apply]

theorem getElem_erase_eq_update (cat : Catalog) (z : Zid) :
    (fun a => (cat.erase z)[a]?) = Function.update (fun a => cat[a]?) z none := by
  funext a
  rw [getElem?_erase_eq, Function.update_apply]

/-- The identifier that is reserved was free. -/
theorem entry_eq_of_reserve {now : Time} (h : s.reserve now = .ok (z, s')) :
    z.isValid = true ∧ s.entry? z = none ∧
      s'.entry? = Function.update s.entry? z (some (Entry.new z)) := by
  rcases exists_of_bind_eq_ok h with ⟨cat, hc, h⟩
  have hentry := entry_eq (catalog_of_present hc)
  split at h
  next found hfresh =>
    cases h
    rcases Zid.of_fresh hfresh with ⟨hvalid, hfree⟩
    refine ⟨hvalid, ?_, ?_⟩
    · rw [hentry]
      exact Std.ExtTreeMap.getElem?_eq_none_of_contains_eq_false (Bool.not_eq_true' _ ▸ hfree)
    · rw [hentry, ← getElem_insert_eq_update]
      rfl
  next => cases h

theorem entry_eq_of_put (h : s.put e = .ok s') :
    s'.entry? = Function.update s.entry? e.zid (some e) := by
  rcases exists_of_bind_eq_ok h with ⟨cat, hc, hs⟩
  cases hs
  rw [entry_eq (catalog_of_present hc), ← getElem_insert_eq_update]
  rfl

theorem entry_eq_of_drop (h : s.drop z = .ok s') : s'.entry? = Function.update s.entry? z none := by
  rcases exists_of_bind_eq_ok h with ⟨cat, hc, hs⟩
  cases hs
  rw [entry_eq (catalog_of_present hc), ← getElem_erase_eq_update]
  rfl

/-- The identifier that an entry is moved to was free. -/
theorem entry_eq_of_rename {old : Entry} {new : Zid} (h : s.rename old new = .ok (e, s')) :
    s.entry? new = none ∧ e = old.renamed new ∧
      s'.entry? = Function.update (Function.update s.entry? old.zid none) new (some e) := by
  rcases exists_of_bind_eq_ok h with ⟨cat, hc, h⟩
  have hentry := entry_eq (catalog_of_present hc)
  split at h
  next => cases h
  next htaken =>
    cases h
    refine ⟨?_, rfl, ?_⟩
    · rw [hentry]
      exact Std.ExtTreeMap.getElem?_eq_none_of_contains_eq_false (eq_false_of_ne_true htaken)
    · rw [hentry, ← getElem_erase_eq_update, ← getElem_insert_eq_update]
      rfl

end Service

end Kasten
