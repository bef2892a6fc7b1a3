import Kasten.Catalog.Basic
import Kasten.Proofs.Entry.Arrangement
import Kasten.Proofs.Map

/-!
# Catalogs and sets of file names

A catalog mirrors a set of file names: it has an entry for each valid identifier that one of the
names starts with, and that entry arranges all the names that start so. Taking a file in or out
changes the catalog at one identifier and the set at one name.
-/

namespace Kasten.Catalog

/-- Those of the names that start with the identifier. -/
def namesOf (names : Finset String) (z : Zid) : Finset String :=
  names.filter fun n => Zid.ofFileName n = z

/-- What a catalog has for an identifier whose names these are. -/
inductive Holds (z : Zid) (names : Finset String) : Option Entry → Prop where
  | nothing (h : names = ∅) : Holds z names none
  | entry (e : Entry) (hz : e.zid = z) (hn : names.Nonempty) (h : e.Arranges names) :
      Holds z names (some e)

structure Mirrors (cat : Catalog) (names : Finset String) : Prop where
  valid : ∀ z : Zid, z.isValid = true → Holds z (namesOf names z) cat[z]?
  invalid : ∀ z : Zid, z.isValid = false → cat[z]? = none

variable {cat cat' : Catalog} {names names' : Finset String} {name : String} {z : Zid}

/-! ## 1. The names of one zettel -/

theorem mem_namesOf {n : String} : n ∈ namesOf names z ↔ n ∈ names ∧ Zid.ofFileName n = z :=
  Finset.mem_filter

theorem namesOf_insert_self :
    namesOf (insert name names) (Zid.ofFileName name) =
      insert name (namesOf names (Zid.ofFileName name)) := by
  unfold namesOf
  rw [Finset.filter_insert, if_pos rfl]

theorem namesOf_insert_of_ne (hz : z ≠ Zid.ofFileName name) :
    namesOf (insert name names) z = namesOf names z := by
  unfold namesOf
  rw [Finset.filter_insert, if_neg hz.symm]

theorem namesOf_erase : namesOf (names.erase name) z = (namesOf names z).erase name :=
  Finset.filter_erase _ name names

theorem namesOf_erase_of_ne (hz : z ≠ Zid.ofFileName name) :
    namesOf (names.erase name) z = namesOf names z := by
  rw [namesOf_erase]
  apply Finset.erase_eq_of_notMem
  intro hn
  exact hz (mem_namesOf.mp hn).2.symm

/-- A name with a valid identifier is a name at all. -/
theorem ne_empty_of_isValid (h : (Zid.ofFileName name).isValid = true) : name ≠ "" := by
  intro he
  rw [he] at h
  exact absurd h (by decide)

/-! ## 2. One identifier at a time -/

theorem Holds.arranges {names : Finset String} (h : Holds z names cat[z]?) :
    (cat.getD z (Entry.new z)).Arranges names ∧ (cat.getD z (Entry.new z)).zid = z := by
  cases hc : cat[z]? with
  | none =>
    rw [hc] at h
    cases h with
    | nothing h =>
      rw [getD_of_getElem?_none hc, h]
      exact ⟨.new z, rfl⟩
  | some e =>
    rw [hc] at h
    cases h with
    | entry _ hz _ h =>
      rw [getD_of_getElem? hc]
      exact ⟨h, hz⟩

theorem mirrors_empty : Mirrors ∅ ∅ where
  valid z _ := by
    rw [Std.ExtTreeMap.getElem?_empty]
    exact .nothing (Finset.filter_empty _)
  invalid z _ := Std.ExtTreeMap.getElem?_empty

/-- An entry is held only for a valid identifier. -/
theorem Mirrors.arranges_of_some {e : Entry} (h : cat.Mirrors names) (hc : cat[z]? = some e) :
    z.isValid = true ∧ e.zid = z ∧ (namesOf names z).Nonempty ∧ e.Arranges (namesOf names z) := by
  have hv : z.isValid = true := by
    by_contra hv
    rw [h.invalid z (eq_false_of_ne_true hv)] at hc
    exact Option.some_ne_none e hc.symm
  have hold := h.valid z hv
  rw [hc] at hold
  cases hold with
  | entry _ hz hn ha => exact ⟨hv, hz, hn, ha⟩

/-- The catalog changes at one valid identifier, and so do the names. -/
theorem Mirrors.change (h : cat.Mirrors names) (hv : z.isValid = true)
    (hc : ∀ a, a ≠ z → cat'[a]? = cat[a]?)
    (hn : ∀ a, a ≠ z → namesOf names' a = namesOf names a)
    (hz : Holds z (namesOf names' z) cat'[z]?) : cat'.Mirrors names' where
  valid a ha := by
    by_cases he : a = z
    · rw [he]
      exact hz
    · rw [hc a he, hn a he]
      exact h.valid a ha
  invalid a ha := by
    have he : a ≠ z := by
      intro he
      rw [he, hv] at ha
      exact Bool.noConfusion ha
    rw [hc a he]
    exact h.invalid a ha

/-- The same catalog mirrors another set if that has the same names for every valid identifier. -/
theorem Mirrors.congr (h : cat.Mirrors names)
    (hn : ∀ a, a.isValid = true → namesOf names' a = namesOf names a) : cat.Mirrors names' where
  valid a ha := by
    rw [hn a ha]
    exact h.valid a ha
  invalid := h.invalid

/-! ## 3. Files come and go -/

theorem Mirrors.addFile (h : cat.Mirrors names) (name : String) :
    (cat.addFile name).Mirrors (insert name names) := by
  unfold Catalog.addFile
  dsimp only
  by_cases hv : (Zid.ofFileName name).isValid = true
  · rw [if_pos hv]
    rcases (h.valid _ hv).arranges with ⟨ha, hz⟩
    apply h.change hv
    · intro a hne
      rw [getElem?_insert_eq, if_neg hne]
    · intro a hne
      exact namesOf_insert_of_ne hne
    · -- A zettel seen for the first time starts from an entry that arranges nothing.
      rw [getElem?_insert_eq, if_pos rfl, namesOf_insert_self]
      apply Holds.entry
      · rw [Entry.zid_add, hz]
      · exact Finset.insert_nonempty _ _
      · exact ha.add (ne_empty_of_isValid hv)
  · -- The name belongs to no valid identifier.
    rw [if_neg hv]
    apply h.congr
    intro a ha
    apply namesOf_insert_of_ne
    intro he
    exact hv (he ▸ ha)

/-- A name whose identifier the catalog does not have is not among the names that count. -/
theorem Mirrors.erase_of_none (h : cat.Mirrors names) (hc : cat[Zid.ofFileName name]? = none) :
    cat.Mirrors (names.erase name) := by
  apply h.congr
  intro a ha
  rw [namesOf_erase]
  apply Finset.erase_eq_of_notMem
  intro hn
  have he : Zid.ofFileName name = a := (mem_namesOf.mp hn).2
  have hold := h.valid a ha
  rw [← he, hc] at hold
  cases hold with
  | nothing hnone =>
    rw [he] at hnone
    rw [hnone] at hn
    exact Finset.notMem_empty _ hn

theorem Mirrors.removeFile_of_some {e : Entry} (h : cat.Mirrors names)
    (hc : cat[Zid.ofFileName name]? = some e) :
    Mirrors (if (e.remove name).1.isLive = true
      then cat.insert (Zid.ofFileName name) (e.remove name).1
      else cat.erase (Zid.ofFileName name)) (names.erase name) := by
  rcases h.arranges_of_some hc with ⟨hv, hz, -, ha⟩
  have hrest := ha.remove (ne_empty_of_isValid hv)
  rw [← namesOf_erase] at hrest
  by_cases hl : (e.remove name).1.isLive = true
  · rw [if_pos hl]
    apply h.change hv
    · intro a hne
      rw [getElem?_insert_eq, if_neg hne]
    · intro a hne
      exact namesOf_erase_of_ne hne
    · rw [getElem?_insert_eq, if_pos rfl]
      exact .entry _ ((Entry.zid_remove e name).trans hz) (hrest.isLive_iff.mp hl) hrest
  · -- Nothing is left of the zettel, so its entry goes too.
    rw [if_neg hl]
    apply h.change hv
    · intro a hne
      rw [getElem?_erase_eq, if_neg hne]
    · intro a hne
      exact namesOf_erase_of_ne hne
    · rw [getElem?_erase_eq, if_pos rfl]
      apply Holds.nothing
      rw [← Finset.not_nonempty_iff_eq_empty]
      exact fun hn => hl (hrest.isLive_iff.mpr hn)

theorem Mirrors.removeFile (h : cat.Mirrors names) (name : String) :
    (cat.removeFile name).1.Mirrors (names.erase name) := by
  unfold Catalog.removeFile
  dsimp only
  cases hc : cat[Zid.ofFileName name]? with
  | none => exact h.erase_of_none hc
  | some e =>
    have hrest := h.removeFile_of_some hc
    dsimp only
    split at hrest
    next hl =>
      rw [if_pos hl]
      exact hrest
    next hl =>
      rw [if_neg hl]
      exact hrest

/-! ## 4. Reading the catalog -/

/-- The catalog is what folding the names gives, but for the order of the files passed over. -/
structure Reflects (cat : Catalog) (names : Finset String) : Prop where
  mem_iff : ∀ z : Zid, z ∈ cat ↔ z.isValid = true ∧ ∃ n ∈ names, Zid.ofFileName n = z
  alike : ∀ (z : Zid) (e : Entry), cat[z]? = some e → ∀ files : List String,
    (∀ n, n ∈ files ↔ n ∈ names ∧ Zid.ofFileName n = z) → e.Alike ((Entry.new z).addAll files)

theorem Mirrors.mem_iff (h : cat.Mirrors names) (z : Zid) :
    z ∈ cat ↔ z.isValid = true ∧ ∃ n ∈ names, Zid.ofFileName n = z := by
  rw [Std.ExtTreeMap.mem_iff_isSome_getElem?, ← Finset.filter_nonempty_iff]
  by_cases hv : z.isValid = true
  · have hold := h.valid z hv
    cases hc : cat[z]? with
    | none =>
      rw [hc] at hold
      cases hold with
      | nothing hnone =>
        show _ ↔ _ ∧ (namesOf names z).Nonempty
        rw [hnone]
        simp
    | some e =>
      rw [hc] at hold
      cases hold with
      | entry _ _ hn _ => exact ⟨fun _ => ⟨hv, hn⟩, fun _ => rfl⟩
  · rw [h.invalid z (eq_false_of_ne_true hv)]
    simp [hv]

theorem Mirrors.reflects (h : cat.Mirrors names) : cat.Reflects names where
  mem_iff := h.mem_iff
  alike z e he files hfiles := by
    rcases h.arranges_of_some he with ⟨-, hz, -, ha⟩
    -- Folding the files starts from no names, so it arranges just those of the zettel.
    have hset : ∅ ∪ files.toFinset = namesOf names z := by
      ext n
      rw [Finset.empty_union, List.mem_toFinset, hfiles, mem_namesOf]
    have hempty : "" ∉ files := fun hin => ha.named (mem_namesOf.mpr ((hfiles "").mp hin))
    have hfold := (Entry.Arranges.new z).addAll files hempty
    rw [hset] at hfold
    exact ha.alike hfold (hz.trans (Entry.zid_addAll (Entry.new z) files).symm)

end Kasten.Catalog
