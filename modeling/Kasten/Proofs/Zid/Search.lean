import Mathlib.Data.Finset.Basic
import Mathlib.Data.Finset.SDiff
import Mathlib.Data.List.Destutter
import Mathlib.Data.List.Dedup
import Kasten.Proofs.Zid.Slice

/-!
# Slices as searched sets

A binary search in an ascending slice ends at the identifier, or at the place where it belongs, so
putting in and taking out at that place add and remove just this identifier. Every slice that
comes from the operations ascends, and is a finite set as far as they can tell.
-/

namespace Kasten.ZidSlice

/-! ## 1. Places -/

/-- What a search finds in a list whose first place is `start`. -/
inductive Locates (z : Zid) (start : Nat) (ids : List Zid) : Except Nat Nat → Prop where
  | found (front back : List Zid) : ids = front ++ z :: back →
      Locates z start ids (.ok (start + front.length))
  | missing (front back : List Zid) : ids = front ++ back → (∀ a ∈ front, a < z) →
      (∀ a ∈ back, z < a) → Locates z start ids (.error (start + front.length))

section Halves

variable {z middle : Zid} {start : Nat} {lower upper : List Zid} {place : Except Nat Nat}

/-- All that is not below the middle can be left out when the identifier is. -/
theorem Locates.of_lower (h : Locates z start lower place) (hz : z < middle)
    (hupper : ∀ a ∈ upper, middle < a) : Locates z start (lower ++ middle :: upper) place := by
  cases h with
  | found front back hids =>
    refine .found front (back ++ middle :: upper) ?_
    rw [hids, List.append_assoc, List.cons_append]
  | missing front back hids hfront hback =>
    refine .missing front (back ++ middle :: upper) ?_ hfront ?_
    · rw [hids, List.append_assoc]
    · intro a ha
      rcases List.mem_append.mp ha with ha | ha
      · exact hback a ha
      · rcases List.mem_cons.mp ha with rfl | ha
        · exact hz
        · exact Zid.lt_trans hz (hupper a ha)

/-- All that is not above the middle can be left out when the identifier is. -/
theorem Locates.of_upper (h : Locates z (start + lower.length + 1) upper place)
    (hz : middle < z) (hlower : ∀ a ∈ lower, a < middle) :
    Locates z start (lower ++ middle :: upper) place := by
  have hlength : ∀ front : List Zid, start + lower.length + 1 + front.length =
      start + (lower ++ middle :: front).length := by
    intro front
    rw [List.length_append, List.length_cons]
    omega
  cases h with
  | found front back hids =>
    rw [hlength]
    refine .found _ back ?_
    rw [hids, List.append_assoc, List.cons_append]
  | missing front back hids hfront hback =>
    rw [hlength]
    refine .missing _ back ?_ ?_ hback
    · rw [hids, List.append_assoc, List.cons_append]
    · intro a ha
      rcases List.mem_append.mp ha with ha | ha
      · exact Zid.lt_trans (hlower a ha) hz
      · rcases List.mem_cons.mp ha with rfl | ha
        · exact hz
        · exact hfront a ha

end Halves

/-- The middle of a list, and what is on its sides. -/
theorem eq_halves {ids : List Zid} {middle : Zid} {upper : List Zid}
    (h : ids.drop (ids.length / 2) = middle :: upper) :
    ids = ids.take (ids.length / 2) ++ middle :: upper ∧
      (ids.take (ids.length / 2)).length = ids.length / 2 := by
  refine ⟨?_, ?_⟩
  · rw [← h, List.take_append_drop]
  · rw [List.length_take]
    omega

theorem sides_of_middle {lower upper : List Zid} {middle : Zid}
    (h : (lower ++ middle :: upper).Pairwise (· < ·)) :
    (∀ a ∈ lower, a < middle) ∧ ∀ a ∈ upper, middle < a := by
  rcases List.pairwise_append.mp h with ⟨-, hupper, hlower⟩
  exact ⟨fun a ha => hlower a ha middle List.mem_cons_self, (List.pairwise_cons.mp hupper).1⟩

theorem locates_searchIds {z : Zid} {ids : List Zid} (h : ids.Pairwise (· < ·)) (start : Nat) :
    Locates z start ids (searchIds z start ids) := by
  -- By induction over the halves; the one that is left out is on the other side of the middle.
  fun_induction searchIds z start ids with
  | case1 start ids hnil =>
    have hlength := congrArg List.length hnil
    rw [List.length_drop, List.length_nil] at hlength
    have hids : ids = [] := List.eq_nil_of_length_eq_zero (by omega)
    exact .missing [] [] hids (fun _ ha => absurd ha List.not_mem_nil)
      fun _ ha => absurd ha List.not_mem_nil
  | case2 start ids middle upper hdrop hlt ih =>
    rcases eq_halves hdrop with ⟨hids, -⟩
    have hsides := sides_of_middle (hids ▸ h)
    have hwhole := (ih (h.sublist (List.take_sublist _ ids))).of_lower hlt hsides.2
    rwa [← hids] at hwhole
  | case3 start ids middle upper hdrop hle hlt ih =>
    rcases eq_halves hdrop with ⟨hids, hlower⟩
    have hsides := sides_of_middle (hids ▸ h)
    have hupper : upper.Pairwise (· < ·) :=
      (List.pairwise_cons.mp (hdrop ▸ h.sublist (List.drop_sublist _ ids))).2
    have hwhole := (hlower ▸ ih hupper).of_upper hlt hsides.1
    rwa [← hids, hlower] at hwhole
  | case4 start ids middle upper hdrop hle hge =>
    rcases eq_halves hdrop with ⟨hids, hlower⟩
    have heq := Zid.eq_of_not_lt hge hle
    have hwhole : Locates z start ids (.ok (start + (ids.take (ids.length / 2)).length)) :=
      .found _ upper (heq ▸ hids)
    rwa [hlower] at hwhole

theorem locates_search {s : ZidSlice} (h : s.Ascending) (z : Zid) :
    Locates z 0 s.ids (s.search z) :=
  locates_searchIds h 0

/-- The identifier belongs between the second and the third. -/
example : (⟨[⟨2⟩, ⟨5⟩, ⟨9⟩]⟩ : ZidSlice).search ⟨6⟩ = .error 2 := by
  cbv

/-! ## 2. What is reported -/

theorem insertIdx_append (front back : List Zid) (z : Zid) :
    (front ++ back).insertIdx front.length z = front ++ z :: back := by
  induction front with
  | nil => exact List.insertIdx_zero
  | cons a front ih =>
    rw [List.cons_append, List.length_cons, List.insertIdx_succ_cons, ih, List.cons_append]

theorem eraseIdx_append (front back : List Zid) (z : Zid) :
    (front ++ z :: back).eraseIdx front.length = front ++ back := by
  rw [List.eraseIdx_append_of_length_le (Nat.le_refl _), Nat.sub_self, List.eraseIdx_cons_zero]

section Report

variable {s : ZidSlice} {z : Zid} {front back : List Zid}

theorem contains_of_found (hids : s.ids = front ++ z :: back) : s.contains z = true := by
  rw [contains_iff, mem_def, hids]
  exact List.mem_append_right front List.mem_cons_self

theorem contains_of_missing (hids : s.ids = front ++ back) (hfront : ∀ a ∈ front, a < z)
    (hback : ∀ a ∈ back, z < a) : s.contains z = false := by
  rw [Bool.eq_false_iff, ne_eq, contains_iff, mem_def, hids]
  intro hz
  rcases List.mem_append.mp hz with hz | hz
  · exact z.lt_irrefl (hfront z hz)
  · exact z.lt_irrefl (hback z hz)

/-- At the place where it is missing the identifier fits in. -/
theorem insert_of_missing (h : s.Ascending) (hids : s.ids = front ++ back)
    (hfront : ∀ a ∈ front, a < z) (hback : ∀ a ∈ back, z < a) :
    s.insert z = ⟨front ++ z :: back⟩ := by
  have hordered : (front ++ back).Pairwise (· < ·) := hids ▸ h
  rcases List.pairwise_append.mp hordered with ⟨hf, hb, hcross⟩
  have hnew : (⟨front ++ z :: back⟩ : ZidSlice).Ascending := by
    refine List.pairwise_append.mpr ⟨hf, List.pairwise_cons.mpr ⟨hback, hb⟩, ?_⟩
    intro a ha b hb
    rcases List.mem_cons.mp hb with rfl | hb
    · exact hfront a ha
    · exact hcross a ha b hb
  refine (h.insert z).ext hnew fun a => ?_
  rw [mem_insert, mem_def, mem_def, hids, List.mem_append, List.mem_append, List.mem_cons]
  tauto

/-- Taken out at its place, the identifier is gone and nothing else is. -/
theorem erase_of_found (h : s.Ascending) (hids : s.ids = front ++ z :: back) :
    s.erase z = ⟨front ++ back⟩ := by
  have hordered : (front ++ z :: back).Pairwise (· < ·) := hids ▸ h
  have hsides := sides_of_middle hordered
  have hnew : (⟨front ++ back⟩ : ZidSlice).Ascending := by
    have hsublist : (front ++ back).Sublist s.ids := by
      rw [hids]
      exact List.Sublist.append_left (List.sublist_cons_self z back) front
    exact List.Pairwise.sublist hsublist h
  refine (h.erase z).ext hnew fun a => ?_
  rw [mem_erase, mem_def, mem_def, hids, List.mem_append, List.mem_append, List.mem_cons]
  constructor
  · tauto
  · rintro (ha | ha)
    · exact ⟨Zid.ne_of_lt (hsides.1 a ha), Or.inl ha⟩
    · exact ⟨(Zid.ne_of_lt (hsides.2 a ha)).symm, Or.inr (Or.inr ha)⟩

theorem isOk_search (h : s.Ascending) (z : Zid) : (s.search z).isOk = s.contains z := by
  have hplace := locates_search h z
  generalize s.search z = place at hplace
  cases hplace with
  | found front back hids => exact (contains_of_found hids).symm
  | missing front back hids hfront hback => exact (contains_of_missing hids hfront hback).symm

theorem insertNew_eq (h : s.Ascending) (z : Zid) :
    s.insertNew z = (!s.contains z, s.insert z) := by
  have hplace := locates_search h z
  unfold insertNew
  generalize s.search z = place at hplace
  cases hplace with
  | found front back hids =>
    have hz := contains_of_found hids
    rw [hz, h.insert_of_mem ((contains_iff s z).mp hz)]
    rfl
  | missing front back hids hfront hback =>
    rw [contains_of_missing hids hfront hback, insert_of_missing h hids hfront hback]
    dsimp only
    rw [hids, Nat.zero_add, insertIdx_append]
    rfl

theorem eraseOld_eq (h : s.Ascending) (z : Zid) :
    s.eraseOld z = (s.contains z, s.erase z) := by
  have hplace := locates_search h z
  unfold eraseOld
  generalize s.search z = place at hplace
  cases hplace with
  | found front back hids =>
    rw [contains_of_found hids, erase_of_found h hids]
    dsimp only
    rw [hids, Nat.zero_add, eraseIdx_append]
  | missing front back hids hfront hback =>
    have hz := contains_of_missing hids hfront hback
    rw [hz, erase_of_not_mem fun hmem => absurd ((contains_iff s z).mpr hmem) (by rw [hz]; decide)]

end Report

/-! ## 3. Slices of lists -/

instance : Std.Antisymm (fun a b : Zid => a ≤ b) :=
  ⟨fun _ _ hab hba => Zid.val_inj.mp (Nat.le_antisymm hab hba)⟩

theorem ascending_ofList (zs : List Zid) : (ofList zs).Ascending :=
  List.foldlRecOn (motive := Ascending) zs insert ascending_empty fun _ h z _ => h.insert z

theorem pairwise_mergeSort (zs : List Zid) : zs.mergeSort.Pairwise fun a b => a ≤ b := by
  have htrans : ∀ a b c : Zid, decide (a ≤ b) = true → decide (b ≤ c) = true →
      decide (a ≤ c) = true := by
    intro a b c hab hbc
    exact decide_eq_true (Nat.le_trans (of_decide_eq_true hab) (of_decide_eq_true hbc))
  have htotal : ∀ a b : Zid, (decide (a ≤ b) || decide (b ≤ a)) = true := by
    intro a b
    rw [Bool.or_eq_true, decide_eq_true_iff, decide_eq_true_iff]
    exact Nat.le_total a.val b.val
  exact (List.pairwise_mergeSort htrans htotal zs).imp of_decide_eq_true

theorem ascending_dedup {zs : List Zid} (h : zs.Pairwise fun a b => a ≤ b) :
    (⟨zs.dedup⟩ : ZidSlice).Ascending := by
  have hle := h.sublist (List.dedup_sublist zs)
  refine (hle.and (List.nodup_dedup zs)).imp ?_
  rintro a b ⟨hab, hne⟩
  rw [ne_eq, ← Zid.val_inj] at hne
  exact Nat.lt_of_le_of_ne hab hne

/-- A slice of a list is the list in order, with what is repeated taken once. -/
theorem ids_ofList (zs : List Zid) : (ofList zs).ids = zs.mergeSort.destutter (· ≠ ·) := by
  -- In a sorted list what is repeated stands side by side, and both sides ascend.
  have hsorted := pairwise_mergeSort zs
  rw [hsorted.destutter_eq_dedup]
  refine congrArg ids ((ascending_ofList zs).ext (ascending_dedup hsorted) fun z => ?_)
  rw [mem_ofList]
  show z ∈ zs ↔ z ∈ List.dedup _
  rw [List.mem_dedup, List.mem_mergeSort]

/-! ## 4. Finite sets -/

/-- The slices that the operations give. -/
inductive Obtainable : ZidSlice → Prop where
  | new : Obtainable empty
  | ofList (zs : List Zid) : Obtainable (ofList zs)
  | insert {s : ZidSlice} (z : Zid) : Obtainable s → Obtainable (s.insertNew z).2
  | erase {s : ZidSlice} (z : Zid) : Obtainable s → Obtainable (s.eraseOld z).2
  | added {new old : ZidSlice} : Obtainable new → Obtainable old → Obtainable (new.diff old).1
  | removed {new old : ZidSlice} : Obtainable new → Obtainable old → Obtainable (new.diff old).2
  | without {s other : ZidSlice} : Obtainable s → Obtainable other → Obtainable (s.without other)

theorem Obtainable.ascending {s : ZidSlice} (h : s.Obtainable) : s.Ascending := by
  induction h with
  | new => exact ascending_empty
  | ofList zs => exact ascending_ofList zs
  | insert z _ ih =>
    rw [insertNew_eq ih]
    exact ih.insert z
  | erase z _ ih =>
    rw [eraseOld_eq ih]
    exact ih.erase z
  | added _ _ hnew hold => exact (hnew.diff hold).1
  | removed _ _ hnew hold => exact (hnew.diff hold).2
  | without _ _ ih _ => exact ih.without _

/-- The identifiers of a slice as a finite set. -/
def zids (s : ZidSlice) : Finset Zid := s.ids.toFinset

theorem mem_zids {s : ZidSlice} {z : Zid} : z ∈ s.zids ↔ z ∈ s := List.mem_toFinset

theorem zids_empty : (∅ : ZidSlice).zids = ∅ := rfl

theorem zids_ofList (zs : List Zid) : (ofList zs).zids = zs.toFinset := by
  ext z
  rw [mem_zids, mem_ofList, List.mem_toFinset]

theorem zids_without (s t : ZidSlice) : (s.without t).zids = s.zids \ t.zids := by
  ext z
  rw [mem_zids, mem_without, Finset.mem_sdiff, mem_zids, mem_zids]

section Ascending

variable {s t : ZidSlice} (hs : s.Ascending)

include hs

theorem zids_insertNew (z : Zid) : (s.insertNew z).2.zids = Insert.insert z s.zids := by
  ext a
  rw [insertNew_eq hs, mem_zids, mem_insert, Finset.mem_insert, mem_zids]

theorem insertNew_fst_iff (z : Zid) :
    (s.insertNew z).1 = true ↔ (s.insertNew z).2.zids ≠ s.zids := by
  rw [zids_insertNew hs, ne_eq, Finset.insert_eq_self, mem_zids, insertNew_eq hs,
    Bool.not_eq_true', ← Bool.not_eq_true, contains_iff]

theorem zids_eraseOld (z : Zid) : (s.eraseOld z).2.zids = s.zids.erase z := by
  ext a
  rw [eraseOld_eq hs, mem_zids, mem_erase, Finset.mem_erase, mem_zids]

theorem eraseOld_fst_iff (z : Zid) :
    (s.eraseOld z).1 = true ↔ (s.eraseOld z).2.zids ≠ s.zids := by
  rw [zids_eraseOld hs, ne_eq, Finset.erase_eq_self, not_not, mem_zids, eraseOld_eq hs,
    contains_iff]

/-- Identifiers put in one after another. -/
theorem mem_foldl_insertNew (zs : List Zid) :
    (zs.foldl (fun u z => (u.insertNew z).2) s).Ascending ∧
      ∀ a, a ∈ zs.foldl (fun u z => (u.insertNew z).2) s ↔ a ∈ zs ∨ a ∈ s := by
  induction zs generalizing s with
  | nil => exact ⟨hs, fun a => (or_iff_right List.not_mem_nil).symm⟩
  | cons z rest ih =>
    rw [List.foldl_cons, insertNew_eq hs]
    rcases ih (hs.insert z) with ⟨hascending, hmem⟩
    refine ⟨hascending, fun a => ?_⟩
    rw [hmem, mem_insert, List.mem_cons]
    tauto

variable (ht : t.Ascending)

include ht

theorem eq_iff_zids : s = t ↔ s.zids = t.zids := by
  constructor
  · exact congrArg zids
  · intro h
    refine hs.ext ht fun z => ?_
    rw [← mem_zids, h, mem_zids]

theorem zids_diff : (s.diff t).1.zids = s.zids \ t.zids ∧ (s.diff t).2.zids = t.zids \ s.zids := by
  constructor
  · ext z
    rw [mem_zids, (mem_diff hs ht z).1, Finset.mem_sdiff, mem_zids, mem_zids]
  · ext z
    rw [mem_zids, (mem_diff hs ht z).2, Finset.mem_sdiff, mem_zids, mem_zids]

/-- What was removed taken away and what was added put in, the old slice is the new one. -/
theorem foldl_insertNew_diff :
    (s.diff t).1.ids.foldl (fun u z => (u.insertNew z).2) (t.without (s.diff t).2) = s := by
  -- Both slices ascend, so that their members decide.
  rcases mem_foldl_insertNew (ht.without (s.diff t).2) (s.diff t).1.ids with ⟨hascending, hmem⟩
  refine hascending.ext hs fun z => ?_
  rw [hmem, ← mem_def, mem_without, (mem_diff hs ht z).1, (mem_diff hs ht z).2]
  tauto

end Ascending

/-- The operations on two slices are those on their sets. -/
structure ActsAsSet (s t : ZidSlice) : Prop where
  ascending : s.Ascending
  eq_iff : s = t ↔ s.zids = t.zids
  contains (z : Zid) : s.contains z = true ↔ z ∈ s.zids
  search (z : Zid) : (s.search z).isOk = s.contains z
  insert (z : Zid) : (s.insertNew z).2.zids = Insert.insert z s.zids
  insert_changes (z : Zid) : (s.insertNew z).1 = true ↔ (s.insertNew z).2.zids ≠ s.zids
  erase (z : Zid) : (s.eraseOld z).2.zids = s.zids.erase z
  erase_changes (z : Zid) : (s.eraseOld z).1 = true ↔ (s.eraseOld z).2.zids ≠ s.zids
  without : (s.without t).zids = s.zids \ t.zids
  added : (s.diff t).1.zids = s.zids \ t.zids
  removed : (s.diff t).2.zids = t.zids \ s.zids
  rebuilt : t.zids \ (s.diff t).2.zids ∪ (s.diff t).1.zids = s.zids
  replayed : (s.diff t).1.ids.foldl (fun u z => (u.insertNew z).2) (t.without (s.diff t).2) = s

/-- Whatever slices the operations have given, they act on them as on finite sets. -/
theorem Obtainable.actsAsSet {s t : ZidSlice} (hs : s.Obtainable) (ht : t.Obtainable) :
    ActsAsSet s t := by
  have hsa := hs.ascending
  have hta := ht.ascending
  rcases zids_diff hsa hta with ⟨hadded, hremoved⟩
  have hrebuilt : t.zids \ (s.diff t).2.zids ∪ (s.diff t).1.zids = s.zids := by
    ext z
    rw [hadded, hremoved, Finset.mem_union, Finset.mem_sdiff, Finset.mem_sdiff, Finset.mem_sdiff]
    tauto
  exact {
    ascending := hsa
    eq_iff := eq_iff_zids hsa hta
    contains := fun z => (contains_iff s z).trans mem_zids.symm
    search := isOk_search hsa
    insert := zids_insertNew hsa
    insert_changes := insertNew_fst_iff hsa
    erase := zids_eraseOld hsa
    erase_changes := eraseOld_fst_iff hsa
    without := zids_without s t
    added := hadded
    removed := hremoved
    rebuilt := hrebuilt
    replayed := foldl_insertNew_diff hsa hta }

/-- The slices that the operations give are finite sets, and the operations treat them as such. -/
theorem operations_actAsSet :
    (∅ : ZidSlice).zids = ∅ ∧
      (∀ zs : List Zid, (ofList zs).zids = zs.toFinset ∧
        (ofList zs).ids = zs.mergeSort.destutter (· ≠ ·)) ∧
      ∀ s t : ZidSlice, s.Obtainable → t.Obtainable → ActsAsSet s t :=
  ⟨zids_empty, fun zs => ⟨zids_ofList zs, ids_ofList zs⟩, fun _ _ hs ht => hs.actsAsSet ht⟩

/-- Of two lists in any order, one identifier given twice, two are in both. -/
theorem operations_actAsSet_of_shared :
    (ofList [⟨7⟩, ⟨1⟩, ⟨4⟩, ⟨7⟩, ⟨2⟩]).Obtainable ∧ (ofList [⟨9⟩, ⟨2⟩, ⟨3⟩, ⟨7⟩]).Obtainable ∧
      ((ofList [⟨7⟩, ⟨1⟩, ⟨4⟩, ⟨7⟩, ⟨2⟩]).diff (ofList [⟨9⟩, ⟨2⟩, ⟨3⟩, ⟨7⟩])).1.zids =
        {⟨1⟩, ⟨4⟩} ∧
      ((ofList [⟨7⟩, ⟨1⟩, ⟨4⟩, ⟨7⟩, ⟨2⟩]).diff (ofList [⟨9⟩, ⟨2⟩, ⟨3⟩, ⟨7⟩])).2.zids =
        {⟨3⟩, ⟨9⟩} := by
  have hset := operations_actAsSet.2.2 (ofList [⟨7⟩, ⟨1⟩, ⟨4⟩, ⟨7⟩, ⟨2⟩])
    (ofList [⟨9⟩, ⟨2⟩, ⟨3⟩, ⟨7⟩]) (.ofList _) (.ofList _)
  exact ⟨.ofList _, .ofList _, hset.added.trans (by decide), hset.removed.trans (by decide)⟩

end Kasten.ZidSlice
