import Mathlib.Tactic.Tauto
import Kasten.Zid.Set

/-!
# Slices as finite sets

An ascending slice is determined by its members, and every operation on slices is the one on
their members. `place` is the form in which the index uses them: an identifier is made a member
or taken away, whatever it was before.
-/

namespace Kasten

theorem Zid.lt_iff {a b : Zid} : a < b ↔ a.val < b.val := Iff.rfl

theorem Zid.val_inj {a b : Zid} : a.val = b.val ↔ a = b := by
  cases a; cases b; simp

theorem Zid.lt_trans {a b c : Zid} (hab : a < b) (hbc : b < c) : a < c := Nat.lt_trans hab hbc

theorem Zid.lt_asymm {a b : Zid} (h : a < b) : ¬ b < a := Nat.lt_asymm h

theorem Zid.lt_irrefl (a : Zid) : ¬ a < a := Nat.lt_irrefl a.val

theorem Zid.ne_of_lt {a b : Zid} (h : a < b) : a ≠ b := fun heq =>
  Nat.ne_of_lt h (Zid.val_inj.mpr heq)

theorem Zid.eq_of_not_lt {a b : Zid} (h : ¬ a < b) (h' : ¬ b < a) : a = b := by
  rw [Zid.lt_iff] at h h'
  exact Zid.val_inj.mp (by omega)

namespace ZidSlice

/-! ## 1. Members -/

theorem mem_def {z : Zid} {s : ZidSlice} : z ∈ s ↔ z ∈ s.ids := Iff.rfl

@[simp]
theorem not_mem_empty (z : Zid) : z ∉ (∅ : ZidSlice) := by
  show z ∉ []
  exact List.not_mem_nil

@[simp]
theorem contains_iff (s : ZidSlice) (z : Zid) : s.contains z = true ↔ z ∈ s := by
  unfold contains
  rw [List.contains_iff_mem, mem_def]

theorem isEmpty_iff (s : ZidSlice) : s.isEmpty = true ↔ s = ∅ := by
  cases s with
  | mk ids =>
    show ids.isEmpty = true ↔ (⟨ids⟩ : ZidSlice) = ⟨[]⟩
    rw [List.isEmpty_iff, ZidSlice.mk.injEq]

/-- A slice without members is the empty one. -/
theorem eq_empty_iff (s : ZidSlice) : s = ∅ ↔ ∀ z, z ∉ s := by
  constructor
  · rintro rfl z
    exact not_mem_empty z
  · intro h
    cases s with
    | mk ids =>
      have hnil : ids = [] := List.eq_nil_iff_forall_not_mem.mpr h
      rw [hnil]
      rfl

/-! ## 2. Ascending slices -/

theorem ascending_empty : (∅ : ZidSlice).Ascending := List.Pairwise.nil

theorem Ascending.nodup {s : ZidSlice} (h : s.Ascending) : s.ids.Nodup := h.imp Zid.ne_of_lt

/-- Ascending slices with the same members are equal. -/
theorem Ascending.ext {s t : ZidSlice} (hs : s.Ascending) (ht : t.Ascending)
    (h : ∀ z, z ∈ s ↔ z ∈ t) : s = t := by
  have hp : s.ids.Perm t.ids := (List.perm_ext_iff_of_nodup hs.nodup ht.nodup).mpr h
  have he : s.ids = t.ids := by
    refine hp.eq_of_pairwise ?_ hs ht
    intro a b _ _ hab hba
    exact absurd hba (Zid.lt_asymm hab)
  cases s; cases t
  exact congrArg ZidSlice.mk he

/-! ## 3. One identifier -/

theorem mem_insert {s : ZidSlice} {z a : Zid} : a ∈ s.insert z ↔ a = z ∨ a ∈ s := by
  show a ∈ insertIds z s.ids ↔ a = z ∨ a ∈ s.ids
  induction s.ids with
  | nil => simp [insertIds]
  | cons b rest ih =>
    unfold insertIds
    split
    · rw [List.mem_cons, ih, List.mem_cons]
      tauto
    · split
      next hb =>
        subst hb
        rw [List.mem_cons]
        tauto
      next => rw [List.mem_cons]

theorem pairwise_insertIds {z : Zid} {ids : List Zid} (h : ids.Pairwise (· < ·)) :
    (insertIds z ids).Pairwise (· < ·) := by
  induction ids with
  | nil => simp [insertIds]
  | cons b rest ih =>
    rcases List.pairwise_cons.mp h with ⟨hb, hrest⟩
    unfold insertIds
    split
    next hlt =>
      refine List.pairwise_cons.mpr ⟨?_, ih hrest⟩
      intro a ha
      rcases (mem_insert (s := ⟨rest⟩)).mp ha with rfl | ha
      · exact hlt
      · exact hb a ha
    next hle =>
      split
      next => exact h
      next hne =>
        have hzb : z < b := by
          rw [← Zid.val_inj] at hne
          rw [Zid.lt_iff] at hle ⊢
          omega
        refine List.pairwise_cons.mpr ⟨?_, h⟩
        intro a ha
        rcases List.mem_cons.mp ha with rfl | ha
        · exact hzb
        · exact Zid.lt_trans hzb (hb a ha)

theorem Ascending.insert {s : ZidSlice} (h : s.Ascending) (z : Zid) : (s.insert z).Ascending :=
  pairwise_insertIds h

theorem mem_erase {s : ZidSlice} {z a : Zid} : a ∈ s.erase z ↔ a ≠ z ∧ a ∈ s := by
  show a ∈ s.ids.filter (· ≠ z) ↔ a ≠ z ∧ a ∈ s.ids
  rw [List.mem_filter, decide_eq_true_iff, and_comm]

theorem Ascending.erase {s : ZidSlice} (h : s.Ascending) (z : Zid) : (s.erase z).Ascending :=
  List.Pairwise.filter _ h

@[simp]
theorem erase_empty (z : Zid) : (∅ : ZidSlice).erase z = ∅ := rfl

theorem erase_of_not_mem {s : ZidSlice} {z : Zid} (h : z ∉ s) : s.erase z = s := by
  cases s with
  | mk ids =>
    show (⟨ids.filter (· ≠ z)⟩ : ZidSlice) = ⟨ids⟩
    congr 1
    apply List.filter_eq_self.mpr
    intro a ha
    rw [decide_eq_true_iff]
    rintro rfl
    exact h ha

theorem Ascending.insert_of_mem {s : ZidSlice} (h : s.Ascending) {z : Zid} (hz : z ∈ s) :
    s.insert z = s := by
  apply (h.insert z).ext h
  intro a
  rw [mem_insert]
  constructor
  · rintro (rfl | ha)
    · exact hz
    · exact ha
  · exact Or.inr

/-- Makes an identifier a member or takes it away. -/
def place (s : ZidSlice) (z : Zid) (isIn : Bool) : ZidSlice :=
  if isIn then s.insert z else s.erase z

theorem mem_place {s : ZidSlice} {z a : Zid} {isIn : Bool} :
    a ∈ s.place z isIn ↔ if a = z then isIn = true else a ∈ s := by
  unfold place
  cases isIn
  · simp only [Bool.false_eq_true, ↓reduceIte, mem_erase]
    split
    next h => simp [h]
    next h => simp [h]
  · simp only [↓reduceIte, mem_insert]
    split
    next h => simp [h]
    next h => simp [h]

theorem Ascending.place {s : ZidSlice} (h : s.Ascending) (z : Zid) (isIn : Bool) :
    (s.place z isIn).Ascending := by
  unfold ZidSlice.place
  split
  · exact h.insert z
  · exact h.erase z

/-! ## 4. Many identifiers -/

theorem mem_ofList {zs : List Zid} {z : Zid} : z ∈ ofList zs ↔ z ∈ zs := by
  have hfold : ∀ s : ZidSlice, z ∈ zs.foldl insert s ↔ z ∈ zs ∨ z ∈ s := by
    induction zs with
    | nil => simp
    | cons a rest ih =>
      intro s
      rw [List.foldl_cons, ih, mem_insert, List.mem_cons]
      tauto
  rw [ofList, hfold]
  exact or_iff_left (not_mem_empty z)

/-- Nothing below the head of an ascending list is in it. -/
theorem not_mem_of_lt_head {a b : Zid} {tail : List Zid} (hab : a < b)
    (ht : (b :: tail).Pairwise (· < ·)) : a ∉ b :: tail := by
  intro hmem
  rcases List.mem_cons.mp hmem with rfl | hmem
  · exact a.lt_irrefl hab
  · exact Zid.lt_asymm hab ((List.pairwise_cons.mp ht).1 a hmem)

theorem head_not_mem_tail {a : Zid} {tail : List Zid} (h : (a :: tail).Pairwise (· < ·)) :
    a ∉ tail := fun hmem =>
  a.lt_irrefl ((List.pairwise_cons.mp h).1 a hmem)

/-- What the walk along two ascending lists finds in only one of them. -/
theorem mem_diffIds {new old : List Zid} (hn : new.Pairwise (· < ·)) (ho : old.Pairwise (· < ·))
    (z : Zid) : (z ∈ (diffIds new old).1 ↔ z ∈ new ∧ z ∉ old) ∧
      (z ∈ (diffIds new old).2 ↔ z ∈ old ∧ z ∉ new) := by
  fun_induction diffIds new old with
  | case1 old => simp
  | case2 new => simp
  | case3 n new o old hlt added removed hd ih =>
    -- The new head is below all of the old list.
    have hnot := not_mem_of_lt_head hlt ho
    rcases ih (List.pairwise_cons.mp hn).2 ho with ⟨ih1, ih2⟩
    rw [hd] at ih1 ih2
    show (z ∈ n :: added ↔ _) ∧ (z ∈ removed ↔ _)
    by_cases hz : z = n
    · subst hz
      simp only [List.mem_cons_self, true_and, hnot, not_false_eq_true, false_and,
        not_true, and_false, ih2]
    · simp only [List.mem_cons (a := z) (b := n), hz, false_or]
      exact ⟨ih1, ih2⟩
  | case4 n new o old hle hlt added removed hd ih =>
    -- The old head is below all of the new list.
    have hnot := not_mem_of_lt_head hlt hn
    rcases ih hn (List.pairwise_cons.mp ho).2 with ⟨ih1, ih2⟩
    rw [hd] at ih1 ih2
    show (z ∈ added ↔ _) ∧ (z ∈ o :: removed ↔ _)
    by_cases hz : z = o
    · subst hz
      simp only [List.mem_cons_self, true_and, hnot, not_false_eq_true, false_and,
        not_true, and_false, ih1]
    · simp only [List.mem_cons (a := z) (b := o), hz, false_or]
      exact ⟨ih1, ih2⟩
  | case5 n new o old hle hge ih =>
    have heq := Zid.eq_of_not_lt hle hge
    subst heq
    have hnew := head_not_mem_tail hn
    have hold := head_not_mem_tail ho
    rcases ih (List.pairwise_cons.mp hn).2 (List.pairwise_cons.mp ho).2 with ⟨ih1, ih2⟩
    rw [ih1, ih2]
    by_cases hz : z = n
    · subst hz
      simp [hnew, hold]
    · simp [hz]

theorem pairwise_diffIds {new old : List Zid} (hn : new.Pairwise (· < ·))
    (ho : old.Pairwise (· < ·)) :
    (diffIds new old).1.Pairwise (· < ·) ∧ (diffIds new old).2.Pairwise (· < ·) := by
  fun_induction diffIds new old with
  | case1 old => exact ⟨List.Pairwise.nil, ho⟩
  | case2 new => exact ⟨hn, List.Pairwise.nil⟩
  | case3 n new o old hlt added removed hd ih =>
    rcases List.pairwise_cons.mp hn with ⟨hhead, htail⟩
    rcases ih htail ho with ⟨ih1, ih2⟩
    have hmem := fun z => (mem_diffIds htail ho z).1
    rw [hd] at ih1 ih2 hmem
    exact ⟨List.pairwise_cons.mpr ⟨fun a ha => hhead a ((hmem a).mp ha).1, ih1⟩, ih2⟩
  | case4 n new o old hle hlt added removed hd ih =>
    rcases List.pairwise_cons.mp ho with ⟨hhead, htail⟩
    rcases ih hn htail with ⟨ih1, ih2⟩
    have hmem := fun z => (mem_diffIds hn htail z).2
    rw [hd] at ih1 ih2 hmem
    exact ⟨ih1, List.pairwise_cons.mpr ⟨fun a ha => hhead a ((hmem a).mp ha).1, ih2⟩⟩
  | case5 n new o old hle hge ih =>
    exact ih (List.pairwise_cons.mp hn).2 (List.pairwise_cons.mp ho).2

theorem Ascending.diff {new old : ZidSlice} (hn : new.Ascending) (ho : old.Ascending) :
    (new.diff old).1.Ascending ∧ (new.diff old).2.Ascending :=
  pairwise_diffIds hn ho

theorem mem_diff {new old : ZidSlice} (hn : new.Ascending) (ho : old.Ascending) (z : Zid) :
    (z ∈ (new.diff old).1 ↔ z ∈ new ∧ z ∉ old) ∧ (z ∈ (new.diff old).2 ↔ z ∈ old ∧ z ∉ new) :=
  mem_diffIds hn ho z

theorem mem_without {s other : ZidSlice} {z : Zid} : z ∈ s.without other ↔ z ∈ s ∧ z ∉ other := by
  show z ∈ s.ids.filter _ ↔ _
  rw [List.mem_filter, Bool.not_eq_true', ← Bool.not_eq_true, contains_iff]
  exact Iff.rfl

theorem Ascending.without {s : ZidSlice} (h : s.Ascending) (other : ZidSlice) :
    (s.without other).Ascending :=
  List.Pairwise.filter _ h

end ZidSlice

/-! ## 5. Sets of identifiers -/

namespace ZidSet

@[simp]
theorem mem_slice {s : ZidSet} {z : Zid} : z ∈ s.slice ↔ z ∈ s := by
  show z ∈ s.toList ↔ z ∈ s
  exact Std.ExtTreeSet.mem_toList

theorem ascending_slice (s : ZidSet) : s.slice.Ascending := by
  refine List.Pairwise.imp ?_ (Std.ExtTreeSet.ordered_toList (t := s))
  intro a b h
  exact Nat.compare_eq_lt.mp h

theorem mem_addAll {s : ZidSet} {zs : List Zid} {z : Zid} :
    z ∈ s.addAll zs ↔ z ∈ zs ∨ z ∈ s := by
  unfold addAll
  induction zs generalizing s with
  | nil => simp
  | cons a rest ih =>
    rw [List.foldl_cons, ih, Std.ExtTreeSet.mem_insert, Std.compare_eq_iff_eq, List.mem_cons]
    tauto

theorem mem_ofZids {zs : List Zid} {z : Zid} : z ∈ ofZids zs ↔ z ∈ zs := by
  have h := @mem_addAll ∅ zs z
  rw [or_iff_left Std.ExtTreeSet.not_mem_empty] at h
  exact h

end ZidSet

end Kasten
