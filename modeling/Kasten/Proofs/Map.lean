import Std.Data.ExtTreeMap

/-!
# Maps read with a default value

A table of the index is read with a default for what is not in it. As long as the default itself
is never stored, the table is determined by what can be read from it.
-/

namespace Kasten

variable {κ β : Type} [Ord κ] [Std.TransOrd κ]

theorem getD_of_getElem? {m : Std.ExtTreeMap κ β} {k : κ} {v : β} (h : m[k]? = some v) (d : β) :
    m.getD k d = v := by
  rw [Std.ExtTreeMap.getD_eq_getD_getElem?, h, Option.getD_some]

theorem getD_of_getElem?_none {m : Std.ExtTreeMap κ β} {k : κ} (h : m[k]? = none) (d : β) :
    m.getD k d = d := by
  rw [Std.ExtTreeMap.getD_eq_getD_getElem?, h, Option.getD_none]

/-- The default value is not stored. -/
def Omits (m : Std.ExtTreeMap κ β) (d : β) : Prop :=
  ∀ k : κ, m[k]? ≠ some d

theorem omits_empty (d : β) : Omits (∅ : Std.ExtTreeMap κ β) d := by
  intro k
  rw [Std.ExtTreeMap.getElem?_empty]
  exact (Option.some_ne_none d).symm

theorem Omits.insert {m : Std.ExtTreeMap κ β} {d v : β} (h : Omits m d) (hv : v ≠ d) (k : κ) :
    Omits (m.insert k v) d := by
  intro a
  rw [Std.ExtTreeMap.getElem?_insert]
  split
  · rwa [ne_eq, Option.some_inj]
  · exact h a

theorem Omits.erase {m : Std.ExtTreeMap κ β} {d : β} (h : Omits m d) (k : κ) :
    Omits (m.erase k) d := by
  intro a
  rw [Std.ExtTreeMap.getElem?_erase]
  split
  · exact (Option.some_ne_none d).symm
  · exact h a

/-- A value that is there can be read back from the reading. -/
theorem Omits.getElem?_eq {m : Std.ExtTreeMap κ β} {d : β} (h : Omits m d) (k : κ)
    [DecidableEq β] : m[k]? = if m.getD k d = d then none else some (m.getD k d) := by
  rw [Std.ExtTreeMap.getD_eq_getD_getElem?]
  cases hk : m[k]? with
  | none => simp
  | some v =>
    have hv : v ≠ d := by
      rintro rfl
      exact h k hk
    simp [hv]

theorem Omits.ite_erase_insert {m : Std.ExtTreeMap κ β} {d : β} (h : Omits m d) (k : κ) (v : β)
    (c : Bool) (hc : c = true ↔ v = d) : Omits (if c then m.erase k else m.insert k v) d := by
  cases c
  · have hv : v ≠ d := fun hv => absurd (hc.mpr hv) Bool.false_ne_true
    exact h.insert hv k
  · exact h.erase k

variable [Std.LawfulEqOrd κ]

theorem Omits.ext {m n : Std.ExtTreeMap κ β} {d : β} (hm : Omits m d) (hn : Omits n d)
    (h : ∀ k, m.getD k d = n.getD k d) : m = n := by
  classical
  refine Std.ExtTreeMap.ext_getElem? ?_
  intro k
  rw [hm.getElem?_eq, hn.getElem?_eq, h k]

theorem getElem?_insert_eq (m : Std.ExtTreeMap κ β) (k a : κ) (v : β) [DecidableEq κ] :
    (m.insert k v)[a]? = if a = k then some v else m[a]? := by
  rw [Std.ExtTreeMap.getElem?_insert]
  simp only [Std.compare_eq_iff_eq, @eq_comm _ k a]

theorem getElem?_erase_eq (m : Std.ExtTreeMap κ β) (k a : κ) [DecidableEq κ] :
    (m.erase k)[a]? = if a = k then none else m[a]? := by
  rw [Std.ExtTreeMap.getElem?_erase]
  simp only [Std.compare_eq_iff_eq, @eq_comm _ k a]

theorem getD_insert_eq (m : Std.ExtTreeMap κ β) (k a : κ) (v d : β) [DecidableEq κ] :
    (m.insert k v).getD a d = if a = k then v else m.getD a d := by
  rw [Std.ExtTreeMap.getD_insert]
  simp only [Std.compare_eq_iff_eq, @eq_comm _ k a]

theorem getD_erase_eq (m : Std.ExtTreeMap κ β) (k a : κ) (d : β) [DecidableEq κ] :
    (m.erase k).getD a d = if a = k then d else m.getD a d := by
  rw [Std.ExtTreeMap.getD_erase]
  simp only [Std.compare_eq_iff_eq, @eq_comm _ k a]

/-- Storing a value, or nothing in place of the default. -/
theorem getD_ite_erase_insert (m : Std.ExtTreeMap κ β) (k a : κ) (v d : β) (c : Bool)
    (hc : c = true ↔ v = d) [DecidableEq κ] :
    (if c then m.erase k else m.insert k v).getD a d = if a = k then v else m.getD a d := by
  cases c
  · exact getD_insert_eq m k a v d
  · have hv : v = d := hc.mp rfl
    rw [if_pos rfl, getD_erase_eq, hv]

theorem nodup_keys (m : Std.ExtTreeMap κ β) : (m.toList.map Prod.fst).Nodup := by
  refine List.pairwise_map.mpr ((Std.ExtTreeMap.distinct_keys_toList (t := m)).imp ?_)
  intro a b h hab
  exact h (Std.compare_eq_iff_eq.mpr hab)

/-- A map is rebuilt from its pairs. -/
theorem insertMany_toList (m : Std.ExtTreeMap κ β) [DecidableEq κ] :
    (∅ : Std.ExtTreeMap κ β).insertMany m.toList = m := by
  refine Std.ExtTreeMap.ext_getElem? ?_
  intro k
  cases hk : m[k]? with
  | some v =>
    -- Keys are listed once, so the last insertion under a key is the only one.
    have hmem := Std.ExtTreeMap.mem_toList_iff_getElem?_eq_some.mpr hk
    exact Std.ExtTreeMap.getElem?_insertMany_list_of_mem Std.ReflCmp.compare_self
      Std.ExtTreeMap.distinct_keys_toList hmem
  | none =>
    have hout : (m.toList.map Prod.fst).contains k = false := by
      rw [Std.ExtTreeMap.map_fst_toList_eq_keys, ← Bool.not_eq_true, List.contains_iff_mem,
        Std.ExtTreeMap.mem_keys, Std.ExtTreeMap.mem_iff_isSome_getElem?, hk]
      exact Bool.false_ne_true
    rw [Std.ExtTreeMap.getElem?_insertMany_list_of_contains_eq_false hout,
      Std.ExtTreeMap.getElem?_empty]

/-! ## The first entry -/

open Std.DTreeMap.Internal in
theorem tree_minEntry?_eq {κ β : Type} (t : Impl κ fun _ => β) :
    Impl.Const.minEntry? t = (t.toListModel.map fun e => (e.1, e.2)).head? := by
  induction t with
  | leaf => simp [Impl.Const.minEntry?]
  | inner size k v l r ihl _ =>
    cases l with
    | leaf => simp [Impl.Const.minEntry?]
    | inner size' k' v' l' r' =>
      rw [Impl.Const.minEntry?, ihl]
      simp [List.head?_append]

theorem minEntry?_eq_head? {κ β : Type} [Ord κ] [Std.TransOrd κ] (m : Std.ExtTreeMap κ β) :
    m.minEntry? = m.toList.head? := by
  rcases m with ⟨m⟩
  refine m.inductionOn ?_
  intro t
  refine (tree_minEntry?_eq t.inner).trans ?_
  rw [← Std.DTreeMap.Internal.Impl.Const.toList_eq_toListModel_map]
  rfl

theorem getElem?_of_first {m : Std.ExtTreeMap κ β} {k : κ} {v : β}
    (h : m.minEntry? = some (k, v)) : m[k]? = some v := by
  rw [minEntry?_eq_head?] at h
  exact Std.ExtTreeMap.mem_toList_iff_getElem?_eq_some.mp (List.mem_of_head? h)

/-- A map is listed as any list in order that has its pairs. -/
theorem toList_eq_of_mem_iff {m : Std.ExtTreeMap κ β} {pairs : List (κ × β)}
    (hordered : pairs.Pairwise fun p q => compare p.1 q.1 = .lt)
    (h : ∀ k v, (k, v) ∈ pairs ↔ m[k]? = some v) : m.toList = pairs := by
  have hirrefl : ∀ p q : κ × β, compare p.1 q.1 = .lt → p ≠ q := by
    rintro p _ hlt rfl
    rw [show compare p.1 p.1 = .eq from Std.ReflCmp.compare_self] at hlt
    exact absurd hlt (by decide)
  have hlist := Std.ExtTreeMap.ordered_keys_toList (t := m)
  have hperm : m.toList.Perm pairs := by
    apply (List.perm_ext_iff_of_nodup (hlist.imp (hirrefl _ _)) (hordered.imp (hirrefl _ _))).mpr
    rintro ⟨k, v⟩
    rw [Std.ExtTreeMap.mem_toList_iff_getElem?_eq_some, h]
  refine hperm.eq_of_pairwise ?_ hlist hordered
  intro p q _ _ hlt hgt
  rw [show compare p.1 q.1 = _ from Std.OrientedCmp.eq_swap, hgt] at hlt
  exact absurd hlt (by decide)

/-- Behind the first entry are those of the map without it. -/
theorem toList_of_first [DecidableEq κ] {m : Std.ExtTreeMap κ β} {k : κ} {v : β}
    (h : m.minEntry? = some (k, v)) : m.toList = (k, v) :: (m.erase k).toList := by
  rw [minEntry?_eq_head?] at h
  rcases List.head?_eq_some_iff.mp h with ⟨rest, hlist⟩
  have hordered := Std.ExtTreeMap.ordered_keys_toList (t := m)
  rw [hlist, List.pairwise_cons] at hordered
  have hkeys := nodup_keys m
  rw [hlist, List.map_cons, List.nodup_cons] at hkeys
  have hrest : (m.erase k).toList = rest := by
    apply toList_eq_of_mem_iff hordered.2
    intro a b
    have hmem : (a, b) ∈ (k, v) :: rest ↔ m[a]? = some b := by
      rw [← hlist, Std.ExtTreeMap.mem_toList_iff_getElem?_eq_some]
    rw [getElem?_erase_eq]
    by_cases hak : a = k
    · rw [if_pos hak]
      refine ⟨fun hab => absurd (List.mem_map_of_mem hab) (hak ▸ hkeys.1), ?_⟩
      exact fun hnone => absurd hnone.symm (Option.some_ne_none b)
    · rw [if_neg hak, ← hmem, List.mem_cons, Prod.mk.injEq]
      exact ⟨Or.inr, fun hab => hab.resolve_left fun heq => hak heq.1⟩
  rw [hlist, hrest]

theorem size_of_first [DecidableEq κ] {m : Std.ExtTreeMap κ β} {k : κ} {v : β}
    (h : m.minEntry? = some (k, v)) : m.size = (m.erase k).size + 1 := by
  rw [← Std.ExtTreeMap.length_toList, toList_of_first h, List.length_cons,
    Std.ExtTreeMap.length_toList]

/-- No key is less than the first one. -/
theorem eq_or_lt_of_first [DecidableEq κ] {m : Std.ExtTreeMap κ β} {k a : κ} {v w : β}
    (h : m.minEntry? = some (k, v)) (ha : m[a]? = some w) : a = k ∨ compare k a = .lt := by
  have hordered := Std.ExtTreeMap.ordered_keys_toList (t := m)
  have hmem := Std.ExtTreeMap.mem_toList_iff_getElem?_eq_some.mpr ha
  rw [toList_of_first h] at hordered hmem
  rcases List.mem_cons.mp hmem with heq | hlater
  · exact .inl (congrArg Prod.fst heq)
  · exact .inr ((List.pairwise_cons.mp hordered).1 (a, w) hlater)

theorem eq_empty_of_no_first {κ β : Type} [Ord κ] [Std.TransOrd κ] {m : Std.ExtTreeMap κ β}
    (h : m.minEntry? = none) : m = ∅ := by
  rw [minEntry?_eq_head?, List.head?_eq_none_iff] at h
  exact Std.ExtTreeMap.toList_eq_nil_iff.mp h

end Kasten
