import Kasten.Proofs.Meta.Stored

/-!
# Setting several values

Of several values that are set under one key the last one counts. Keys that cannot be set are
passed over, and what is set under computed keys is not seen in files.
-/

namespace Kasten

namespace Meta

variable {m : Meta} {k : String} {pairs : List (String × String)}

/-- A value can be set under the key. -/
def IsSettable (key : String) : Prop := key ≠ Key.id ∧ Key.isValid key = true

theorem getElem?_set (hk : IsSettable k) (m : Meta) (key value : String) :
    (m.set key value).pairs[k]? = if k = key then some (squeeze value) else m.pairs[k]? := by
  unfold Meta.set
  by_cases hkey : key = Key.id ∨ ¬ Key.isValid key = true
  · have hne : k ≠ key := by
      rintro rfl
      exact hkey.elim hk.1 fun h => h hk.2
    rw [if_pos hkey, if_neg hne]
  · rw [if_neg hkey]
    exact getElem?_insert_eq m.pairs key k (squeeze value)

theorem getElem?_set_of_not_isSettable (hk : ¬ IsSettable k) (m : Meta) (key value : String) :
    (m.set key value).pairs[k]? = m.pairs[k]? := by
  unfold Meta.set
  by_cases hkey : key = Key.id ∨ ¬ Key.isValid key = true
  · rw [if_pos hkey]
  · have hne : k ≠ key := by
      rintro rfl
      exact hk ⟨fun h => hkey (.inl h), Decidable.not_not.mp fun h => hkey (.inr h)⟩
    rw [if_neg hkey]
    exact (getElem?_insert_eq m.pairs key k (squeeze value)).trans (if_neg hne)

theorem setAll_append (m : Meta) (pairs more : List (String × String)) :
    m.setAll (pairs ++ more) = (m.setAll pairs).setAll more :=
  List.foldl_append

theorem yamlSep_setAll (m : Meta) (pairs : List (String × String)) :
    (m.setAll pairs).yamlSep = m.yamlSep := by
  induction pairs generalizing m with
  | nil => rfl
  | cons pair rest ih =>
    refine (ih (m.set pair.1 pair.2)).trans ?_
    unfold Meta.set
    split <;> rfl

/-- The last pair with a key counts. -/
theorem getElem?_setAll (hk : IsSettable k) (m : Meta) (pairs : List (String × String)) :
    (m.setAll pairs).pairs[k]? = ((pairs.reverse.lookup k).map squeeze).or m.pairs[k]? := by
  induction pairs generalizing m with
  | nil => rfl
  | cons pair rest ih =>
    rcases pair with ⟨key, value⟩
    refine (ih (m.set key value)).trans ?_
    rw [getElem?_set hk, List.reverse_cons, List.lookup_append]
    cases rest.reverse.lookup k with
    | some value => rfl
    | none =>
      by_cases hkey : k = key
      · simp [hkey]
      · simp [hkey, List.lookup_cons, beq_eq_false_iff_ne.mpr hkey]

theorem getElem?_setAll_of_not_isSettable (hk : ¬ IsSettable k) (m : Meta)
    (pairs : List (String × String)) : (m.setAll pairs).pairs[k]? = m.pairs[k]? := by
  induction pairs generalizing m with
  | nil => rfl
  | cons pair rest ih =>
    exact (ih (m.set pair.1 pair.2)).trans (getElem?_set_of_not_isSettable hk m pair.1 pair.2)

theorem getElem?_setAll_of_not_mem (h : ∀ p ∈ pairs, p.1 ≠ k) :
    (m.setAll pairs).pairs[k]? = m.pairs[k]? := by
  by_cases hk : IsSettable k
  · have hnone : pairs.reverse.lookup k = none := by
      rw [List.lookup_eq_none_iff]
      exact fun p hp => bne_iff_ne.mpr (h p (List.mem_reverse.mp hp)).symm
    rw [getElem?_setAll hk, hnone]
    rfl
  · exact getElem?_setAll_of_not_isSettable hk m pairs

/-- Setting the same values again changes nothing. -/
theorem setAll_setAll (m : Meta) (pairs : List (String × String)) :
    (m.setAll pairs).setAll pairs = m.setAll pairs := by
  have hpairs : ((m.setAll pairs).setAll pairs).pairs = (m.setAll pairs).pairs := by
    refine Std.ExtTreeMap.ext_getElem? fun {k} => ?_
    by_cases hk : IsSettable k
    · rw [getElem?_setAll hk, getElem?_setAll hk]
      cases pairs.reverse.lookup k <;> rfl
    · exact getElem?_setAll_of_not_isSettable hk _ pairs
  exact (Meta.mk.injEq ..).mpr ⟨zid_setAll _ pairs, hpairs, yamlSep_setAll _ pairs⟩

/-- Setting computed keys leaves alone what is stored. -/
theorem storedAlike_setAll (h : ∀ p ∈ pairs, Key.isComputed p.1 = true) :
    (m.setAll pairs).StoredAlike m := by
  induction pairs generalizing m with
  | nil => exact fun _ _ => rfl
  | cons pair rest ih =>
    have hfirst : (m.set pair.1 pair.2).StoredAlike m :=
      StoredAlike.set_of_isComputed (fun _ _ => rfl) (h pair List.mem_cons_self) pair.2
    exact (ih fun p hp => h p (List.mem_cons_of_mem pair hp)).trans hfirst

namespace StoredAlike

variable {m' : Meta} {key : String}

theorem get?_eq (h : m.StoredAlike m') (hkey : Key.isComputed key = false) :
    m.get? key = m'.get? key := by
  unfold get?
  rw [h key hkey]

theorem getList_eq (h : m.StoredAlike m') (hkey : Key.isComputed key = false) :
    m.getList key = m'.getList key := by
  unfold getList
  rw [h.get?_eq hkey]

theorem getZids_eq (h : m.StoredAlike m') (hkey : Key.isComputed key = false) :
    m.getZids key = m'.getZids key :=
  congrArg (List.filterMap Zid.parse?) (h.getList_eq hkey)

end StoredAlike

theorem isComputed_of_mem_userPairs {pair : String × String} (hp : pair ∈ m.userPairs) :
    Key.isComputed pair.1 = false :=
  Bool.not_eq_true' _ ▸ (List.mem_filter.mp hp).2

end Meta

end Kasten
