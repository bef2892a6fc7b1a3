import Kasten.Meta.Basic
import Kasten.Proofs.Map
import Kasten.Proofs.Text.Blank

/-!
# Metadata as files store it

However metadata came about, its keys are well formed and its values are squeezed. Files store
the pairs of all keys that are not computed, and setting these anew gives what was stored.
-/

namespace Kasten

open Text (isBlank)

/-! ## 1. Keys -/

namespace Key

theorem toNat_of_isKeyCharacter {c : Char} (h : isKeyCharacter c = true) :
    97 ≤ c.toNat ∧ c.toNat ≤ 122 ∨ 48 ≤ c.toNat ∧ c.toNat ≤ 57 ∨ c.toNat = 45 := by
  unfold isKeyCharacter Text.isAsciiLower Text.isAsciiDigit at h
  rw [Bool.or_eq_true, Bool.or_eq_true, Bool.and_eq_true, Bool.and_eq_true, decide_eq_true_iff,
    decide_eq_true_iff, decide_eq_true_iff, decide_eq_true_iff, beq_iff_eq] at h
  rcases h with (h | h) | h
  · exact .inl h
  · exact .inr (.inl h)
  · exact .inr (.inr (h ▸ rfl))

theorem isBlank_eq_false {c : Char} (h : isKeyCharacter c = true) : isBlank c = false := by
  have hc := toNat_of_isKeyCharacter h
  unfold isBlank
  simp
  omega

theorem lowerAscii_eq {c : Char} (h : isKeyCharacter c = true) : Text.lowerAscii c = c := by
  have hc := toNat_of_isKeyCharacter h
  have hupper : ¬ Text.isAsciiUpper c = true := by
    unfold Text.isAsciiUpper
    rw [Bool.and_eq_true, decide_eq_true_iff, decide_eq_true_iff]
    intro hu
    have hlow : 65 ≤ c.toNat := hu.1
    have hhigh : c.toNat ≤ 90 := hu.2
    omega
  exact if_neg hupper

theorem isKeyCharacter_of_isValid {key : String} (h : isValid key = true) :
    ∀ c ∈ key.toList, isKeyCharacter c = true := by
  unfold isValid at h
  split at h
  next => cases h
  next c cs heq =>
    rw [Bool.and_eq_true, List.all_eq_true] at h
    rw [heq]
    refine List.forall_mem_cons.mpr ⟨?_, h.2⟩
    unfold isKeyCharacter
    rw [h.1]
    rfl

/-- A well formed key starts with a letter. -/
theorem exists_letter_of_isValid {key : String} (h : isValid key = true) :
    ∃ c cs, key.toList = c :: cs ∧ Text.isAsciiLower c = true := by
  unfold isValid at h
  split at h
  next => cases h
  next c cs heq => exact ⟨c, cs, heq, (Bool.and_eq_true _ _ ▸ h).1⟩

theorem isWord_of_isValid {key : String} (h : isValid key = true) : Text.IsWord key.toList := by
  rcases exists_letter_of_isValid h with ⟨c, cs, heq, -⟩
  refine ⟨heq ▸ List.cons_ne_nil c cs, ?_⟩
  intro d hd
  exact isBlank_eq_false (isKeyCharacter_of_isValid h d hd)

end Key

namespace Meta

/-! ## 2. How metadata comes about -/

inductive Edit where
  | set (key value : String)
  | erase (key : String)
deriving DecidableEq, Repr

def edit (m : Meta) : Edit → Meta
  | .set key value => m.set key value
  | .erase key => m.erase key

/-- The metadata that edits make, with or without separator lines. -/
def made (z : Zid) (edits : List Edit) (yamlSep : Bool) : Meta :=
  { edits.foldl edit (new z) with yamlSep }

/-- A pair that metadata may hold. -/
def IsPair (key value : String) : Prop :=
  key ≠ Key.id ∧ Key.isValid key = true ∧ squeeze value = value

def WellFormed (m : Meta) : Prop := ∀ key value, m.pairs[key]? = some value → IsPair key value

variable {m : Meta} {key value : String}

theorem squeeze_squeeze (value : String) : squeeze (squeeze value) = squeeze value := by
  unfold squeeze
  rw [String.toList_ofList, Text.squeeze_squeeze]

theorem squeeze_toList (h : squeeze value = value) :
    Text.squeeze value.toList = value.toList := by
  have hlist := congrArg String.toList h
  unfold squeeze at hlist
  rwa [String.toList_ofList] at hlist

theorem wellFormed_new (z : Zid) : (new z).WellFormed := by
  intro key value h
  have hnone : (new z).pairs[key]? = none := Std.ExtTreeMap.getElem?_empty
  rw [hnone] at h
  cases h

theorem WellFormed.set (h : m.WellFormed) (key value : String) : (m.set key value).WellFormed := by
  unfold Meta.set
  -- A pair is refused or stored squeezed.
  by_cases hk : key = Key.id ∨ ¬ Key.isValid key = true
  · rw [if_pos hk]
    exact h
  rw [if_neg hk]
  rcases not_or.mp hk with ⟨hid, hvalid⟩
  intro k v hv
  rw [getElem?_insert_eq] at hv
  split at hv
  next he =>
    cases hv
    exact he ▸ ⟨hid, Decidable.not_not.mp hvalid, squeeze_squeeze value⟩
  next => exact h k v hv

theorem WellFormed.erase (h : m.WellFormed) (key : String) : (m.erase key).WellFormed := by
  intro k v hv
  unfold Meta.erase at hv
  rw [getElem?_erase_eq] at hv
  split at hv
  next => cases hv
  next => exact h k v hv

theorem WellFormed.edit (h : m.WellFormed) (e : Edit) : (m.edit e).WellFormed := by
  cases e with
  | set key value => exact h.set key value
  | erase key => exact h.erase key

theorem WellFormed.editAll (h : m.WellFormed) (edits : List Edit) :
    (edits.foldl Meta.edit m).WellFormed := by
  induction edits generalizing m with
  | nil => exact h
  | cons e rest ih => exact ih (h.edit e)

theorem WellFormed.setAll (h : m.WellFormed) (pairs : List (String × String)) :
    (m.setAll pairs).WellFormed := by
  induction pairs generalizing m with
  | nil => exact h
  | cons pair rest ih => exact ih (h.set pair.1 pair.2)

theorem wellFormed_made (z : Zid) (edits : List Edit) (yamlSep : Bool) :
    (made z edits yamlSep).WellFormed :=
  (wellFormed_new z).editAll edits

theorem zid_edit (m : Meta) (e : Edit) : (m.edit e).zid = m.zid := by
  cases e with
  | set key value =>
    unfold edit Meta.set
    dsimp only
    split <;> rfl
  | erase key => rfl

theorem zid_set (m : Meta) (key value : String) : (m.set key value).zid = m.zid :=
  m.zid_edit (.set key value)

theorem zid_setAll (m : Meta) (pairs : List (String × String)) : (m.setAll pairs).zid = m.zid := by
  induction pairs generalizing m with
  | nil => rfl
  | cons pair rest ih => exact (ih (m.set pair.1 pair.2)).trans (m.zid_set pair.1 pair.2)

theorem zid_made (z : Zid) (edits : List Edit) (yamlSep : Bool) :
    (made z edits yamlSep).zid = z := by
  suffices hfold : ∀ m : Meta, (edits.foldl edit m).zid = m.zid from hfold (new z)
  induction edits with
  | nil => exact fun m => rfl
  | cons e rest ih => exact fun m => (ih (m.edit e)).trans (m.zid_edit e)

/-! ## 3. What files store -/

/-- The metadata without the computed keys. -/
def stored (m : Meta) : Meta :=
  { m with pairs := m.pairs.filter fun key _ => !Key.isComputed key }

theorem toList_stored (m : Meta) : m.stored.pairs.toList = m.userPairs :=
  Std.ExtTreeMap.toList_filter

theorem getElem?_stored (m : Meta) (key : String) :
    m.stored.pairs[key]? = if Key.isComputed key then none else m.pairs[key]? := by
  unfold stored
  rw [Std.ExtTreeMap.getElem?_filter']
  cases m.pairs[key]? with
  | none => split <;> rfl
  | some value => cases Key.isComputed key <;> rfl

/-- The two differ at most in what is not written to files. -/
def StoredAlike (m m' : Meta) : Prop :=
  ∀ key, Key.isComputed key = false → m.pairs[key]? = m'.pairs[key]?

theorem storedAlike_stored (m : Meta) : m.stored.StoredAlike m := by
  intro key hkey
  rw [getElem?_stored, hkey]
  rfl

namespace StoredAlike

variable {m' m'' : Meta}

theorem trans (h : m.StoredAlike m') (h' : m'.StoredAlike m'') : m.StoredAlike m'' :=
  fun key hkey => (h key hkey).trans (h' key hkey)

theorem symm (h : m.StoredAlike m') : m'.StoredAlike m :=
  fun key hkey => (h key hkey).symm

theorem userPairs_eq (h : m.StoredAlike m') : m.userPairs = m'.userPairs := by
  -- Maps with the same values are equal, so the pairs come in the same order.
  have hstored : m.stored.pairs = m'.stored.pairs := by
    apply Std.ExtTreeMap.ext_getElem?
    intro key
    rw [getElem?_stored, getElem?_stored]
    cases hkey : Key.isComputed key with
    | true => rfl
    | false => exact h key hkey
  rw [← toList_stored, ← toList_stored, hstored]

theorem set (h : m.StoredAlike m') (key value : String) :
    (m.set key value).StoredAlike (m'.set key value) := by
  intro k hk
  unfold Meta.set
  split
  · exact h k hk
  · dsimp only
    rw [getElem?_insert_eq, getElem?_insert_eq, h k hk]

theorem setAll (h : m.StoredAlike m') (pairs : List (String × String)) :
    (m.setAll pairs).StoredAlike (m'.setAll pairs) := by
  induction pairs generalizing m m' with
  | nil => exact h
  | cons pair rest ih => exact ih (h.set pair.1 pair.2)

/-- The values of computed keys are not written. -/
theorem set_of_isComputed (h : m.StoredAlike m') (hkey : Key.isComputed key = true)
    (value : String) : (m.set key value).StoredAlike m' := by
  intro k hk
  have hne : k ≠ key := by
    rintro rfl
    exact Bool.false_ne_true (hk.symm.trans hkey)
  unfold Meta.set
  split
  · exact h k hk
  · dsimp only
    rw [getElem?_insert_eq, if_neg hne, h k hk]

end StoredAlike

/-- The metadata with a syntax for want of its own. -/
def withSyntax (m : Meta) (default : String) : Meta :=
  if (m.get? Key.syntaxName).isNone then m.set Key.syntaxName default else m

theorem StoredAlike.withSyntax {m' : Meta} (h : m.StoredAlike m') (default : String) :
    (m.withSyntax default).StoredAlike (m'.withSyntax default) := by
  -- The syntax is not computed, so both have one or neither has.
  have hget : m.get? Key.syntaxName = m'.get? Key.syntaxName := by
    unfold get?
    rw [h Key.syntaxName (by decide)]
  unfold Meta.withSyntax
  rw [hget]
  split
  · exact h.set Key.syntaxName default
  · exact h

theorem withSyntax_of_isSome (h : (m.get? Key.syntaxName).isSome = true) (default : String) :
    m.withSyntax default = m := by
  unfold withSyntax
  rw [Option.isNone_eq_false_iff.mpr h, if_neg Bool.false_ne_true]

theorem isSome_withSyntax (m : Meta) (default : String) :
    ((m.withSyntax default).get? Key.syntaxName).isSome = true := by
  unfold withSyntax
  split
  next =>
    unfold Meta.set
    rw [if_neg (by decide)]
    unfold get?
    rw [if_neg (by decide)]
    dsimp only
    rw [getElem?_insert_eq, if_pos rfl]
    rfl
  next h => exact Option.isSome_iff_ne_none.mpr fun hnone => h (Option.isNone_iff_eq_none.mpr hnone)

theorem isPair_of_mem_userPairs (h : m.WellFormed) {pair : String × String}
    (hp : pair ∈ m.userPairs) : IsPair pair.1 pair.2 := by
  have hmem : pair ∈ m.pairs.toList := (List.mem_filter.mp hp).1
  exact h pair.1 pair.2 (Std.ExtTreeMap.mem_toList_iff_getElem?_eq_some.mp hmem)

theorem set_of_isPair (h : IsPair key value) :
    m.set key value = { m with pairs := m.pairs.insert key value } := by
  unfold Meta.set
  rw [if_neg (not_or.mpr ⟨h.1, Decidable.not_not.mpr h.2.1⟩), h.2.2]

theorem setAll_of_isPair {pairs : List (String × String)} (h : ∀ p ∈ pairs, IsPair p.1 p.2) :
    m.setAll pairs = { m with pairs := m.pairs.insertMany pairs } := by
  induction pairs generalizing m with
  | nil =>
    rw [Std.ExtTreeMap.insertMany_nil]
    rfl
  | cons pair rest ih =>
    have hpair := h pair List.mem_cons_self
    -- The first pair passes all checks and is inserted as it is.
    have hrest := ih (m := m.set pair.1 pair.2) fun p hp => h p (List.mem_cons_of_mem pair hp)
    rw [Std.ExtTreeMap.insertMany_cons]
    refine hrest.trans ?_
    rw [set_of_isPair hpair]

/-- Setting the stored pairs on new metadata gives the metadata as it was stored. -/
theorem setAll_userPairs (h : m.WellFormed) (yamlSep : Bool) :
    ({ new m.zid with yamlSep } : Meta).setAll m.userPairs = { m.stored with yamlSep } := by
  rw [setAll_of_isPair fun p hp => isPair_of_mem_userPairs h hp, ← toList_stored]
  show Meta.mk m.zid ((∅ : Std.ExtTreeMap String String).insertMany m.stored.pairs.toList) yamlSep = _
  rw [insertMany_toList]
  rfl

end Meta

end Kasten
