import Kasten.Text.Class
import Mathlib.Algebra.Group.Nat.Defs
import Mathlib.Data.List.Induction

/-!
# Digits and letters of ASCII
-/

namespace Kasten.Text

variable {c d : Char}

theorem isAsciiDigit_iff : isAsciiDigit c = true ↔ 48 ≤ c.toNat ∧ c.toNat ≤ 57 := by
  unfold isAsciiDigit
  rw [Bool.and_eq_true, decide_eq_true_iff, decide_eq_true_iff]
  exact Iff.rfl

theorem ne_of_isAsciiDigit (hc : isAsciiDigit c = true) (hd : isAsciiDigit d = false) : c ≠ d := by
  rintro rfl
  exact Bool.false_ne_true (hd.symm.trans hc)

theorem toNat_lowerAscii (h : isAsciiUpper c = true) :
    (lowerAscii c).toNat = c.toNat + 32 ∧ 65 ≤ c.toNat ∧ c.toNat ≤ 90 := by
  have hbounds : 65 ≤ c.toNat ∧ c.toNat ≤ 90 := by
    unfold isAsciiUpper at h
    rw [Bool.and_eq_true, decide_eq_true_iff, decide_eq_true_iff] at h
    exact h
  have hvalid : (c.toNat + 32).isValidChar := Or.inl (by omega)
  refine ⟨?_, hbounds⟩
  unfold lowerAscii Char.ofNat
  rw [if_pos h, dif_pos hvalid]
  rfl

theorem lowerAscii_lowerAscii (c : Char) : lowerAscii (lowerAscii c) = lowerAscii c := by
  by_cases hc : isAsciiUpper c = true
  · have hn := toNat_lowerAscii hc
    have hupper : ¬ isAsciiUpper (lowerAscii c) = true := by
      -- A capital letter has become one that lies 32 above it.
      intro hupper
      have hn' := toNat_lowerAscii hupper
      omega
    exact if_neg hupper
  · have hsame : lowerAscii c = c := if_neg hc
    rw [hsame, hsame]

/-- Only letters come from other characters. -/
theorem lowerAscii_ne (hd : isAsciiLower d = false) (hne : c ≠ d) : lowerAscii c ≠ d := by
  by_cases hc : isAsciiUpper c = true
  · have hn := toNat_lowerAscii hc
    have hlower : isAsciiLower (lowerAscii c) = true := by
      unfold isAsciiLower
      rw [Bool.and_eq_true, decide_eq_true_iff, decide_eq_true_iff]
      show 97 ≤ (lowerAscii c).toNat ∧ (lowerAscii c).toNat ≤ 122
      omega
    rintro rfl
    exact Bool.false_ne_true (hd.symm.trans hlower)
  · have hsame : lowerAscii c = c := if_neg hc
    rw [hsame]
    exact hne

theorem digitsValue_concat (cs : List Char) (c : Char) :
    digitsValue (cs ++ [c]) = digitsValue cs * 10 + (c.toNat - 48) :=
  List.foldl_append ..

/-- Digits are determined by their value and their number. -/
theorem eq_of_digitsValue_eq {cs ds : List Char} (hcs : ∀ c ∈ cs, isAsciiDigit c = true)
    (hds : ∀ d ∈ ds, isAsciiDigit d = true) (hlength : cs.length = ds.length)
    (h : digitsValue cs = digitsValue ds) : cs = ds := by
  -- By induction over the digits from behind, where the value ends.
  induction cs using List.reverseRecOn generalizing ds with
  | nil => exact (List.length_eq_zero_iff.mp hlength.symm).symm
  | append_singleton cs c ih =>
    rcases List.eq_nil_or_concat ds with rfl | ⟨ds, d, rfl⟩
    · simp at hlength
    · rw [List.concat_eq_append] at hds hlength h ⊢
      have hc := isAsciiDigit_iff.mp (hcs c (by simp))
      have hd := isAsciiDigit_iff.mp (hds d (by simp))
      rw [digitsValue_concat, digitsValue_concat] at h
      have hlast : c = d := Char.toNat_inj.mp (by omega)
      have hfront : cs = ds := by
        apply ih
        · exact fun a ha => hcs a (List.mem_append_left _ ha)
        · exact fun a ha => hds a (List.mem_append_left _ ha)
        · simpa using hlength
        · omega
      rw [hfront, hlast]

theorem digitsValue_append (cs ds : List Char) :
    digitsValue (cs ++ ds) = digitsValue cs * 10 ^ ds.length + digitsValue ds := by
  induction ds using List.reverseRecOn with
  | nil => simp [digitsValue]
  | append_singleton ds d ih =>
    rw [← List.append_assoc, digitsValue_concat, digitsValue_concat, ih, List.length_append,
      List.length_singleton, Nat.pow_succ, Nat.add_mul, Nat.mul_assoc, Nat.add_assoc]

theorem digitsValue_lt {ds : List Char} (hds : ∀ d ∈ ds, isAsciiDigit d = true) :
    digitsValue ds < 10 ^ ds.length := by
  induction ds using List.reverseRecOn with
  | nil => exact Nat.one_pos
  | append_singleton ds d ih =>
    have hd := isAsciiDigit_iff.mp (hds d (by simp))
    have hfront := ih fun a ha => hds a (List.mem_append_left _ ha)
    rw [digitsValue_concat, List.length_append, List.length_singleton, Nat.pow_succ]
    omega

variable {cs ds : List Char}

theorem digitsValue_cons (c : Char) (cs : List Char) :
    digitsValue (c :: cs) = (c.toNat - 48) * 10 ^ cs.length + digitsValue cs := by
  have hfirst : digitsValue [c] = c.toNat - 48 := Nat.zero_add _
  rw [← hfirst]
  exact digitsValue_append [c] cs

/-- Numbers with equally many digits are ordered like their digits. -/
theorem lt_iff_digitsValue_lt (hcs : ∀ c ∈ cs, isAsciiDigit c = true)
    (hds : ∀ d ∈ ds, isAsciiDigit d = true) (hlength : cs.length = ds.length) :
    cs < ds ↔ digitsValue cs < digitsValue ds := by
  induction cs generalizing ds with
  | nil =>
    rw [List.length_eq_zero_iff.mp hlength.symm]
    exact iff_of_false (List.not_lt_nil _) (Nat.lt_irrefl _)
  | cons c cs ih =>
    cases ds with
    | nil => cases hlength
    | cons d ds =>
      have htail : cs.length = ds.length := Nat.succ.inj hlength
      have hcs' := fun a ha => hcs a (List.mem_cons_of_mem c ha)
      have hds' := fun a ha => hds a (List.mem_cons_of_mem d ha)
      have hc := isAsciiDigit_iff.mp (hcs c List.mem_cons_self)
      have hd := isAsciiDigit_iff.mp (hds d List.mem_cons_self)
      have hlow := digitsValue_lt hcs'
      have hhigh := digitsValue_lt hds'
      rw [htail] at hlow
      rw [List.cons_lt_cons_iff, ih hcs' hds' htail, digitsValue_cons, digitsValue_cons, htail]
      generalize 10 ^ ds.length = scale at hlow hhigh
      -- The first digits decide, unless they are equal: what follows is less than one of them.
      rcases Nat.lt_trichotomy c.toNat d.toNat with hlt | heq | hgt
      · refine iff_of_true (Or.inl hlt) ?_
        have hstep : (c.toNat - 48 + 1) * scale ≤ (d.toNat - 48) * scale :=
          Nat.mul_le_mul_right scale (by omega)
        rw [Nat.add_mul, Nat.one_mul] at hstep
        omega
      · have hsame : c = d := Char.toNat_inj.mp heq
        subst hsame
        rw [or_iff_right (Std.lt_irrefl (a := c)), and_iff_right rfl, Nat.add_lt_add_iff_left]
      · refine iff_of_false ?_ ?_
        · rintro (hlt | ⟨rfl, -⟩)
          · exact Nat.lt_asymm hgt hlt
          · exact Nat.lt_irrefl _ hgt
        · have hstep : (d.toNat - 48 + 1) * scale ≤ (c.toNat - 48) * scale :=
            Nat.mul_le_mul_right scale (by omega)
          rw [Nat.add_mul, Nat.one_mul] at hstep
          omega

/-- The digits in front are what is left of the value after division by a power of ten. -/
theorem isPrefix_iff_digitsValue (hcs : ∀ c ∈ cs, isAsciiDigit c = true)
    (hds : ∀ d ∈ ds, isAsciiDigit d = true) (hlength : cs.length ≤ ds.length) :
    cs <+: ds ↔ digitsValue ds / 10 ^ (ds.length - cs.length) = digitsValue cs := by
  have hback : ∀ d ∈ ds.drop cs.length, isAsciiDigit d = true :=
    fun d hd => hds d (List.mem_of_mem_drop hd)
  have hvalue : digitsValue ds / 10 ^ (ds.length - cs.length) = digitsValue (ds.take cs.length) := by
    have hlt := digitsValue_lt hback
    have hsplit := digitsValue_append (ds.take cs.length) (ds.drop cs.length)
    rw [List.take_append_drop] at hsplit
    rw [List.length_drop] at hlt hsplit
    rw [hsplit, Nat.mul_comm, Nat.mul_add_div (Nat.pow_pos (by decide)), Nat.div_eq_of_lt hlt, Nat.add_zero]
  rw [hvalue, List.prefix_iff_eq_take]
  constructor
  · intro h
    rw [← h]
  · intro h
    apply eq_of_digitsValue_eq hcs
    · exact fun d hd => hds d (List.mem_of_mem_take hd)
    · rw [List.length_take, Nat.min_eq_left hlength]
    · exact h.symm

/-- The digits at the end are the remainder of the value. -/
theorem isSuffix_iff_digitsValue (hcs : ∀ c ∈ cs, isAsciiDigit c = true)
    (hds : ∀ d ∈ ds, isAsciiDigit d = true) (hlength : cs.length ≤ ds.length) :
    cs <:+ ds ↔ digitsValue ds % 10 ^ cs.length = digitsValue cs := by
  have hback : ∀ d ∈ ds.drop (ds.length - cs.length), isAsciiDigit d = true :=
    fun d hd => hds d (List.mem_of_mem_drop hd)
  have hsize : (ds.drop (ds.length - cs.length)).length = cs.length := by
    rw [List.length_drop]
    omega
  have hvalue : digitsValue ds % 10 ^ cs.length =
      digitsValue (ds.drop (ds.length - cs.length)) := by
    have hlt := digitsValue_lt hback
    have hsplit := digitsValue_append (ds.take (ds.length - cs.length))
      (ds.drop (ds.length - cs.length))
    rw [List.take_append_drop] at hsplit
    rw [hsize] at hlt hsplit
    rw [hsplit, Nat.mul_comm, Nat.mul_add_mod, Nat.mod_eq_of_lt hlt]
  rw [hvalue, List.suffix_iff_eq_drop]
  constructor
  · intro h
    rw [← h]
  · exact fun h => eq_of_digitsValue_eq hcs hback hsize.symm h.symm

end Kasten.Text
