import Kasten.Proofs.Text.Ascii
import Kasten.Proofs.Text.Blank
import Kasten.Zid.Basic

/-!
# Identifiers as texts

An identifier and its fourteen digits determine each other: reading accepts just what printing
makes, a file belongs to the identifier whose digits its name starts with, and identifiers are
ordered like their texts.
-/

namespace Kasten

namespace Zid

theorem isAsciiDigit_of_mem_digits {z : Zid} {c : Char} (h : c ∈ z.digits) :
    Text.isAsciiDigit c = true := by
  -- A digit is one of the leading zeros or of the number itself.
  rcases List.mem_append.mp h with h | h
  · rw [List.eq_of_mem_replicate h]
    rfl
  · have hc := Nat.isDigit_of_mem_toDigits (by decide) (by decide) h
    unfold Char.isDigit at hc
    exact hc

theorem digits_ne_nil (z : Zid) : z.digits ≠ [] :=
  List.append_ne_nil_of_right_ne_nil _ Nat.toDigits_ne_nil

theorem isWord_digits (z : Zid) : Text.IsWord z.digits := by
  refine ⟨z.digits_ne_nil, ?_⟩
  intro c hc
  have hn := Text.isAsciiDigit_iff.mp (isAsciiDigit_of_mem_digits hc)
  unfold Text.isBlank
  simp
  omega

variable {z : Zid}

theorem isValid_iff : z.isValid = true ↔ 0 < z.val ∧ z.val ≤ 99999999999999 := by
  unfold isValid
  rw [Bool.and_eq_true, decide_eq_true_iff, decide_eq_true_iff]
  exact Iff.rfl

theorem length_digits (h : z.isValid = true) : z.digits.length = width := by
  have hmax := (isValid_iff.mp h).2
  have hlength : (Nat.toDigits 10 z.val).length ≤ 14 :=
    (Nat.length_toDigits_le_iff (by decide) (by decide)).mpr (by omega)
  unfold digits
  dsimp only
  rw [List.length_append, List.length_replicate]
  show 14 - _ + _ = 14
  omega

theorem digitsValue_digits (z : Zid) : Text.digitsValue z.digits = z.val := by
  have hfold : Text.digitsValue z.digits = Nat.ofDigitChars 10 z.digits 0 := by
    rw [Nat.ofDigitChars_eq_foldl]
    unfold Text.digitsValue
    simp only [Nat.mul_comm]
  -- The leading zeros add nothing.
  rw [hfold]
  unfold digits
  dsimp only
  rw [Nat.ofDigitChars_append, Nat.ofDigitChars_replicate_zero, Nat.mul_zero,
    Nat.ofDigitChars_ten_toDigits]

/-- A name that starts with the digits of an identifier belongs to it. -/
theorem ofFileName_digits (h : z.isValid = true) (rest : List Char) :
    ofFileName (String.ofList (z.digits ++ rest)) = z := by
  have hdigits : ∀ c ∈ z.digits, Text.isAsciiDigit c = true :=
    fun c hc => isAsciiDigit_of_mem_digits hc
  have hparse : parse (String.ofList z.digits) = .ok z := by
    unfold parse
    dsimp only
    rw [String.toList_ofList, if_pos ⟨length_digits h, List.all_eq_true.mpr hdigits⟩,
      digitsValue_digits, if_pos h]
  unfold ofFileName parse?
  rw [String.toList_ofList, ← length_digits h, List.take_left, hparse]
  rfl

theorem ofFileName_of_front {name : String} (h : z.isValid = true)
    (hname : z.digits <+: name.toList) : ofFileName name = z := by
  rcases hname with ⟨rest, hrest⟩
  rw [← String.ofList_toList (s := name), ← hrest]
  exact ofFileName_digits h rest

/-- A name belongs to a zettel only by the digits in front of it. -/
theorem front_of_ofFileName {name : String} (h : z.isValid = true) (hname : ofFileName name = z) :
    z.digits <+: name.toList := by
  have hparse : parse (String.ofList (name.toList.take width)) = .ok z := by
    unfold ofFileName parse? at hname
    cases hout : parse (String.ofList (name.toList.take width)) with
    | ok z' =>
      rw [hout] at hname
      exact congrArg Except.ok hname
    | error _ =>
      rw [hout] at hname
      rw [← hname] at h
      exact absurd (show invalid.isValid = true from h) (by decide)
  unfold parse at hparse
  rw [String.toList_ofList] at hparse
  dsimp only at hparse
  split at hparse
  next hdigits =>
    split at hparse
    next =>
      have hvalue : Text.digitsValue (name.toList.take width) = Text.digitsValue z.digits := by
        rw [digitsValue_digits, ← Except.ok.inj hparse]
      have hfront : name.toList.take width = z.digits := by
        apply Text.eq_of_digitsValue_eq (List.all_eq_true.mp hdigits.2)
        · exact fun c hc => isAsciiDigit_of_mem_digits hc
        · rw [hdigits.1, length_digits h]
        · exact hvalue
      rw [← hfront]
      exact List.take_prefix _ _
    next => cases hparse
  next => cases hparse

theorem parse?_eq_some_iff {text : String} :
    parse? text = some z ↔ z.isValid = true ∧ z.digits = text.toList := by
  unfold parse? parse
  dsimp only
  constructor
  · intro h
    split at h
    next hdigits =>
      split at h
      next hvalid =>
        cases h
        refine ⟨hvalid, ?_⟩
        apply Text.eq_of_digitsValue_eq
        · exact fun c hc => isAsciiDigit_of_mem_digits hc
        · exact List.all_eq_true.mp hdigits.2
        · rw [length_digits hvalid, hdigits.1]
        · exact digitsValue_digits _
      next => cases h
    next => cases h
  · rintro ⟨hvalid, htext⟩
    have hall : text.toList.all Text.isAsciiDigit = true := by
      rw [← htext]
      exact List.all_eq_true.mpr fun c hc => isAsciiDigit_of_mem_digits hc
    have hlength : text.toList.length = width := by
      rw [← htext, length_digits hvalid]
    rw [if_pos ⟨hlength, hall⟩, ← htext, digitsValue_digits, if_pos hvalid]
    rfl

/-! ## Parts of the digits -/

variable {cs : List Char}

theorem isPrefix_digits_iff (h : z.isValid = true) (hcs : ∀ c ∈ cs, Text.isAsciiDigit c = true)
    (hlength : cs.length ≤ width) :
    cs <+: z.digits ↔ z.val / 10 ^ (width - cs.length) = Text.digitsValue cs := by
  have hdigits : ∀ c ∈ z.digits, Text.isAsciiDigit c = true :=
    fun c hc => isAsciiDigit_of_mem_digits hc
  rw [Text.isPrefix_iff_digitsValue hcs hdigits (by rwa [length_digits h]), digitsValue_digits,
    length_digits h]

theorem isSuffix_digits_iff (h : z.isValid = true) (hcs : ∀ c ∈ cs, Text.isAsciiDigit c = true)
    (hlength : cs.length ≤ width) :
    cs <:+ z.digits ↔ z.val % 10 ^ cs.length = Text.digitsValue cs := by
  have hdigits : ∀ c ∈ z.digits, Text.isAsciiDigit c = true :=
    fun c hc => isAsciiDigit_of_mem_digits hc
  rw [Text.isSuffix_iff_digitsValue hcs hdigits (by rwa [length_digits h]), digitsValue_digits]

/-- The identifiers that start with given digits lie between those digits filled up with zeros and
filled up with nines. -/
theorem isPrefix_digits_iff_between (h : z.isValid = true)
    (hcs : ∀ c ∈ cs, Text.isAsciiDigit c = true) (hlength : cs.length ≤ width) :
    cs <+: z.digits ↔
      Text.digitsValue cs * 10 ^ (width - cs.length) ≤ z.val ∧
        z.val ≤ Text.digitsValue cs * 10 ^ (width - cs.length) +
          (10 ^ (width - cs.length) - 1) := by
  have hscale : 0 < 10 ^ (width - cs.length) := Nat.pow_pos (by decide)
  rw [isPrefix_digits_iff h hcs hlength, Nat.div_eq_iff hscale, Nat.add_sub_assoc hscale]

/-! ## Reading and printing -/

variable {s : String}

/-- The texts that have the form of an identifier. -/
def IsDigits (s : String) : Prop :=
  s.toList.length = width ∧ ∀ c ∈ s.toList, Text.isAsciiDigit c = true

theorem toList_text (z : Zid) : z.text.toList = z.digits := String.toList_ofList

theorem isDigits_text (h : z.isValid = true) : IsDigits z.text := by
  unfold IsDigits
  rw [toList_text]
  exact ⟨length_digits h, fun c hc => isAsciiDigit_of_mem_digits hc⟩

theorem parse_eq_ok_iff : parse s = .ok z ↔ z.isValid = true ∧ z.text = s := by
  have hsome : parse s = .ok z ↔ parse? s = some z := by
    unfold parse?
    cases parse s with
    | error e => exact iff_of_false nofun nofun
    | ok w =>
      constructor
      · exact fun h => congrArg Except.toOption h
      · exact fun h => congrArg Except.ok (Option.some.inj h)
  rw [hsome, parse?_eq_some_iff, ← toList_text, String.toList_inj]

theorem parse_of_not_isDigits (h : ¬ IsDigits s) : parse s = .error (.malformed s) := by
  unfold parse
  dsimp only
  rw [if_neg fun hs => h ⟨hs.1, List.all_eq_true.mp hs.2⟩]

/-- Of the texts with the form of an identifier just the zeros are refused. -/
theorem isValid_digitsValue (h : IsDigits s) (hs : s ≠ "00000000000000") :
    isValid ⟨Text.digitsValue s.toList⟩ = true := by
  have hlt := Text.digitsValue_lt h.2
  rw [h.1] at hlt
  refine isValid_iff.mpr ⟨Nat.pos_of_ne_zero fun hzero => hs (String.toList_inj.mp ?_), ?_⟩
  · exact Text.eq_of_digitsValue_eq h.2 (List.all_eq_true.mp rfl) h.1 hzero
  · exact Nat.le_of_lt_succ hlt

theorem exists_parse_iff : (∃ z, parse s = .ok z) ↔ IsDigits s ∧ s ≠ "00000000000000" := by
  constructor
  · rintro ⟨z, hz⟩
    rcases parse_eq_ok_iff.mp hz with ⟨hvalid, rfl⟩
    refine ⟨isDigits_text hvalid, ?_⟩
    -- For the zeros the outcome can be computed: they are refused.
    intro hzero
    rw [hzero] at hz
    cases hz
  · rintro ⟨hdigits, hs⟩
    refine ⟨⟨Text.digitsValue s.toList⟩, ?_⟩
    unfold parse
    dsimp only
    rw [if_pos ⟨hdigits.1, List.all_eq_true.mpr hdigits.2⟩, if_pos (isValid_digitsValue hdigits hs)]

theorem text_lt_text_iff {w : Zid} (hz : z.isValid = true) (hw : w.isValid = true) :
    z.text < w.text ↔ z < w := by
  have hlength : z.digits.length = w.digits.length := by
    rw [length_digits hz, length_digits hw]
  rw [String.lt_iff, toList_text, toList_text,
    Text.lt_iff_digitsValue_lt (fun c hc => isAsciiDigit_of_mem_digits hc)
      (fun c hc => isAsciiDigit_of_mem_digits hc) hlength,
    digitsValue_digits, digitsValue_digits]
  exact Iff.rfl

theorem ofFileName_eq_iff {name : String} (h : z.isValid = true) :
    ofFileName name = z ↔ z.text.toList <+: name.toList := by
  rw [toList_text]
  exact ⟨front_of_ofFileName h, ofFileName_of_front h⟩

theorem text_is_codec :
    (∀ s, (∃ z, parse s = .ok z) ↔ IsDigits s ∧ s ≠ "00000000000000") ∧
    parse "00000000000000" = .error (.outOfRange "00000000000000") ∧
    (∀ s, ¬ IsDigits s → parse s = .error (.malformed s)) ∧
    (∀ z : Zid, z.isValid = true → IsDigits z.text ∧ parse z.text = .ok z) ∧
    (∀ s z, parse s = .ok z → z.isValid = true ∧ z.text = s) ∧
    (∀ z w : Zid, z.isValid = true → w.isValid = true → (z < w ↔ z.text < w.text)) ∧
    ∀ (name : String) (z : Zid), (ofFileName name).isValid = true ∧ ofFileName name = z ↔
      z.isValid = true ∧ z.text.toList <+: name.toList := by
  refine ⟨fun s => exists_parse_iff, by decide, fun s => parse_of_not_isDigits, ?printed, ?read,
    ?order, ?named⟩
  case printed => exact fun z hz => ⟨isDigits_text hz, parse_eq_ok_iff.mpr ⟨hz, rfl⟩⟩
  case read => exact fun s z => parse_eq_ok_iff.mp
  case order => exact fun z w hz hw => (text_lt_text_iff hz hw).symm
  case named =>
    intro name z
    constructor
    · rintro ⟨hvalid, rfl⟩
      exact ⟨hvalid, (ofFileName_eq_iff hvalid).mp rfl⟩
    · rintro ⟨hvalid, hfront⟩
      have hname := (ofFileName_eq_iff hvalid).mpr hfront
      exact ⟨hname ▸ hvalid, hname⟩

end Zid

end Kasten
