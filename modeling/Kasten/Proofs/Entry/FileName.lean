import Kasten.Entry.FileName
import Kasten.Proofs.Disk.ReadWrite
import Kasten.Proofs.Zid.Text

/-!
# Names that files can have

A name with an identifier in front stands in a directory, and so does whatever is made from it. Of
a name with an extension it is known where the extension begins, so that cutting it off changes
the name.
-/

namespace Kasten

open Disk (IsName)

theorem Zid.exists_digit_of_isValid {name : String} (h : (Zid.ofFileName name).isValid = true) :
    ∃ c cs, name.toList = c :: cs ∧ Text.isAsciiDigit c = true := by
  cases hlist : name.toList with
  | nil =>
    unfold Zid.ofFileName at h
    rw [hlist] at h
    exact absurd h (by decide)
  | cons c cs =>
    refine ⟨c, cs, rfl, Decidable.byContradiction fun hc => ?_⟩
    -- Without a digit in front, no identifier is read from the name.
    have hall : ((c :: cs).take Zid.width).all Text.isAsciiDigit = false := by
      show (Text.isAsciiDigit c && (cs.take 13).all Text.isAsciiDigit) = false
      rw [eq_false_of_ne_true hc, Bool.false_and]
    unfold Zid.ofFileName Zid.parse? Zid.parse at h
    rw [hlist, String.toList_ofList] at h
    dsimp only at h
    rw [hall, if_neg fun hand => Bool.false_ne_true hand.2] at h
    exact absurd (show Zid.invalid.isValid = true from h) (by decide)

namespace FileName

/-! ## 1. Names in a directory -/

variable {name ext : String}

theorem isName_of_isValid (h : (Zid.ofFileName name).isValid = true) (hslash : '/' ∉ name.toList) :
    IsName name := by
  rcases Zid.exists_digit_of_isValid h with ⟨c, cs, heq, hc⟩
  exact ⟨hslash, c, cs, heq, Text.ne_of_isAsciiDigit hc (by decide)⟩

/-- An identifier with anything behind it. -/
theorem isName_digits (z : Zid) {rest : List Char} (h : '/' ∉ rest) :
    IsName (String.ofList (z.digits ++ rest)) := by
  have hdigit : ∀ c ∈ z.digits, Text.isAsciiDigit c = true :=
    fun c hc => Zid.isAsciiDigit_of_mem_digits hc
  constructor
  · rw [String.toList_ofList]
    intro hmem
    rcases List.mem_append.mp hmem with hmem | hmem
    · exact absurd (hdigit '/' hmem) (by decide)
    · exact h hmem
  · rw [String.toList_ofList]
    rcases List.exists_cons_of_ne_nil z.digits_ne_nil with ⟨c, cs, heq⟩
    refine ⟨c, cs ++ rest, ?_, ?_⟩
    · rw [heq, List.cons_append]
    · exact Text.ne_of_isAsciiDigit (hdigit c (heq ▸ List.mem_cons_self)) (by decide)

theorem isName_text (z : Zid) : IsName z.text := by
  have h := isName_digits z (List.not_mem_nil : '/' ∉ ([] : List Char))
  rwa [List.append_nil] at h

theorem toList_text_append (z : Zid) (ext : String) :
    (z.text ++ "." ++ ext).toList = z.digits ++ '.' :: ext.toList := by
  unfold Zid.text
  rw [String.toList_append, String.toList_append, String.toList_ofList, List.append_assoc]
  rfl

theorem isName_text_append (z : Zid) (h : '/' ∉ ext.toList) : IsName (z.text ++ "." ++ ext) := by
  have hrest : '/' ∉ '.' :: ext.toList := by
    rw [List.mem_cons, not_or]
    exact ⟨by decide, h⟩
  have hname := isName_digits z hrest
  rwa [← toList_text_append, String.ofList_toList] at hname

theorem text_ne_text_append (z : Zid) (ext : String) : z.text ≠ z.text ++ "." ++ ext := by
  intro heq
  have hlist := congrArg String.toList heq
  rw [String.toList_append, String.toList_append, List.append_assoc] at hlist
  exact absurd (List.append_cancel_left ((List.append_nil _).trans hlist)) nofun

theorem isName_base (h : IsName name) (ext : String) : IsName (base name ext) := by
  rcases h.first with ⟨c, cs, heq, hc⟩
  unfold base
  split
  next => exact h
  next =>
    dsimp only
    split
    next hcut =>
      -- A name that is all extension would start with a full stop.
      have hpos : name.toList.length - ('.' :: ext.toList).length ≠ 0 := by
        intro hzero
        have hfirst := hcut.2
        rw [hzero, List.drop_zero, heq, List.map_cons, List.map_cons] at hfirst
        exact Text.lowerAscii_ne (by decide) hc ((List.cons.inj hfirst).1.trans (by decide))
      rcases Nat.exists_eq_succ_of_ne_zero hpos with ⟨n, hn⟩
      constructor
      · rw [String.toList_ofList]
        exact fun hmem => h.slash (List.mem_of_mem_take hmem)
      · rw [String.toList_ofList, hn, heq, List.take_succ_cons]
        exact ⟨c, cs.take n, rfl, hc⟩
    next => exact h

theorem isName_rename (h : IsName name) (old new : Zid) : IsName (rename name old new) := by
  unfold rename
  split
  · apply isName_digits
    exact fun hmem => h.slash (List.mem_of_mem_drop hmem)
  · exact h

theorem rename_empty (old new : Zid) : rename "" old new = "" := by
  unfold rename
  rcases List.exists_cons_of_ne_nil old.digits_ne_nil with ⟨c, cs, heq⟩
  rw [heq]
  rfl

/-- Letters, digits and hyphens are all that there is in an extension made from a syntax. -/
theorem not_mem_extOfSyntax {d : Char}
    (hd : (Text.isAsciiLetter d || Text.isAsciiDigit d || d == '-') = false) (name : String)
    (yamlSep : Bool) (zettelSyntaxes : List String) :
    d ∉ (extOfSyntax name yamlSep zettelSyntaxes).toList := by
  have hlower : Text.isAsciiLower d = false :=
    (Bool.or_eq_false_iff.mp (Bool.or_eq_false_iff.mp (Bool.or_eq_false_iff.mp hd).1).1).1
  have hletters : ∀ ext : String, ext.toList.all Text.isAsciiLower = true → d ∉ ext.toList :=
    fun _ hall hmem => Bool.false_ne_true (hlower.symm.trans (List.all_eq_true.mp hall d hmem))
  unfold extOfSyntax
  split
  next => exact hletters zettelExt (by decide)
  next =>
    split
    next => exact hletters binaryExt (by decide)
    next hplain =>
      rw [not_or, Decidable.not_not, List.all_eq_true] at hplain
      rw [String.toList_ofList]
      intro hmem
      rcases List.mem_map.mp hmem with ⟨c, hc, heq⟩
      have hne : c ≠ d := by
        rintro rfl
        exact Bool.false_ne_true (hd.symm.trans (hplain.2 c hc))
      exact Text.lowerAscii_ne hlower hne heq

/-! ## 2. Extensions -/

/-- The name ends in the extension, however its letters are written. -/
def EndsIn (name ext : String) : Prop :=
  ext ≠ "" ∧ ∃ front last, name.toList = front ++ '.' :: last ∧
    last.map Text.lowerAscii = ext.toList.map Text.lowerAscii

theorem dropOctets_suffix (n : Nat) (cs : List Char) : dropOctets n cs <:+ cs := by
  fun_induction dropOctets n cs with
  | case1 cs => exact List.suffix_rfl
  | case2 n => exact List.suffix_rfl
  | case3 n c cs hsize ih => exact ih.trans (List.suffix_cons c cs)
  | case4 n c cs hsize => exact List.nil_suffix

theorem exists_eq_takeWhile_append {cs : List Char} (h : '.' ∈ cs) :
    ∃ rest, cs = cs.takeWhile (· ≠ '.') ++ '.' :: rest := by
  induction cs with
  | nil => exact absurd h List.not_mem_nil
  | cons c cs ih =>
    by_cases hc : c = '.'
    · refine ⟨cs, ?_⟩
      rw [hc]
      rfl
    · have hmem : '.' ∈ cs := List.mem_of_ne_of_mem (Ne.symm hc) h
      rcases ih hmem with ⟨rest, hrest⟩
      refine ⟨rest, ?_⟩
      rw [List.takeWhile_cons_of_pos (by simpa using hc), List.cons_append, ← hrest]

theorem afterLastStop_eq {cs last : List Char} (h : afterLastStop cs = some last) :
    ∃ front, cs = front ++ '.' :: last := by
  unfold afterLastStop at h
  split at h
  next hstop =>
    -- The last full stop is the first one from behind.
    have hmem : '.' ∈ cs.reverse := List.mem_reverse.mpr (List.contains_iff_mem.mp hstop)
    rcases exists_eq_takeWhile_append hmem with ⟨rest, hrest⟩
    refine ⟨rest.reverse, ?_⟩
    have hback := congrArg List.reverse hrest
    rw [List.reverse_reverse, List.reverse_append, List.reverse_cons, Option.some.inj h,
      List.append_assoc] at hback
    exact hback
  next => cases h

theorem endsIn_ext (h : FileName.ext name ≠ "") : EndsIn name (FileName.ext name) := by
  refine ⟨h, ?_⟩
  unfold FileName.ext at h ⊢
  split
  next last hlast =>
    rcases afterLastStop_eq hlast with ⟨front, hfront⟩
    -- The extension is looked for behind the identifier only.
    rcases dropOctets_suffix Zid.width name.toList with ⟨digits, hdigits⟩
    refine ⟨digits ++ front, last, ?_, ?_⟩
    · rw [← hdigits, hfront, List.append_assoc]
    · rw [String.toList_ofList, List.map_map]
      exact List.map_congr_left fun c _ => (Text.lowerAscii_lowerAscii c).symm
  next hnone =>
    rw [hnone] at h
    exact absurd rfl h

theorem endsIn_text_append (z : Zid) (h : ext ≠ "") : EndsIn (z.text ++ "." ++ ext) ext :=
  ⟨h, z.digits, ext.toList, toList_text_append z ext, rfl⟩

theorem EndsIn.rename (h : EndsIn name ext) (old new : Zid) : EndsIn (rename name old new) ext := by
  rcases h with ⟨hne, front, last, heq, hlast⟩
  unfold FileName.rename
  split
  next hprefix =>
    rcases List.isPrefixOf_iff_prefix.mp hprefix with ⟨rest, hrest⟩
    have hstop : '.' ∉ old.digits := fun hmem =>
      absurd (Zid.isAsciiDigit_of_mem_digits hmem) (by decide)
    refine ⟨hne, ?_⟩
    rw [← hrest, List.drop_left, String.toList_ofList]
    -- The full stop is behind the digits, not among them.
    rcases List.append_eq_append_iff.mp (hrest.trans heq) with
      ⟨more, hfront, hmore⟩ | ⟨more, hold, hmore⟩
    · exact ⟨new.digits ++ more, last, by rw [hmore, List.append_assoc], hlast⟩
    · cases more with
      | nil => exact ⟨new.digits, last, by rw [hmore, List.nil_append], hlast⟩
      | cons c more =>
        have hc : c = '.' := (List.cons.inj hmore).1.symm
        rw [hc] at hold
        exact absurd (hold ▸ List.mem_append_right front List.mem_cons_self) hstop
  next => exact ⟨hne, front, last, heq, hlast⟩

/-- Without the extension a name ends before its full stop. -/
theorem EndsIn.base_eq (h : EndsIn name ext) :
    ∃ front last, name.toList = front ++ '.' :: last ∧ base name ext = String.ofList front := by
  rcases h with ⟨hne, front, last, heq, hlast⟩
  have hlength : last.length = ext.toList.length := by
    have hmaps := congrArg List.length hlast
    rwa [List.length_map, List.length_map] at hmaps
  have hcut : name.toList.length - ('.' :: ext.toList).length = front.length := by
    rw [heq, List.length_append, List.length_cons, List.length_cons, hlength, Nat.add_sub_cancel]
  refine ⟨front, last, heq, ?_⟩
  unfold base
  rw [if_neg hne]
  dsimp only
  rw [hcut, heq, if_pos, List.take_left]
  rw [List.drop_left, List.map_cons, List.map_cons, hlast, List.length_append, List.length_cons,
    List.length_cons, hlength]
  exact ⟨Nat.le_add_left _ _, rfl⟩

theorem EndsIn.base_ne (h : EndsIn name ext) : base name ext ≠ name := by
  rcases h.base_eq with ⟨front, last, heq, hbase⟩
  -- What is left lacks the full stop at least.
  intro hname
  have hlist := congrArg String.toList (hbase.symm.trans hname)
  rw [String.toList_ofList, heq] at hlist
  exact absurd (List.append_cancel_left ((List.append_nil front).trans hlist)) nofun

theorem extOfSyntax_ne_empty (name : String) (yamlSep : Bool) (zettelSyntaxes : List String) :
    extOfSyntax name yamlSep zettelSyntaxes ≠ "" := by
  unfold extOfSyntax
  split
  next => decide
  next =>
    split
    next => decide
    next hplain =>
      rw [not_or] at hplain
      intro hempty
      apply hplain.1
      have hlist := congrArg String.toList hempty
      rw [String.toList_ofList] at hlist
      exact String.toList_eq_nil_iff.mp (List.map_eq_nil_iff.mp hlist)

/-- Extensions made from syntaxes are in lower case. -/
theorem lowerAscii_extOfSyntax (name : String) (yamlSep : Bool) (zettelSyntaxes : List String) :
    (extOfSyntax name yamlSep zettelSyntaxes).toList.map Text.lowerAscii =
      (extOfSyntax name yamlSep zettelSyntaxes).toList := by
  unfold extOfSyntax
  split
  next => decide
  next =>
    split
    next => decide
    next =>
      rw [String.toList_ofList, List.map_map]
      exact List.map_congr_left fun c _ => Text.lowerAscii_lowerAscii c

/-- The name of a content file, of which the extension is known. -/
structure IsContent (name ext : String) : Prop where
  isName : IsName name
  endsIn : EndsIn name ext

theorem isContent_text_append (z : Zid) (name : String) (yamlSep : Bool)
    (zettelSyntaxes : List String) :
    IsContent (z.text ++ "." ++ extOfSyntax name yamlSep zettelSyntaxes)
      (extOfSyntax name yamlSep zettelSyntaxes) where
  isName := isName_text_append z (not_mem_extOfSyntax (by decide) name yamlSep zettelSyntaxes)
  endsIn := endsIn_text_append z (extOfSyntax_ne_empty name yamlSep zettelSyntaxes)

end FileName

end Kasten
