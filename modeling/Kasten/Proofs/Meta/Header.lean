import Kasten.Meta.Header
import Kasten.Proofs.Meta.Stored
import Kasten.Proofs.Text.Utf8
import Kasten.Proofs.Zid.Text

/-!
# Headers are read as they were written

A line that holds a pair is read as that pair: it starts with a letter, so it is neither blank nor
indented nor a separator, and nothing in it ends it early. What follows the header is left as it
is, whatever it looks like.
-/

namespace Kasten.Header

open Text (isBlank trim trimLeft trimRight)
open Text.Utf8 (encode)

/-! ## 1. Lines -/

theorem lines_append {line : Bytes} (h : 10 ∉ line) (after : Bytes) :
    lines (line ++ 10 :: after) = (line, after) :: lines after := by
  induction line with
  | nil => exact if_pos rfl
  | cons b line ih =>
    have hb : b ≠ 10 := fun hb => h (hb ▸ List.mem_cons_self)
    have hrest := ih fun hmem => h (List.mem_cons_of_mem b hmem)
    rw [List.cons_append, lines, if_neg hb, hrest]

theorem lineText_encode {text : List Char} (h : '\r' ∉ text) : lineText (encode text) = text := by
  -- The text would have to contain the carriage return that is dropped.
  have hlast : (encode text).getLast? ≠ some 13 := by
    intro hlast
    have hmem : UInt8.ofNat '\r'.toNat ∈ encode text := List.mem_of_getLast? hlast
    exact h (Text.Utf8.mem_of_mem_encode (by decide) hmem)
  unfold lineText dropReturn
  rw [if_neg hlast, Text.Utf8.decodeLossy_encode]

/-- The octets of a text without line ends, and a line feed, are one line. -/
theorem lines_encode {text : List Char} (h : '\n' ∉ text) (after : Bytes) :
    lines (encode (text ++ ['\n']) ++ after) = (encode text, after) :: lines after := by
  have hfeed : (10 : UInt8) ∉ encode text := fun hmem =>
    h (Text.Utf8.mem_of_mem_encode (by decide) hmem)
  rw [Text.Utf8.encode_append, List.append_assoc]
  exact lines_append hfeed after

theorem splitColon_append {left : List Char} (h : ':' ∉ left) (right : List Char) :
    splitColon (left ++ ':' :: right) = some (left, right) := by
  induction left with
  | nil => exact if_pos rfl
  | cons c left ih =>
    have hc : c ≠ ':' := fun hc => h (hc ▸ List.mem_cons_self)
    have hrest := ih fun hmem => h (List.mem_cons_of_mem c hmem)
    rw [List.cons_append, splitColon, if_neg hc, hrest]
    rfl

/-! ## 2. The line of one pair -/

/-- What the line of a pair says. -/
def pairText (key value : String) : List Char := key.toList ++ ':' :: ' ' :: value.toList

theorem pairLine_eq (key value : String) :
    pairLine key value = encode (pairText key value ++ ['\n']) := by
  unfold pairLine Text.Utf8.encodeText pairText
  rw [String.toList_append, String.toList_append, String.toList_append, List.append_assoc,
    List.append_assoc, List.append_assoc]
  rfl

/-- Trimming takes away no more than the space before an empty value. -/
theorem trimRight_pairText (key : String) {value : String} (hvalue : Meta.squeeze value = value) :
    ∃ right, trimRight (pairText key value) = key.toList ++ ':' :: right ∧
      trim right = value.toList := by
  -- A line without a value ends in the space after the colon; any other in a character of the
  -- value, which is no blank.
  by_cases hne : value.toList = []
  · refine ⟨[], ?_, hne.symm⟩
    have htext : pairText key value = (key.toList ++ [':']) ++ [' '] := by
      unfold pairText
      rw [hne, List.append_assoc]
      rfl
    rw [htext, Text.trimRight_concat_blank (by decide), Text.trimRight_concat (by decide)]
  · have hsqueezed := Meta.squeeze_toList hvalue
    refine ⟨' ' :: value.toList, ?_, ?_⟩
    · rcases Text.exists_last_of_squeezed hsqueezed hne with ⟨front, last, heq, hlast⟩
      have htext : pairText key value = (key.toList ++ ':' :: ' ' :: front) ++ [last] := by
        unfold pairText
        rw [heq, List.append_assoc]
        rfl
      rw [htext, Text.trimRight_concat hlast, ← htext]
      rfl
    · unfold trim
      rw [Text.trimLeft_blank (by decide)]
      exact Text.trim_of_squeezed hsqueezed

/-- The colon tells the line from a separator. -/
theorem isSeparator_pairText (key : String) {value : String}
    (hvalue : Meta.squeeze value = value) : isSeparator (pairText key value) = false := by
  rcases trimRight_pairText key hvalue with ⟨right, heq, -⟩
  refine beq_false_of_ne ?_
  intro hsep
  have hcolon : ':' ∈ separator := by
    rw [← hsep, heq]
    exact List.mem_append_right _ List.mem_cons_self
  exact absurd hcolon (by decide)

section

variable {key value : String} (hkey : Key.isValid key = true)
  (hvalue : Meta.squeeze value = value)

include hkey

theorem exists_first_of_pairText (value : String) :
    ∃ c rest, pairText key value = c :: rest ∧ Key.isKeyCharacter c = true := by
  rcases Key.exists_letter_of_isValid hkey with ⟨c, cs, heq, -⟩
  have hmem : c ∈ key.toList := heq ▸ List.mem_cons_self
  refine ⟨c, cs ++ ':' :: ' ' :: value.toList, ?_, Key.isKeyCharacter_of_isValid hkey c hmem⟩
  unfold pairText
  rw [heq, List.cons_append]

theorem isIndented_pairText : isIndented (pairText key value) = false := by
  rcases exists_first_of_pairText hkey value with ⟨c, rest, heq, hc⟩
  have hn := Key.toNat_of_isKeyCharacter hc
  have hspace : c ≠ ' ' := by
    rintro rfl
    exact absurd hn (by decide)
  have htab : c ≠ '\t' := by
    rintro rfl
    exact absurd hn (by decide)
  rw [heq]
  show (c == ' ' || c == '\t') = false
  rw [beq_false_of_ne hspace, beq_false_of_ne htab]
  rfl

theorem isBlankLine_pairText : isBlankLine (pairText key value) = false := by
  rcases exists_first_of_pairText hkey value with ⟨c, rest, heq, hc⟩
  unfold isBlankLine
  rw [heq, List.all_cons, Key.isBlank_eq_false hc]
  rfl

theorem not_mem_key {c : Char} (hc : Key.isKeyCharacter c = false) : c ∉ key.toList := fun hmem =>
  absurd (Key.isKeyCharacter_of_isValid hkey c hmem) (ne_true_of_eq_false hc)

include hvalue

/-- No blank but the space stands in the line. -/
theorem not_mem_pairText {c : Char} (hc : isBlank c = true) (hspace : c ≠ ' ') :
    c ∉ pairText key value := by
  -- A blank is neither in the key nor the colon; within the value it is a space.
  intro hmem
  rcases List.mem_append.mp hmem with hmem | hmem
  · have hfree := Key.isBlank_eq_false (Key.isKeyCharacter_of_isValid hkey c hmem)
    exact absurd hc (ne_true_of_eq_false hfree)
  rcases List.mem_cons.mp hmem with rfl | hmem
  · exact absurd hc (by decide)
  rcases List.mem_cons.mp hmem with rfl | hmem
  · exact hspace rfl
  · exact hspace (Text.eq_space_of_mem_squeezed (Meta.squeeze_toList hvalue) hmem hc)

theorem pairOf_pairText : pairOf (pairText key value) = some (key, value) := by
  rcases trimRight_pairText key hvalue with ⟨right, heq, hright⟩
  have htrim : trim key.toList = key.toList :=
    Text.trim_of_squeezed (Text.squeeze_of_isWord (Key.isWord_of_isValid hkey))
  have hlower : key.toList.map Text.lowerAscii = key.toList :=
    (List.map_congr_left fun c hc =>
      Key.lowerAscii_eq (Key.isKeyCharacter_of_isValid hkey c hc)).trans (List.map_id _)
  -- The first colon is the one after the key, since keys have none.
  unfold pairOf
  rw [heq, splitColon_append (not_mem_key hkey (by decide))]
  dsimp only
  rw [htrim, hlower, String.ofList_toList, hright, String.ofList_toList, if_pos hkey]

theorem lines_pairLine (after : Bytes) :
    lines (pairLine key value ++ after) = (encode (pairText key value), after) :: lines after := by
  rw [pairLine_eq]
  exact lines_encode (not_mem_pairText hkey hvalue (by decide) (by decide)) after

theorem lineText_pairText : lineText (encode (pairText key value)) = pairText key value :=
  lineText_encode (not_mem_pairText hkey hvalue (by decide) (by decide))

theorem readPairs_pairLine (yamlSep : Bool) (pairs : List (String × String)) (after : Bytes) :
    readPairs yamlSep pairs (lines (pairLine key value ++ after)) =
      readPairs yamlSep ((key, value) :: pairs) (lines after) := by
  rw [lines_pairLine hkey hvalue, readPairs, lineText_pairText hkey hvalue]
  -- None of the rules for other lines applies.
  rw [isSeparator_pairText key hvalue, Bool.and_false, if_neg Bool.false_ne_true,
    isBlankLine_pairText hkey, if_neg Bool.false_ne_true, isIndented_pairText hkey,
    if_neg Bool.false_ne_true, pairOf_pairText hkey hvalue]

end

/-! ## 3. The whole header -/

theorem readPairs_pairLines {written : List (String × String)}
    (h : ∀ p ∈ written, Key.isValid p.1 = true ∧ Meta.squeeze p.2 = p.2) (yamlSep : Bool)
    (pairs : List (String × String)) (after : Bytes) :
    readPairs yamlSep pairs (lines ((written.flatMap fun p => pairLine p.1 p.2) ++ after)) =
      readPairs yamlSep (written.reverse ++ pairs) (lines after) := by
  induction written generalizing pairs with
  | nil => rfl
  | cons pair written ih =>
    have hpair := h pair List.mem_cons_self
    have hrest := ih (fun p hp => h p (List.mem_cons_of_mem pair hp)) (pair :: pairs)
    rw [List.flatMap_cons, List.append_assoc, readPairs_pairLine hpair.1 hpair.2, hrest,
      List.reverse_cons, List.append_assoc]
    rfl

theorem isValid_id : Key.isValid Key.id = true := by decide

/-- The text of an identifier is a word. -/
theorem squeeze_text (z : Zid) : Meta.squeeze z.text = z.text := by
  unfold Meta.squeeze Zid.text
  rw [String.toList_ofList, Text.squeeze_of_isWord z.isWord_digits]

variable {m : Meta}

/-- Reading gets over a written header, up to what follows it. -/
theorem readPairs_write (h : m.WellFormed) (yamlSep : Bool) (after : Bytes) :
    readPairs yamlSep [] (lines (write m ++ after)) =
      readPairs yamlSep (m.userPairs.reverse ++ [(Key.id, m.zid.text)]) (lines after) := by
  have hpairs : ∀ p ∈ m.userPairs, Key.isValid p.1 = true ∧ Meta.squeeze p.2 = p.2 :=
    fun p hp => (Meta.isPair_of_mem_userPairs h hp).2
  unfold write
  rw [List.append_assoc, readPairs_pairLine isValid_id (squeeze_text m.zid),
    readPairs_pairLines hpairs]

/-- The caller's identifier counts, so that of the header is passed over. -/
theorem setAll_read (h : m.WellFormed) (yamlSep : Bool) :
    ({ Meta.new m.zid with yamlSep } : Meta).setAll
      (m.userPairs.reverse ++ [(Key.id, m.zid.text)]).reverse = { m.stored with yamlSep } := by
  rw [List.reverse_append, List.reverse_reverse]
  exact Meta.setAll_userPairs h yamlSep

/-- Whether there are separators is seen from the first line. -/
theorem parse_of_line {z : Zid} {input line after : Bytes} {more : List (Bytes × Bytes)}
    (hlines : lines input = (line, after) :: more) (hsep : isSeparator (lineText line) = false) :
    parse z input =
      (({ Meta.new z with yamlSep := false } : Meta).setAll
        (readPairs false [] (lines input)).1.reverse, (readPairs false [] (lines input)).2) := by
  unfold parse
  simp only [hlines, hsep, Bool.false_eq_true, if_false]

theorem parse_of_separator {z : Zid} {input line after : Bytes} {more : List (Bytes × Bytes)}
    (hlines : lines input = (line, after) :: more) (hsep : isSeparator (lineText line) = true) :
    parse z input =
      (({ Meta.new z with yamlSep := true } : Meta).setAll (readPairs true [] more).1.reverse,
        (readPairs true [] more).2) := by
  unfold parse
  simp only [hlines, hsep, if_true, List.tail_cons]

/-- A header without separators, where `after` begins with what ends it. -/
theorem parse_plain (h : m.WellFormed) {after rest : Bytes}
    (hafter : ∀ pairs, readPairs false pairs (lines after) = (pairs, rest)) :
    parse m.zid (write m ++ after) = ({ m.stored with yamlSep := false }, rest) := by
  have htext := squeeze_text m.zid
  have hread := readPairs_write h false after
  rw [hafter] at hread
  -- The first line is that of the identifier.
  have hsep : isSeparator (lineText (encode (pairText Key.id m.zid.text))) = false := by
    rw [lineText_pairText isValid_id htext, isSeparator_pairText Key.id htext]
  have hlines : ∃ more, lines (write m ++ after) =
      (encode (pairText Key.id m.zid.text), more) :: lines more := by
    unfold write
    rw [List.append_assoc]
    exact ⟨_, lines_pairLine isValid_id htext _⟩
  rcases hlines with ⟨more, hlines⟩
  rw [parse_of_line hlines hsep, hread]
  dsimp only
  rw [setAll_read h]

theorem parse_separated (h : m.WellFormed) (content : Bytes) :
    parse m.zid (separatorLine ++ write m ++ separatorLine ++ content) =
      ({ m.stored with yamlSep := true }, content) := by
  have hlines : ∀ after,
      lines (separatorLine ++ after) = (encode separator, after) :: lines after :=
    lines_encode (by decide)
  have hsep : isSeparator (lineText (encode separator)) = true := by
    rw [lineText_encode (by decide)]
    decide
  have hread := readPairs_write h true (separatorLine ++ content)
  -- The second separator ends the header, whatever pairs were read.
  have hend : ∀ pairs,
      readPairs true pairs (lines (separatorLine ++ content)) = (pairs, content) := by
    intro pairs
    rw [hlines, readPairs, hsep, Bool.and_true, if_pos rfl]
  rw [hend] at hread
  rw [List.append_assoc, List.append_assoc, parse_of_separator (hlines _) hsep, hread]
  dsimp only
  rw [setAll_read h]

/-! ## 4. Files -/

/-- A file of metadata only. -/
theorem parse_write (h : m.WellFormed) :
    parse m.zid (write m) = ({ m.stored with yamlSep := false }, []) := by
  have hend : ∀ pairs, readPairs false pairs (lines []) = (pairs, []) := fun _ => rfl
  have hparse := parse_plain h hend
  rwa [List.append_nil] at hparse

theorem parse_writeFile (h : m.WellFormed) (content : Bytes) :
    parse m.zid (writeFile m content) = (m.stored, content) := by
  unfold writeFile
  by_cases hsep : m.yamlSep = true
  · rw [if_pos hsep, parse_separated h, ← hsep]
    rfl
  -- Without separators the blank line ends the header, whatever pairs were read.
  · have hblank : ∀ pairs, readPairs false pairs (lines ([10] ++ content)) = (pairs, content) :=
      fun _ => rfl
    rw [if_neg hsep, List.append_assoc, parse_plain h hblank, ← eq_false_of_ne_true hsep]
    rfl

theorem zid_parse (z : Zid) (input : Bytes) : (parse z input).1.zid = z :=
  Meta.zid_setAll _ _

theorem wellFormed_parse (z : Zid) (input : Bytes) : (parse z input).1.WellFormed := by
  refine Meta.WellFormed.setAll ?_ _
  exact Meta.wellFormed_new z

/-- The pairs of a file are the same under each identifier. -/
theorem storedAlike_parse (z z' : Zid) (input : Bytes) :
    (parse z input).1.StoredAlike (parse z' input).1 := by
  refine Meta.StoredAlike.setAll ?_ _
  exact fun _ _ => rfl

theorem drop_length {input front rest : Bytes} (z : Zid) (hinput : input = front ++ rest)
    (h : (parse z input).2 = rest) : input.drop (length z input) = rest := by
  unfold length
  rw [h, hinput, List.length_append, Nat.add_sub_cancel, List.drop_left]

theorem parse_writeFile_made (z : Zid) (edits : List Meta.Edit) (yamlSep : Bool)
    (content : Bytes) :
    let m := Meta.made z edits yamlSep
    let read := parse m.zid (writeFile m content)
    let alone := parse m.zid (write m)
    read.1.zid = m.zid ∧ read.1.yamlSep = m.yamlSep ∧ read.1.pairs.toList = m.userPairs ∧
      (writeFile m content).drop (length m.zid (writeFile m content)) = content ∧
      alone.1.zid = m.zid ∧ alone.1.pairs.toList = m.userPairs ∧
      length m.zid (write m) = (write m).length := by
  intro m read alone
  have hm : m.WellFormed := Meta.wellFormed_made z edits yamlSep
  have hread : read = (m.stored, content) := parse_writeFile hm content
  have halone : alone = ({ m.stored with yamlSep := false }, []) := parse_write hm
  have hfront : ∃ front, writeFile m content = front ++ content := by
    unfold writeFile
    split
    · exact ⟨_, rfl⟩
    · exact ⟨_, rfl⟩
  rcases hfront with ⟨front, hfront⟩
  have hdrop := drop_length m.zid hfront (congrArg Prod.snd hread)
  have hlength : length m.zid (write m) = (write m).length := by
    unfold length
    rw [parse_write hm, List.length_nil, Nat.sub_zero]
  rw [hread, halone]
  exact ⟨rfl, rfl, m.toList_stored, hdrop, rfl, m.toList_stored, hlength⟩

end Kasten.Header
