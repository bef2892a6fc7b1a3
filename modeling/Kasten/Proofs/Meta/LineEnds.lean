import Kasten.Proofs.Meta.Lines

/-!
# Line ends

A file whose lines end in a carriage return and a line feed has the same header as the one whose
lines end in a line feed alone, and after it the same content up to the line ends. A header ends
where a line ends, or with the file.
-/

namespace Kasten.Header

/-! ## 1. Where a header ends -/

/-- The place is within the file, and a line begins there or the file ends. -/
def IsLineStart (input : Bytes) (n : Nat) : Prop :=
  n ≤ input.length ∧ (n = 0 ∨ n = input.length ∨ input[n - 1]? = some 10)

theorem exists_front_of_mem_lines {input line after : Bytes} (h : (line, after) ∈ lines input) :
    after = [] ∨ ∃ front, input = front ++ 10 :: after := by
  -- The pieces show how each line ends, so the induction is on them and not on the octets.
  have hmem : (line, after) ∈ lines (pieces input).flatten := (flatten_pieces input).symm ▸ h
  rw [← flatten_pieces input]
  have hpieces := arePieces_pieces input
  generalize pieces input = ps at hpieces hmem
  induction ps with
  | nil => cases hmem
  | cons p ps ih =>
    rw [lines_flatten_cons hpieces] at hmem
    rcases List.mem_cons.mp hmem with heq | hmem
    · cases heq
      -- A piece with another behind it is closed by a line feed.
      cases ps with
      | nil => exact Or.inl rfl
      | cons q ps =>
        have hclosed := (List.pairwise_cons.mp hpieces.closed).1 q List.mem_cons_self
        refine Or.inr ⟨lineOf p, ?_⟩
        conv_lhs => rw [List.flatten_cons, eq_lineOf_append hclosed, List.append_assoc]
        rfl
    · rcases ih hpieces.tail hmem with hnil | ⟨front, hfront⟩
      · exact Or.inl hnil
      · refine Or.inr ⟨p ++ front, ?_⟩
        rw [List.flatten_cons, hfront, List.append_assoc]

theorem afterHeader_nil_or_mem {yamlSep : Bool} (ls : List (Bytes × Bytes)) :
    afterHeader yamlSep ls = [] ∨ ∃ line, (line, afterHeader yamlSep ls) ∈ ls := by
  induction ls with
  | nil => exact Or.inl rfl
  | cons l ls ih =>
    rcases l with ⟨line, after⟩
    rw [afterHeader]
    split
    next => exact Or.inr ⟨line, List.mem_cons_self⟩
    next =>
      rcases ih with hnil | ⟨line, hline⟩
      · exact Or.inl hnil
      · exact Or.inr ⟨line, List.mem_cons_of_mem _ hline⟩

theorem exists_front_of_parse (z : Zid) (input : Bytes) :
    (parse z input).2 = [] ∨ ∃ front, input = front ++ 10 :: (parse z input).2 := by
  rw [parse_eq, readPairs_eq]
  dsimp only
  rcases afterHeader_nil_or_mem (bodyOf (lines input)) with hnil | ⟨line, hline⟩
  · exact Or.inl hnil
  · have hsub : bodyOf (lines input) ⊆ lines input := by
      unfold bodyOf
      split
      next => exact fun _ => List.mem_of_mem_tail
      next => exact List.Subset.refl _
    exact exists_front_of_mem_lines (hsub hline)

/-- The octets from the end of the header on are those that reading leaves. -/
theorem drop_length_eq (z : Zid) (input : Bytes) :
    input.drop (length z input) = (parse z input).2 := by
  rcases exists_front_of_parse z input with hnil | ⟨front, hfront⟩
  · exact (drop_length z (List.append_nil input).symm hnil).trans hnil.symm
  · have hinput : input = (front ++ [10]) ++ (parse z input).2 := by
      rwa [List.append_assoc]
    exact drop_length z hinput rfl

theorem isLineStart_length (z : Zid) (input : Bytes) : IsLineStart input (length z input) := by
  refine ⟨Nat.sub_le _ _, Or.inr ?_⟩
  unfold length
  rcases exists_front_of_parse z input with hnil | ⟨front, hfront⟩
  · left
    rw [hnil]
    rfl
  · right
    generalize (parse z input).2 = rest at hfront
    subst hfront
    have hplace : (front ++ 10 :: rest).length - rest.length - 1 = front.length := by
      rw [List.length_append, List.length_cons]
      omega
    rw [hplace, List.getElem?_append_right (Nat.le_refl _), Nat.sub_self]
    rfl

/-! ## 2. Carriage returns -/

/-- The file with a carriage return in front of every line feed. -/
def withReturns (input : Bytes) : Bytes :=
  input.flatMap fun b => if b = 10 then [13, 10] else [b]

theorem withReturns_feed (bs : Bytes) : withReturns (10 :: bs) = 13 :: 10 :: withReturns bs := rfl

theorem withReturns_cons {b : UInt8} (hb : b ≠ 10) (bs : Bytes) :
    withReturns (b :: bs) = b :: withReturns bs := by
  unfold withReturns
  rw [List.flatMap_cons, if_neg hb]
  rfl

/-- A line and what follows it, with both kinds of line ends. -/
structure SameLine (l l' : Bytes × Bytes) : Prop where
  plain : 13 ∉ l.1
  line : l'.1 = l.1 ∨ l'.1 = l.1 ++ [13]
  after : l'.2 = withReturns l.2

theorem SameLine.cons {b : UInt8} {l l' : Bytes × Bytes} (hb : b ≠ 13) (h : SameLine l l') :
    SameLine (b :: l.1, l.2) (b :: l'.1, l'.2) :=
  ⟨List.not_mem_cons_of_ne_of_not_mem hb.symm h.plain,
    h.line.imp (congrArg (b :: ·)) (congrArg (b :: ·)), h.after⟩

theorem sameLine_lines {input : Bytes} (h : 13 ∉ input) :
    List.Forall₂ SameLine (lines input) (lines (withReturns input)) := by
  induction input with
  | nil => exact .nil
  | cons b bs ih =>
    have hb : b ≠ 13 := fun hb => h (hb ▸ List.mem_cons_self)
    have ih := ih fun hmem => h (List.mem_cons_of_mem b hmem)
    by_cases hfeed : b = 10
    · have hlines : lines (10 :: bs) = ([], bs) :: lines bs := if_pos rfl
      have hlines' : lines (13 :: 10 :: withReturns bs) =
          ([13], withReturns bs) :: lines (withReturns bs) :=
        lines_append (List.not_mem_cons_of_ne_of_not_mem (by decide) List.not_mem_nil) _
      rw [hfeed, withReturns_feed, hlines, hlines']
      exact .cons ⟨List.not_mem_nil, Or.inr rfl, rfl⟩ ih
    · rw [withReturns_cons hfeed, lines, lines, if_neg hfeed, if_neg hfeed]
      -- The octet is put in front of the first line of either file.
      generalize lines bs = ls, lines (withReturns bs) = ls' at ih
      cases ih with
      | nil => exact .cons ⟨fun hmem => hb (List.mem_singleton.mp hmem).symm, Or.inl rfl, rfl⟩ .nil
      | cons hfirst hrest => exact .cons (hfirst.cons hb) hrest

theorem SameLine.lineText_eq {l l' : Bytes × Bytes} (h : SameLine l l') :
    lineText l'.1 = lineText l.1 := by
  have hplain : dropReturn l.1 = l.1 := if_neg fun hlast => h.plain (List.mem_of_getLast? hlast)
  have hreturn : dropReturn (l.1 ++ [13]) = l.1 := by
    unfold dropReturn
    rw [if_pos List.getLast?_concat, List.dropLast_concat]
  unfold lineText
  rcases h.line with hline | hline
  · rw [hline]
  · rw [hline, hreturn, hplain]

section

variable {ls ls' : List (Bytes × Bytes)} (h : List.Forall₂ SameLine ls ls')

include h

theorem textsOf_eq_of_sameLine : textsOf ls' = textsOf ls := by
  induction h with
  | nil => rfl
  | cons hfirst _ ih =>
    unfold textsOf at ih ⊢
    rw [List.map_cons, List.map_cons, ih, hfirst.lineText_eq]

theorem afterHeader_of_sameLine (yamlSep : Bool) :
    afterHeader yamlSep ls' = withReturns (afterHeader yamlSep ls) := by
  induction h with
  | nil => rfl
  | cons hfirst _ ih =>
    rw [afterHeader, afterHeader, hfirst.lineText_eq]
    split
    next => exact hfirst.after
    next => exact ih

theorem bodyOf_of_sameLine : List.Forall₂ SameLine (bodyOf ls) (bodyOf ls') := by
  unfold bodyOf
  rw [textsOf_eq_of_sameLine h]
  split
  next =>
    cases h with
    | nil => exact .nil
    | cons _ hrest => exact hrest
  next => exact h

end

theorem parse_withReturns (z : Zid) {input : Bytes} (h : 13 ∉ input) :
    (parse z (withReturns input)).1 = (parse z input).1 ∧
      (parse z (withReturns input)).2 = withReturns (parse z input).2 := by
  have hlines := sameLine_lines h
  have hbody := bodyOf_of_sameLine hlines
  rw [parse_eq, parse_eq, readPairs_eq, readPairs_eq, textsOf_eq_of_sameLine hlines,
    textsOf_eq_of_sameLine hbody]
  exact ⟨rfl, afterHeader_of_sameLine hbody _⟩

theorem header_whatever_line_ends (z : Zid) {input : Bytes} (h : 13 ∉ input) :
    let file := withReturns input
    (parse z file).1 = (parse z input).1 ∧
      file.drop (length z file) = withReturns (input.drop (length z input)) ∧
      IsLineStart input (length z input) ∧ IsLineStart file (length z file) := by
  have hparse := parse_withReturns z h
  refine ⟨hparse.1, ?_, isLineStart_length z input, isLineStart_length z _⟩
  rw [drop_length_eq, drop_length_eq, hparse.2]

theorem header_whatever_line_ends_of_invalid_text :
    let z : Zid := ⟨20200310195100⟩
    let input : Bytes := Text.Utf8.encodeText "---\ntitle: A" ++ [0xff] ++
      Text.Utf8.encodeText "\n  b\n\n---\n\nx\n"
    13 ∉ input ∧ (parse z (withReturns input)).1 = (parse z input).1 ∧
      (withReturns input).drop (length z (withReturns input)) =
        withReturns (Text.Utf8.encodeText "\nx\n") := by
  intro z input
  have hfree : 13 ∉ input := by decide +kernel
  have h := header_whatever_line_ends z hfree
  have hrest : input.drop (length z input) = Text.Utf8.encodeText "\nx\n" := by decide +kernel
  exact ⟨hfree, h.1, h.2.1.trans (congrArg withReturns hrest)⟩

end Kasten.Header
