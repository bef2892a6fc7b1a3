import Kasten.Proofs.Meta.Header
import Mathlib.Data.List.Basic

/-!
# Headers line by line

The lines of a header are those up to the one that ends it. Each of them adds a pair, extends the
last pair or changes nothing, so the pairs come from a fold over the lines' texts. The pieces of a
file are its lines together with their ends; taking some of them out leaves the pieces of the
shorter file.
-/

namespace Kasten.Header

variable {yamlSep : Bool} {pairs : List (String × String)}

/-! ## 1. What a line does -/

/-- Between separators blank lines may stand. -/
def endsHeader (yamlSep : Bool) (text : List Char) : Bool :=
  if yamlSep then isSeparator text else isBlankLine text

/-- The pairs after one more line of the header; the last pair comes first. -/
def readLine (pairs : List (String × String)) (text : List Char) : List (String × String) :=
  if isBlankLine text then pairs
  else if isIndented text then continueLast text pairs
  else
    match pairOf text with
    | some pair => pair :: pairs
    | none => pairs

/-- The texts of lines, each of which comes with what follows it. -/
def textsOf (ls : List (Bytes × Bytes)) : List (List Char) :=
  ls.map fun line => lineText line.1

/-- The part of the texts that belongs to the header. -/
def headerTexts (yamlSep : Bool) (texts : List (List Char)) : List (List Char) :=
  texts.takeWhile fun text => !endsHeader yamlSep text

/-- What follows the line that ends the header. -/
def afterHeader (yamlSep : Bool) : List (Bytes × Bytes) → Bytes
  | [] => []
  | (line, after) :: rest =>
    if endsHeader yamlSep (lineText line) then after else afterHeader yamlSep rest

theorem headerTexts_of_ends {text : List Char} (h : endsHeader yamlSep text = true)
    (texts : List (List Char)) : headerTexts yamlSep (text :: texts) = [] := by
  unfold headerTexts
  rw [List.takeWhile_cons_of_neg (by rw [h]; exact Bool.false_ne_true)]

theorem headerTexts_of_goes_on {text : List Char} (h : endsHeader yamlSep text = false)
    (texts : List (List Char)) :
    headerTexts yamlSep (text :: texts) = text :: headerTexts yamlSep texts := by
  unfold headerTexts
  rw [List.takeWhile_cons_of_pos (by rw [h]; rfl)]

theorem readPairs_of_ends {line : Bytes} (h : endsHeader yamlSep (lineText line) = true)
    (pairs : List (String × String)) (after : Bytes) (rest : List (Bytes × Bytes)) :
    readPairs yamlSep pairs ((line, after) :: rest) = (pairs, after) := by
  unfold endsHeader at h
  rw [readPairs]
  cases yamlSep with
  | true =>
    rw [if_pos rfl] at h
    rw [h, Bool.and_true, if_pos rfl]
  | false =>
    rw [if_neg Bool.false_ne_true] at h
    rw [Bool.false_and, if_neg Bool.false_ne_true, h, if_pos rfl, if_neg Bool.false_ne_true]

theorem readPairs_of_goes_on {line : Bytes} (h : endsHeader yamlSep (lineText line) = false)
    (pairs : List (String × String)) (after : Bytes) (rest : List (Bytes × Bytes)) :
    readPairs yamlSep pairs ((line, after) :: rest) =
      readPairs yamlSep (readLine pairs (lineText line)) rest := by
  have hsep : (yamlSep && isSeparator (lineText line)) = false := by
    unfold endsHeader at h
    cases yamlSep with
    | true => rwa [if_pos rfl] at h
    | false => rfl
  -- Only a blank line between separators is passed over, and then the header goes on.
  have hblank : isBlankLine (lineText line) = true → yamlSep = true := by
    intro hblank
    unfold endsHeader at h
    cases yamlSep with
    | true => rfl
    | false =>
      rw [if_neg Bool.false_ne_true, hblank] at h
      cases h
  rw [readPairs, hsep, if_neg Bool.false_ne_true]
  unfold readLine
  cases hb : isBlankLine (lineText line) with
  | true => rw [if_pos rfl, if_pos rfl, if_pos (hblank hb)]
  | false =>
    rw [if_neg Bool.false_ne_true, if_neg Bool.false_ne_true]
    cases isIndented (lineText line) with
    | true => rw [if_pos rfl, if_pos rfl]
    | false =>
      rw [if_neg Bool.false_ne_true, if_neg Bool.false_ne_true]
      cases pairOf (lineText line) <;> rfl

/-- Reading a header goes through its texts and leaves what follows the line that ends it. -/
theorem readPairs_eq (pairs : List (String × String)) (ls : List (Bytes × Bytes)) :
    readPairs yamlSep pairs ls =
      ((headerTexts yamlSep (textsOf ls)).foldl readLine pairs, afterHeader yamlSep ls) := by
  induction ls generalizing pairs with
  | nil => rfl
  | cons l rest ih =>
    rcases l with ⟨line, after⟩
    rw [textsOf, List.map_cons, afterHeader]
    cases h : endsHeader yamlSep (lineText line) with
    | true => rw [readPairs_of_ends h, headerTexts_of_ends h, if_pos rfl, List.foldl_nil]
    | false =>
      rw [readPairs_of_goes_on h, headerTexts_of_goes_on h, if_neg Bool.false_ne_true,
        List.foldl_cons, ih]
      rfl

/-! ## 2. Files -/

/-- Whether a file begins with a separator. -/
def opens (texts : List (List Char)) : Bool :=
  match texts with
  | text :: _ => isSeparator text
  | [] => false

/-- The lines in which pairs are looked for. -/
def bodyOf (ls : List (Bytes × Bytes)) : List (Bytes × Bytes) :=
  if opens (textsOf ls) then ls.tail else ls

/-- Metadata with the pairs that were read, the last of them first. -/
def metaOf (z : Zid) (yamlSep : Bool) (pairs : List (String × String)) : Meta :=
  ({ Meta.new z with yamlSep } : Meta).setAll pairs.reverse

theorem parse_eq (z : Zid) (input : Bytes) :
    parse z input =
      (metaOf z (opens (textsOf (lines input)))
        (readPairs (opens (textsOf (lines input))) [] (bodyOf (lines input))).1,
      (readPairs (opens (textsOf (lines input))) [] (bodyOf (lines input))).2) := by
  cases hlines : lines input with
  | nil =>
    unfold parse
    rw [hlines]
    rfl
  | cons l more =>
    rcases l with ⟨line, after⟩
    cases hsep : isSeparator (lineText line) with
    | true =>
      have hopens : opens (textsOf ((line, after) :: more)) = true := hsep
      rw [parse_of_separator hlines hsep, bodyOf, hopens, if_pos rfl]
      rfl
    | false =>
      have hopens : opens (textsOf ((line, after) :: more)) = false := hsep
      rw [parse_of_line hlines hsep, hlines, bodyOf, hopens, if_neg Bool.false_ne_true]
      rfl

/-! ## 3. Pieces -/

/-- The lines of a file with their line feeds. -/
def pieces : Bytes → List Bytes
  | [] => []
  | b :: bs =>
    if b = 10 then [10] :: pieces bs
    else
      match pieces bs with
      | [] => [[b]]
      | piece :: rest => (b :: piece) :: rest

/-- The line of a piece, without the line feed. -/
def lineOf (piece : Bytes) : Bytes :=
  if piece.getLast? = some 10 then piece.dropLast else piece

def pieceText (piece : Bytes) : List Char := lineText (lineOf piece)

/-- A file may be cut in this way: line feeds stand at the ends of the pieces, and only the last
piece may be without one. -/
structure ArePieces (ps : List Bytes) : Prop where
  nonempty : ∀ p ∈ ps, p ≠ []
  single : ∀ p ∈ ps, 10 ∉ p.dropLast
  closed : ps.Pairwise fun p _ => p.getLast? = some 10

variable {p : Bytes} {ps qs : List Bytes}

theorem pieces_feed (bs : Bytes) : pieces (10 :: bs) = [10] :: pieces bs := by
  rw [pieces, if_pos rfl]

theorem pieces_of_nil {b : UInt8} {bs : Bytes} (hb : b ≠ 10) (h : pieces bs = []) :
    pieces (b :: bs) = [[b]] := by
  rw [pieces, if_neg hb, h]

theorem pieces_of_cons {b : UInt8} {bs : Bytes} (hb : b ≠ 10) (h : pieces bs = p :: ps) :
    pieces (b :: bs) = (b :: p) :: ps := by
  rw [pieces, if_neg hb, h]

theorem flatten_pieces (input : Bytes) : (pieces input).flatten = input := by
  induction input with
  | nil => rfl
  | cons b bs ih =>
    by_cases hb : b = 10
    · rw [hb, pieces_feed, List.flatten_cons, ih]
      rfl
    cases hbs : pieces bs with
    | nil =>
      rw [hbs] at ih
      rw [pieces_of_nil hb hbs, ← ih]
      rfl
    | cons piece rest =>
      rw [hbs] at ih
      rw [pieces_of_cons hb hbs, ← ih]
      rfl

theorem ArePieces.sublist (h : ArePieces qs) (hsub : ps.Sublist qs) : ArePieces ps :=
  ⟨fun p hp => h.nonempty p (hsub.subset hp), fun p hp => h.single p (hsub.subset hp),
    h.closed.sublist hsub⟩

theorem ArePieces.tail (h : ArePieces (p :: ps)) : ArePieces ps :=
  h.sublist (List.sublist_cons_self p ps)

theorem arePieces_pieces (input : Bytes) : ArePieces (pieces input) := by
  induction input with
  | nil => exact ⟨nofun, nofun, .nil⟩
  | cons b bs ih =>
    by_cases hb : b = 10
    · rw [hb, pieces_feed]
      exact ⟨List.forall_mem_cons.mpr ⟨List.cons_ne_nil _ _, ih.nonempty⟩,
        List.forall_mem_cons.mpr ⟨List.not_mem_nil, ih.single⟩, .cons (fun _ _ => rfl) ih.closed⟩
    cases hbs : pieces bs with
    | nil =>
      rw [pieces_of_nil hb hbs]
      exact ⟨List.forall_mem_singleton.mpr (List.cons_ne_nil _ _),
        List.forall_mem_singleton.mpr List.not_mem_nil, List.pairwise_singleton _ _⟩
    | cons piece rest =>
      rw [hbs] at ih
      rcases List.forall_mem_cons.mp ih.nonempty with ⟨hne, hnes⟩
      rcases List.forall_mem_cons.mp ih.single with ⟨hin, hins⟩
      rcases List.pairwise_cons.mp ih.closed with ⟨hclosed, hrest⟩
      rw [pieces_of_cons hb hbs]
      -- The first piece has one more octet in front, which is no line feed.
      refine ⟨List.forall_mem_cons.mpr ⟨List.cons_ne_nil _ _, hnes⟩,
        List.forall_mem_cons.mpr ⟨?_, hins⟩, .cons ?_ hrest⟩
      · rw [List.dropLast_cons_of_ne_nil hne]
        exact List.not_mem_cons_of_ne_of_not_mem (Ne.symm hb) hin
      · intro q hq
        rw [List.getLast?_cons_of_ne_nil hne]
        exact hclosed q hq

/-- A closed piece is a line and its feed. -/
theorem eq_lineOf_append (hp : p.getLast? = some 10) : p = lineOf p ++ [10] := by
  unfold lineOf
  rw [if_pos hp]
  exact (List.dropLast_append_getLast? 10 hp).symm

theorem lineOf_open (hp : p.getLast? ≠ some 10) : lineOf p = p := if_neg hp

theorem lines_open (hne : p ≠ []) (hp : 10 ∉ p) : lines p = [(p, [])] := by
  induction p with
  | nil => exact absurd rfl hne
  | cons b bs ih =>
    have hb : b ≠ 10 := fun hb => hp (hb ▸ List.mem_cons_self)
    have hbs : 10 ∉ bs := fun hmem => hp (List.mem_cons_of_mem b hmem)
    rw [lines, if_neg hb]
    cases bs with
    | nil => rfl
    | cons c cs => rw [ih (List.cons_ne_nil c cs) hbs]

theorem not_mem_lineOf (hsingle : 10 ∉ p.dropLast) : 10 ∉ lineOf p := by
  unfold lineOf
  split
  next => exact hsingle
  next hlast =>
    intro hmem
    have hne : p ≠ [] := List.ne_nil_of_mem hmem
    rw [← List.dropLast_concat_getLast hne, List.mem_append, List.mem_singleton] at hmem
    rcases hmem with hmem | hmem
    · exact hsingle hmem
    · exact hlast (by rw [List.getLast?_eq_some_getLast hne, ← hmem])

theorem lines_flatten_cons (h : ArePieces (p :: ps)) :
    lines (p :: ps).flatten = (lineOf p, ps.flatten) :: lines ps.flatten := by
  have hfree := not_mem_lineOf (h.single p List.mem_cons_self)
  rw [List.flatten_cons]
  by_cases hp : p.getLast? = some 10
  · conv_lhs => rw [eq_lineOf_append hp, List.append_assoc]
    exact lines_append hfree _
  · -- Only the last piece is open.
    have hlast : ps = [] := by
      cases ps with
      | nil => rfl
      | cons q qs => exact absurd ((List.pairwise_cons.mp h.closed).1 q List.mem_cons_self) hp
    rw [lineOf_open hp] at hfree ⊢
    rw [hlast, List.flatten_nil, List.append_nil]
    exact lines_open (h.nonempty p List.mem_cons_self) hfree

theorem textsOf_flatten (h : ArePieces ps) : textsOf (lines ps.flatten) = ps.map pieceText := by
  induction ps with
  | nil => rfl
  | cons p ps ih =>
    rw [lines_flatten_cons h, textsOf, List.map_cons, List.map_cons, ← ih h.tail]
    rfl

/-- Reading gets over the pieces that do not end the header. -/
theorem readPairs_flatten (h : ArePieces (ps ++ qs))
    (hps : ∀ p ∈ ps, endsHeader yamlSep (pieceText p) = false)
    (pairs : List (String × String)) :
    readPairs yamlSep pairs (lines (ps ++ qs).flatten) =
      readPairs yamlSep ((ps.map pieceText).foldl readLine pairs) (lines qs.flatten) := by
  induction ps generalizing pairs with
  | nil => rfl
  | cons p ps ih =>
    rcases List.forall_mem_cons.mp hps with ⟨hp, hps⟩
    rw [List.cons_append] at h ⊢
    rw [lines_flatten_cons h, readPairs_of_goes_on hp, ih h.tail hps, List.map_cons,
      List.foldl_cons]
    rfl

end Kasten.Header
