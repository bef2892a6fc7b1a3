import Kasten.Proofs.Meta.Lines
import Kasten.Proofs.Meta.Set

/-!
# Lines that hold no pair

A line that holds no pair is passed over, and the header is read as if it were not there. So the
indented lines behind it continue the last pair that was accepted, whichever line gave that one.
Taking them out together with the line keeps the metadata just when that pair does not count: when
there is none, when it gives the identifier, or when a later line gives its key again.
-/

namespace Kasten.Header

open Text (isBlank words trim)
open Text.Utf8 (encodeText)

variable {yamlSep : Bool} {pairs : List (String × String)} {texts : List (List Char)}
  {text : List Char} {key : String}

/-! ## 1. Kinds of lines -/

/-- A line that begins no pair: it has no colon, or its key is not well formed. -/
def isPassedOver (text : List Char) : Bool :=
  !isBlankLine text && !isIndented text && !isSeparator text && (pairOf text).isNone

/-- A line that continues the value of another. -/
def isContinuation (text : List Char) : Bool :=
  isIndented text && !isBlankLine text

theorem isPassedOver_iff : isPassedOver text = true ↔
    isBlankLine text = false ∧ isIndented text = false ∧ isSeparator text = false ∧
      pairOf text = none := by
  unfold isPassedOver
  simp only [Bool.and_eq_true, Bool.not_eq_true', Option.isNone_iff_eq_none, and_assoc]

theorem isContinuation_iff :
    isContinuation text = true ↔ isIndented text = true ∧ isBlankLine text = false := by
  unfold isContinuation
  rw [Bool.and_eq_true, Bool.not_eq_true']

/-- The key of the pair that a line begins. -/
def keyOf (text : List Char) : Option String :=
  if isBlankLine text || isIndented text then none else (pairOf text).map Prod.fst

theorem isValid_of_keyOf (h : keyOf text = some key) : Key.isValid key = true := by
  unfold keyOf pairOf at h
  split at h
  next => cases h
  next =>
    split at h
    next => cases h
    next =>
      dsimp only at h
      split at h
      next hvalid =>
        cases h
        exact hvalid
      next => cases h

theorem readLine_of_isPassedOver (h : isPassedOver text = true)
    (pairs : List (String × String)) : readLine pairs text = pairs := by
  rcases isPassedOver_iff.mp h with ⟨hblank, hindented, -, hpair⟩
  unfold readLine
  rw [hblank, if_neg Bool.false_ne_true, hindented, if_neg Bool.false_ne_true, hpair]

theorem goes_on_of_isPassedOver (h : isPassedOver text = true) (yamlSep : Bool) :
    endsHeader yamlSep text = false := by
  rcases isPassedOver_iff.mp h with ⟨hblank, -, hsep, -⟩
  unfold endsHeader
  split
  next => exact hsep
  next => exact hblank

theorem exists_first_of_isSeparator (h : isSeparator text = true) :
    ∃ rest, text = '-' :: rest := by
  unfold isSeparator separator at h
  have htrim := beq_iff_eq.mp h
  cases text with
  | nil => cases htrim
  | cons c rest =>
    -- Trimming at the end keeps the first character, unless it takes away all.
    rw [Text.trimRight] at htrim
    split at htrim
    next =>
      split at htrim
      next => cases htrim
      next => cases htrim
    next => exact ⟨rest, congrArg (· :: rest) (List.cons.inj htrim).1⟩

theorem goes_on_of_isContinuation (h : isContinuation text = true) (yamlSep : Bool) :
    endsHeader yamlSep text = false := by
  rcases isContinuation_iff.mp h with ⟨hindented, hblank⟩
  unfold endsHeader
  split
  next =>
    cases hsep : isSeparator text with
    | false => rfl
    | true =>
      rcases exists_first_of_isSeparator hsep with ⟨rest, rfl⟩
      exact absurd hindented Bool.false_ne_true
  next => exact hblank

/-- The line of a separator holds no pair, whether it opens the header or not. -/
theorem readLine_of_isSeparator (h : isSeparator text = true) : readLine [] text = [] := by
  have hpair : pairOf text = none := by
    unfold pairOf
    rw [show Text.trimRight text = separator from beq_iff_eq.mp h]
    rfl
  unfold readLine
  split
  next => rfl
  next =>
    split
    next => rfl
    next => rw [hpair]

/-! ## 2. What lines do to the pairs -/

/-- What a continuation adds to a value. -/
def continuation (text : List Char) : String := " " ++ String.ofList (trim text)

theorem toList_continuation (text : List Char) : (continuation text).toList = ' ' :: trim text := by
  rw [continuation, String.toList_append, String.toList_ofList, String.toList_ofList]
  rfl

theorem readLine_of_isContinuation (h : isContinuation text = true)
    (pairs : List (String × String)) : readLine pairs text = continueLast text pairs := by
  rcases isContinuation_iff.mp h with ⟨hindented, hblank⟩
  unfold readLine
  rw [hblank, if_neg Bool.false_ne_true, if_pos hindented]

theorem continueLast_cons (text : List Char) (key value : String)
    (pairs : List (String × String)) :
    continueLast text ((key, value) :: pairs) = (key, value ++ continuation text) :: pairs := by
  show (key, value ++ " " ++ String.ofList (trim text)) :: pairs = _
  rw [String.append_assoc]
  rfl

/-- Whatever pairs the lines meet, they put new ones in front of them and append to the value of
the last. -/
structure Adds (texts : List (List Char)) (new : List (String × String)) (more : String) :
    Prop where
  start : texts.foldl readLine [] = new
  fold : ∀ key value pairs,
    texts.foldl readLine ((key, value) :: pairs) = new ++ (key, value ++ more) :: pairs
  keys : new.map Prod.fst = (texts.filterMap keyOf).reverse
  blank : ∀ c ∈ more.toList.head?, isBlank c = true

namespace Adds

variable {new : List (String × String)} {more : String}

theorem nil : Adds [] [] "" :=
  ⟨rfl, fun key value pairs => by rw [String.append_empty]; rfl, rfl, nofun⟩

theorem skip (h : Adds texts new more) (hread : ∀ pairs, readLine pairs text = pairs)
    (hkey : keyOf text = none) : Adds (text :: texts) new more := by
  refine ⟨?_, fun key value pairs => ?_, ?_, h.blank⟩
  · rw [List.foldl_cons, hread]
    exact h.start
  · rw [List.foldl_cons, hread]
    exact h.fold key value pairs
  · rw [List.filterMap_cons_none hkey]
    exact h.keys

theorem continued (h : Adds texts new more) (hcont : isContinuation text = true) :
    Adds (text :: texts) new (continuation text ++ more) := by
  have hread := readLine_of_isContinuation hcont
  have hkey : keyOf text = none := by
    unfold keyOf
    rw [(isContinuation_iff.mp hcont).1, Bool.or_true, if_pos rfl]
  refine ⟨?_, fun key value pairs => ?_, ?_, ?_⟩
  · rw [List.foldl_cons, hread]
    exact h.start
  · rw [List.foldl_cons, hread, continueLast_cons, h.fold, String.append_assoc]
  · rw [List.filterMap_cons_none hkey]
    exact h.keys
  · intro c hc
    rw [String.toList_append, toList_continuation] at hc
    cases hc
    decide

theorem pair (h : Adds texts new more) {pair : String × String}
    (hread : ∀ pairs, readLine pairs text = pair :: pairs) (hkey : keyOf text = some pair.1) :
    Adds (text :: texts) (new ++ [(pair.1, pair.2 ++ more)]) "" := by
  refine ⟨?_, fun key value pairs => ?_, ?_, nofun⟩
  · rw [List.foldl_cons, hread]
    exact h.fold pair.1 pair.2 []
  · rw [List.foldl_cons, hread, String.append_empty, List.append_assoc]
    exact h.fold pair.1 pair.2 ((key, value) :: pairs)
  · rw [List.filterMap_cons_some hkey, List.reverse_cons, List.map_append, h.keys]
    rfl

end Adds

theorem exists_adds (texts : List (List Char)) : ∃ new more, Adds texts new more := by
  induction texts with
  | nil => exact ⟨[], "", .nil⟩
  | cons text texts ih =>
    rcases ih with ⟨new, more, ih⟩
    cases hblank : isBlankLine text with
    | true =>
      refine ⟨new, more, ih.skip (fun pairs => ?_) ?_⟩
      · unfold readLine
        rw [if_pos hblank]
      · unfold keyOf
        rw [hblank, Bool.true_or, if_pos rfl]
    | false =>
      cases hindented : isIndented text with
      | true =>
        exact ⟨new, continuation text ++ more,
          ih.continued (isContinuation_iff.mpr ⟨hindented, hblank⟩)⟩
      | false =>
        have hkey : keyOf text = (pairOf text).map Prod.fst := by
          unfold keyOf
          rw [hblank, hindented, Bool.or_false, if_neg Bool.false_ne_true]
        have hread : ∀ pairs, readLine pairs text = (pairOf text).toList ++ pairs := by
          intro pairs
          unfold readLine
          rw [hblank, if_neg Bool.false_ne_true, hindented, if_neg Bool.false_ne_true]
          cases pairOf text <;> rfl
        cases hpair : pairOf text with
        | none =>
          rw [hpair] at hkey hread
          exact ⟨new, more, ih.skip hread hkey⟩
        | some pair =>
          rw [hpair] at hkey hread
          exact ⟨new ++ [(pair.1, pair.2 ++ more)], "", ih.pair hread hkey⟩

/-- Continuations append at least a word. -/
theorem exists_adds_of_isContinuation (h : ∀ text ∈ texts, isContinuation text = true) :
    ∃ more, Adds texts [] more ∧ (words more.toList = [] ↔ texts = []) := by
  induction texts with
  | nil => exact ⟨"", .nil, iff_of_true rfl rfl⟩
  | cons text texts ih =>
    rcases List.forall_mem_cons.mp h with ⟨htext, htexts⟩
    rcases ih htexts with ⟨more, hmore, -⟩
    have hblank : text.all isBlank = false := (isContinuation_iff.mp htext).2
    refine ⟨continuation text ++ more, hmore.continued htext, iff_of_false ?_ (List.cons_ne_nil _ _)⟩
    rw [String.toList_append, Text.words_append _ hmore.blank]
    refine List.append_ne_nil_of_left_ne_nil ?_ _
    rw [toList_continuation, Text.words_blank (by decide)]
    exact Text.words_trim_ne_nil hblank

/-! ## 3. Values that count -/

theorem metaOf_eq_iff {z : Zid} {pairs' : List (String × String)} :
    metaOf z yamlSep pairs = metaOf z yamlSep pairs' ↔
      ∀ key, Meta.IsSettable key →
        (pairs.lookup key).map Meta.squeeze = (pairs'.lookup key).map Meta.squeeze := by
  have hempty : ∀ key, ({ Meta.new z with yamlSep } : Meta).pairs[key]? = none :=
    fun _ => Std.ExtTreeMap.getElem?_empty
  have hlookup : ∀ (pairs : List (String × String)) key, Meta.IsSettable key →
      (metaOf z yamlSep pairs).pairs[key]? = (pairs.lookup key).map Meta.squeeze := by
    intro pairs key hkey
    unfold metaOf
    rw [Meta.getElem?_setAll hkey, List.reverse_reverse, hempty, Option.or_none]
  constructor
  · intro h key hkey
    rw [← hlookup pairs key hkey, ← hlookup pairs' key hkey, h]
  · intro h
    have hpairs : (metaOf z yamlSep pairs).pairs = (metaOf z yamlSep pairs').pairs := by
      refine Std.ExtTreeMap.ext_getElem? fun {key} => ?_
      by_cases hkey : Meta.IsSettable key
      · rw [hlookup pairs key hkey, hlookup pairs' key hkey, h key hkey]
      · -- Other keys have no value on either side.
        unfold metaOf
        rw [Meta.getElem?_setAll_of_not_isSettable hkey,
          Meta.getElem?_setAll_of_not_isSettable hkey]
    have hzid : (metaOf z yamlSep pairs).zid = (metaOf z yamlSep pairs').zid :=
      (Meta.zid_setAll _ _).trans (Meta.zid_setAll _ _).symm
    have hsep : (metaOf z yamlSep pairs).yamlSep = (metaOf z yamlSep pairs').yamlSep :=
      (Meta.yamlSep_setAll _ _).trans (Meta.yamlSep_setAll _ _).symm
    exact (Meta.mk.injEq ..).mpr ⟨hzid, hpairs, hsep⟩

theorem isSome_lookup_iff : (pairs.lookup key).isSome = true ↔ key ∈ pairs.map Prod.fst := by
  rw [List.lookup_isSome_iff, List.mem_map]
  simp only [beq_iff_eq, @eq_comm _ key]

/-- The value of one pair counts, unless the key is that of the identifier or is given again. -/
theorem metaOf_append_iff {z : Zid} {new : List (String × String)} {value value' : String}
    (hkey : Key.isValid key = true) :
    metaOf z yamlSep (new ++ (key, value) :: pairs) =
        metaOf z yamlSep (new ++ (key, value') :: pairs) ↔
      key = Key.id ∨ key ∈ new.map Prod.fst ∨ Meta.squeeze value = Meta.squeeze value' := by
  rw [metaOf_eq_iff]
  constructor
  · intro h
    by_cases hid : key = Key.id
    · exact Or.inl hid
    by_cases hnew : key ∈ new.map Prod.fst
    · exact Or.inr (Or.inl hnew)
    have hnone : new.lookup key = none :=
      Option.not_isSome_iff_eq_none.mp fun hsome => hnew (isSome_lookup_iff.mp hsome)
    have hvalues := h key ⟨hid, hkey⟩
    rw [List.lookup_append, List.lookup_append, hnone, Option.none_or, Option.none_or,
      List.lookup_cons_self, List.lookup_cons_self] at hvalues
    exact Or.inr (Or.inr (Option.some.inj hvalues))
  · intro h k hk
    rw [List.lookup_append, List.lookup_append, List.lookup_cons, List.lookup_cons]
    by_cases hsame : k = key
    · subst hsame
      rcases h with hid | hnew | hvalue
      · exact absurd hid hk.1
      · rcases Option.isSome_iff_exists.mp (isSome_lookup_iff.mpr hnew) with ⟨v, hv⟩
        rw [hv, Option.some_or, Option.some_or]
      · rw [beq_self_eq_true]
        cases new.lookup k with
        | none => exact congrArg some hvalue
        | some v => rfl
    · rw [beq_false_of_ne hsame]

theorem squeeze_eq_iff {value value' : String} :
    Meta.squeeze value = Meta.squeeze value' ↔ words value.toList = words value'.toList := by
  unfold Meta.squeeze
  rw [String.ofList_inj]
  constructor
  · intro h
    rw [← Text.words_squeeze, h, Text.words_squeeze]
  · exact congrArg Text.joinSpaces

/-- What is put between a value and what follows it counts if it has words. -/
theorem squeeze_append_iff {value between later : String}
    (hbetween : ∀ c ∈ between.toList.head?, isBlank c = true)
    (hlater : ∀ c ∈ later.toList.head?, isBlank c = true) :
    Meta.squeeze (value ++ later) = Meta.squeeze (value ++ between ++ later) ↔
      words between.toList = [] := by
  rw [squeeze_eq_iff, String.toList_append, String.toList_append, String.toList_append,
    Text.words_append _ hlater, Text.words_append _ hlater, Text.words_append _ hbetween,
    List.append_left_inj, List.self_eq_append_right]

/-- Continuations of the lines in front count if the value that they extend does. -/
theorem metaOf_foldl_iff {z : Zid} {front more rest : List (List Char)}
    (hmore : ∀ text ∈ more, isContinuation text = true) :
    metaOf z yamlSep (rest.foldl readLine (front.foldl readLine [])) =
        metaOf z yamlSep (rest.foldl readLine (more.foldl readLine (front.foldl readLine []))) ↔
      more = [] ∨ ∀ key ∈ (front.filterMap keyOf).getLast?,
        key = Key.id ∨ key ∈ rest.filterMap keyOf := by
  rcases exists_adds front with ⟨accepted, _, hfront⟩
  rcases exists_adds_of_isContinuation hmore with ⟨appended, hcont, hwords⟩
  rcases exists_adds rest with ⟨new, later, hrest⟩
  have hlast : (front.filterMap keyOf).getLast? = (accepted.map Prod.fst).head? := by
    rw [hfront.keys, List.head?_reverse]
  rw [hfront.start, hlast]
  cases accepted with
  | nil =>
    rw [hcont.start]
    exact iff_of_true rfl (Or.inr nofun)
  | cons pair pairs =>
    rcases pair with ⟨key, value⟩
    have hkey : Key.isValid key = true := by
      have hmem : key ∈ (front.filterMap keyOf).reverse := by
        rw [← hfront.keys]
        exact List.mem_cons_self
      rcases List.mem_filterMap.mp (List.mem_reverse.mp hmem) with ⟨text, -, htext⟩
      exact isValid_of_keyOf htext
    have hnew : key ∈ new.map Prod.fst ↔ key ∈ rest.filterMap keyOf := by
      rw [hrest.keys, List.mem_reverse]
    -- With the continuations the value has more words than without them.
    rw [hcont.fold, List.nil_append, hrest.fold, hrest.fold, metaOf_append_iff hkey, hnew,
      squeeze_append_iff hcont.blank hrest.blank, hwords]
    constructor
    · rintro (hid | hgiven | hnil)
      · exact Or.inr fun k hk => Or.inl ((Option.some.inj hk) ▸ hid)
      · exact Or.inr fun k hk => Or.inr ((Option.some.inj hk) ▸ hgiven)
      · exact Or.inl hnil
    · rintro (hnil | hall)
      · exact Or.inr (Or.inr hnil)
      · exact (hall key rfl).imp_right Or.inl

/-! ## 4. Files -/

/-- Whether there are separators is seen from the first piece. -/
theorem parse_flatten {z : Zid} {first : Bytes} {ps : List Bytes} (h : ArePieces (first :: ps))
    (hfirst : isBlankLine (pieceText first) = false) :
    parse z (first :: ps).flatten =
      (metaOf z (isSeparator (pieceText first))
        (readPairs (isSeparator (pieceText first)) (readLine [] (pieceText first))
          (lines ps.flatten)).1,
      (readPairs (isSeparator (pieceText first)) (readLine [] (pieceText first))
        (lines ps.flatten)).2) := by
  rw [parse_eq, lines_flatten_cons h]
  have hopens : opens (textsOf ((lineOf first, ps.flatten) :: lines ps.flatten)) =
      isSeparator (pieceText first) := rfl
  rw [bodyOf, hopens]
  cases hsep : isSeparator (pieceText first) with
  | true =>
    rw [if_pos rfl, readLine_of_isSeparator hsep]
    rfl
  | false =>
    rw [if_neg Bool.false_ne_true, readPairs_of_goes_on]
    · rfl
    · exact hfirst

/-- The pieces in front add to the pairs one after another, and the header ends in those behind. -/
theorem parse_append (z : Zid) {first : Bytes} (front : List Bytes) {rest : List Bytes}
    (h : ArePieces (first :: front ++ rest)) (hfirst : isBlankLine (pieceText first) = false)
    (hfront : ∀ p ∈ front, endsHeader (isSeparator (pieceText first)) (pieceText p) = false) :
    parse z (first :: front ++ rest).flatten =
      (metaOf z (isSeparator (pieceText first))
        ((headerTexts (isSeparator (pieceText first)) (rest.map pieceText)).foldl readLine
          (((first :: front).map pieceText).foldl readLine [])),
      afterHeader (isSeparator (pieceText first)) (lines rest.flatten)) := by
  have htail : ArePieces (front ++ rest) := h.tail
  have hrest : ArePieces rest := htail.sublist (List.sublist_append_right front rest)
  rw [List.cons_append] at h ⊢
  rw [parse_flatten h hfirst, readPairs_flatten htail hfront, readPairs_eq, textsOf_flatten hrest]
  rfl

/-- A line that holds no pair can be taken out. The lines that continue it count for the last pair
before it, so the metadata changes with them unless that pair does not count. -/
theorem parse_without_passed_over (z : Zid) {input first line : Bytes}
    {front more rest : List Bytes} (hinput : pieces input = first :: front ++ line :: more ++ rest)
    (hfirst : isBlankLine (pieceText first) = false)
    (hfront : ∀ p ∈ front, endsHeader (isSeparator (pieceText first)) (pieceText p) = false)
    (hline : isPassedOver (pieceText line) = true)
    (hmore : ∀ p ∈ more, isContinuation (pieceText p) = true) :
    let read := parse z input
    let lineGone := parse z (first :: front ++ more ++ rest).flatten
    let bothGone := parse z (first :: front ++ rest).flatten
    let before := (first :: front).map pieceText
    let later := headerTexts (isSeparator (pieceText first)) (rest.map pieceText)
    lineGone = read ∧ bothGone.2 = read.2 ∧
      (bothGone.1 = read.1 ↔ more = [] ∨
        ∀ key ∈ (before.filterMap keyOf).getLast?, key = Key.id ∨ key ∈ later.filterMap keyOf) := by
  intro read lineGone bothGone before later
  have hwhole := arePieces_pieces input
  rw [hinput] at hwhole
  -- What is left of the file is cut into what is left of the pieces.
  have hsub : (first :: front ++ more ++ rest).Sublist (first :: front ++ line :: more ++ rest) :=
    ((List.sublist_cons_self line more).append_left (first :: front)).append_right rest
  have hsub' : (first :: front ++ rest).Sublist (first :: front ++ more ++ rest) :=
    (List.sublist_append_left (first :: front) more).append_right rest
  have hmoreEnds : ∀ p ∈ more, endsHeader (isSeparator (pieceText first)) (pieceText p) = false :=
    fun p hp => goes_on_of_isContinuation (hmore p hp) _
  have hlineEnds := goes_on_of_isPassedOver hline (isSeparator (pieceText first))
  have hread := parse_append z (front ++ line :: more) hwhole hfirst
    (List.forall_mem_append.mpr ⟨hfront, List.forall_mem_cons.mpr ⟨hlineEnds, hmoreEnds⟩⟩)
  have hlineGone := parse_append z (front ++ more) (hwhole.sublist hsub) hfirst
    (List.forall_mem_append.mpr ⟨hfront, hmoreEnds⟩)
  have hbothGone := parse_append z front ((hwhole.sublist hsub).sublist hsub') hfirst hfront
  have hfold : ∀ ps : List Bytes, ((first :: (front ++ ps)).map pieceText).foldl readLine [] =
      (ps.map pieceText).foldl readLine (before.foldl readLine []) := by
    intro ps
    rw [← List.cons_append, List.map_append, List.foldl_append]
  have hinput' : input = (first :: (front ++ line :: more) ++ rest).flatten :=
    (flatten_pieces input).symm.trans (congrArg List.flatten hinput)
  -- The line itself does nothing to the pairs.
  rw [← hinput', hfold, List.map_cons, List.foldl_cons, readLine_of_isPassedOver hline] at hread
  rw [hfold] at hlineGone
  have hsame : lineGone = read := hlineGone.trans hread.symm
  have hafter : bothGone.2 = read.2 :=
    (congrArg Prod.snd hbothGone).trans (congrArg Prod.snd hread).symm
  refine ⟨hsame, hafter, ?_⟩
  -- Its continuations extend the last pair before it.
  have hmore' : ∀ text ∈ more.map pieceText, isContinuation text = true :=
    List.forall_mem_map.mpr hmore
  rw [show read.1 = _ from congrArg Prod.fst hread,
    show bothGone.1 = _ from congrArg Prod.fst hbothGone]
  refine (metaOf_foldl_iff hmore').trans ?_
  rw [List.map_eq_nil_iff]

theorem parse_without_passed_over_of_title_given_again :
    let z : Zid := ⟨20200310195100⟩
    let input := encodeText "---\ntitle: A\nno colon\n  more\ntitle: B\n---\nbody"
    let first := encodeText "---\n"
    let front := [encodeText "title: A\n"]
    let line := encodeText "no colon\n"
    let more := [encodeText "  more\n"]
    let rest := [encodeText "title: B\n", encodeText "---\n", encodeText "body"]
    (pieces input = first :: front ++ line :: more ++ rest ∧
      isBlankLine (pieceText first) = false ∧
      (∀ p ∈ front, endsHeader (isSeparator (pieceText first)) (pieceText p) = false) ∧
      isPassedOver (pieceText line) = true ∧
      ∀ p ∈ more, isContinuation (pieceText p) = true) ∧
    more ≠ [] ∧ parse z (first :: front ++ rest).flatten = parse z input := by
  intro z input first front line more rest
  have hinput : pieces input = first :: front ++ line :: more ++ rest := by decide +kernel
  have hfront : ∀ p ∈ front,
      endsHeader (isSeparator (pieceText first)) (pieceText p) = false := by decide +kernel
  have hmore : ∀ p ∈ more, isContinuation (pieceText p) = true := by decide +kernel
  have hgone := (parse_without_passed_over z hinput (by decide +kernel) hfront (by decide +kernel)
    hmore).2
  have hagain : ∀ key ∈ (((first :: front).map pieceText).filterMap keyOf).getLast?,
      key = Key.id ∨
        key ∈ (headerTexts (isSeparator (pieceText first)) (rest.map pieceText)).filterMap keyOf := by
    decide +kernel
  exact ⟨⟨hinput, by decide +kernel, hfront, by decide +kernel, hmore⟩, List.cons_ne_nil _ _,
    Prod.ext (hgone.2.mpr (Or.inr hagain)) hgone.1⟩

/-- The line without a colon is passed over, but its continuation is not. -/
theorem title_takes_foreign_continuation :
    let z : Zid := ⟨20200310195100⟩
    let input := encodeText "title: A\nno colon\n  more\n\nx"
    let gone := encodeText "title: A\n\nx"
    pieces input = encodeText "title: A\n" :: encodeText "no colon\n" :: encodeText "  more\n" ::
        pieces (encodeText "\nx") ∧
      pieces gone = encodeText "title: A\n" :: pieces (encodeText "\nx") ∧
      isPassedOver (pieceText (encodeText "no colon\n")) = true ∧
      isContinuation (pieceText (encodeText "  more\n")) = true ∧
      (parse z input).1.pairs.toList = [("title", "A more")] ∧
      (parse z gone).1.pairs.toList = [("title", "A")] ∧ (parse z gone).1 ≠ (parse z input).1 := by
  decide +kernel

end Kasten.Header
