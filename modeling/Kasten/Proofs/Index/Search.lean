import Kasten.Proofs.Index.Ledger
import Kasten.Proofs.Zid.Text

/-!
# What a search finds

The four kinds of search look at words, URLs and identifiers in different ways: identifiers are
parsed, compared as numbers, reduced to a remainder or read as texts. For valid identifiers all
of this comes to one relation between the term and a text.
-/

namespace Kasten

/-! ## 1. Texts in texts -/

namespace Text

theorem occurs_iff {needle cs : List Char} : occurs needle cs = true ↔ needle <:+: cs := by
  induction cs with
  | nil => exact List.isEmpty_iff.trans List.infix_nil.symm
  | cons c cs ih =>
    rw [occurs, Bool.or_eq_true, List.isPrefixOf_iff_prefix, ih, List.infix_cons_iff]

end Text

namespace Index

/-- The relation between a term and a text that a kind of search looks for. -/
def SearchKind.Relates : SearchKind → String → String → Prop
  | equals, term, text => text = term
  | startsWith, term, text => term.toList <+: text.toList
  | endsWith, term, text => term.toList <:+ text.toList
  | contains, term, text => term.toList <:+: text.toList

theorem SearchKind.accepts_iff (kind : SearchKind) (term text : String) :
    kind.accepts term text = true ↔ kind.Relates term text := by
  cases kind with
  | equals => exact beq_iff_eq.trans eq_comm
  | startsWith => exact List.isPrefixOf_iff_prefix
  | endsWith => exact List.isSuffixOf_iff_suffix
  | contains => exact Text.occurs_iff

/-- The term is a number of as many digits as identifiers have, or fewer. -/
def IsNumber (term : String) : Prop :=
  1 ≤ term.toList.length ∧ term.toList.length ≤ Zid.width ∧
    ∀ c ∈ term.toList, Text.isAsciiDigit c = true

theorem isNumber_of_all {term : String} (hpos : 1 ≤ term.toList.length)
    (hlength : term.toList.length ≤ Zid.width) (hall : term.toList.all Text.isAsciiDigit = true) :
    IsNumber term :=
  ⟨hpos, hlength, List.all_eq_true.mp hall⟩

theorem parseNumber?_of_isNumber {term : String} (h : IsNumber term) :
    Zid.parseNumber? term = some (Text.digitsValue term.toList) := by
  rcases h with ⟨hpos, hlength, hdigits⟩
  unfold Zid.parseNumber?
  dsimp only
  rw [if_pos ⟨List.ne_nil_of_length_pos hpos, hlength, List.all_eq_true.mpr hdigits⟩]

theorem parseNumber?_of_not_isNumber {term : String} (h : ¬ IsNumber term) :
    Zid.parseNumber? term = none := by
  unfold Zid.parseNumber?
  dsimp only
  apply if_neg
  rintro ⟨hne, hlength, hdigits⟩
  exact h ⟨List.length_pos_iff.mpr hne, hlength, List.all_eq_true.mp hdigits⟩

/-! ## 2. Valid identifiers -/

/-- A record of a valid zettel that refers to valid zettel. -/
structure Record.IsValid (r : Record) : Prop where
  zid : r.zid.isValid = true
  forward : ∀ z ∈ r.forward, z.isValid = true
  typed : ∀ key, ∀ z ∈ r.typed.getD key ∅, z.isValid = true

def Call.IsValid : Call → Prop
  | .update r => r.IsValid
  | .delete _ => True

/-- Of a zettel that is in no ledger and is referred to nowhere the tables know nothing. -/
theorem Store.Keeps.node_eq_empty {s : Store} {m : Ledger} {z : Zid} (h : s.Keeps m)
    (hcontent : m z = Content.empty) (hrefers : ∀ a, ¬ (m a).RefersTo z) :
    s.tables.node z = Node.empty := by
  have hown : ∀ {β : Type} (part : Content → β), part (m z) = part Content.empty :=
    fun part => congrArg part hcontent
  have hdead : (s.tables.node z).dead = ∅ :=
    (h.shows.dead z).trans ((hown fun c => c.dead.slice).trans slice_empty)
  have hforward : (s.tables.node z).forward = ∅ :=
    (h.shows.forward z).trans ((hown fun c => c.forward.slice).trans slice_empty)
  have hwords : (s.tables.node z).words = [] :=
    (h.shows.words z).trans ((hown fun c => c.words.toList).trans toList_empty)
  have hurls : (s.tables.node z).urls = [] :=
    (h.shows.urls z).trans ((hown fun c => c.urls.toList).trans toList_empty)
  have htags : (s.tables.node z).tags = "" := (h.shows.tags z).trans (hown Content.tags)
  -- The halves of references kept here for others would be references of theirs.
  have hbackward : (s.tables.node z).backward = ∅ := by
    rw [ZidSlice.eq_empty_iff]
    exact fun a ha => hrefers a (.inl (h.mem_backward.mp ha))
  have hrefs : ∀ key, (s.tables.node z).refs key = Refs.empty := by
    intro key
    have hfront : ((s.tables.node z).refs key).forward = ∅ :=
      (h.shows.typed z key).trans ((hown fun c => (c.typed key).slice).trans slice_empty)
    have hback : ((s.tables.node z).refs key).backward = ∅ := by
      rw [ZidSlice.eq_empty_iff]
      exact fun a ha => hrefers a (.inr ⟨key, h.mem_typed_backward.mp ha⟩)
    exact Refs.ext hfront hback
  have htyped : (s.tables.node z).typed = ∅ :=
    (h.sound.stored.typed z).ext (omits_empty _) hrefs
  exact Node.ext hdead hforward hbackward htyped hwords hurls htags

/-- Valid records leave nodes of valid zettel only. -/
theorem Store.isValid_of_node {calls : List Call} (hcalls : ∀ c ∈ calls, c.IsValid) {z : Zid}
    {n : Node} (hz : (new.callAll calls).tables.nodes[z]? = some n) : z.isValid = true := by
  have hkeeps := keeps_after calls
  have hstems := Ledger.stemsFrom_callAll calls
  by_contra hinvalid
  have hcontent : Ledger.empty.callAll calls z = Content.empty := by
    refine (hstems z).resolve_right ?_
    rintro ⟨r, hr, rfl, -⟩
    exact hinvalid (hcalls _ hr).zid
  have hrefers : ∀ a, ¬ (Ledger.empty.callAll calls a).RefersTo z := by
    intro a ha
    rcases hstems a with hnone | ⟨r, hr, -, hforward, htyped⟩
    · rw [hnone] at ha
      exact Content.not_refersTo_empty z ha
    · rcases ha with ha | ⟨key, ha⟩
      · exact hinvalid ((hcalls _ hr).forward z (hforward z ha))
      · exact hinvalid ((hcalls _ hr).typed key z (htyped key z ha))
  have hnode := hkeeps.node_eq_empty hcontent hrefers
  rw [Tables.node, getD_of_getElem? hz] at hnode
  exact hkeeps.sound.stored.omits_nodes z (hnode ▸ hz)

/-! ## 3. What is found -/

namespace Tables

/-- What a search is meant to find: the zettel that hold a word or URL related to the term and, if
the term is a number, all known zettel with an identifier related to it, along with all that refer
to them. -/
inductive Finds (t : Tables) (kind : SearchKind) (term : String) : Zid → Prop where
  | word {w : String} {row : ZidSlice} {z : Zid} (hw : t.words[w]? = some row)
      (h : kind.Relates term w) (hz : z ∈ row) : Finds t kind term z
  | url {w : String} {row : ZidSlice} {z : Zid} (hw : t.urls[w]? = some row)
      (h : kind.Relates term w) (hz : z ∈ row) : Finds t kind term z
  | zettel {x : Zid} {n : Node} (hterm : IsNumber term) (hx : t.nodes[x]? = some n)
      (h : kind.Relates term x.text) : Finds t kind term x
  | backward {x z : Zid} {n : Node} (hterm : IsNumber term) (hx : t.nodes[x]? = some n)
      (h : kind.Relates term x.text) (hz : z ∈ n.backward) : Finds t kind term z
  | typed {x z : Zid} {n : Node} {key : String} {refs : Refs} (hterm : IsNumber term)
      (hx : t.nodes[x]? = some n) (h : kind.Relates term x.text)
      (hkey : n.typed[key]? = some refs) (hz : z ∈ refs.backward) : Finds t kind term z

variable {t : Tables} {kind : SearchKind} {term : String} {x z : Zid}

theorem mem_holders {test : String → Bool} :
    z ∈ t.holders test ↔ ∃ text row,
      (t.words[text]? = some row ∨ t.urls[text]? = some row) ∧ test text = true ∧ z ∈ row := by
  unfold holders
  rw [List.mem_flatMap]
  simp only [List.mem_append, Prod.exists, Std.ExtTreeMap.mem_toList_iff_getElem?_eq_some]
  refine exists_congr fun text => exists_congr fun row => and_congr_right fun _ => ?_
  split
  next htest => rw [and_iff_right htest]; exact Iff.rfl
  next htest => simp [htest]

theorem mem_closure : z ∈ t.closure x ↔ ∃ n, t.nodes[x]? = some n ∧
    (z = x ∨ z ∈ n.backward ∨
      ∃ (key : String) (refs : Refs), n.typed[key]? = some refs ∧ z ∈ refs.backward) := by
  unfold closure
  cases hx : t.nodes[x]? with
  | none => simp
  | some n =>
    simp only [Option.some.injEq, exists_eq_left', List.mem_cons, List.mem_append, List.cons_append,
      List.mem_flatMap, Prod.exists, Std.ExtTreeMap.mem_toList_iff_getElem?_eq_some]
    exact Iff.rfl

theorem mem_indexed : x ∈ t.indexed ↔ t.nodes[x]?.isSome = true := by
  unfold indexed
  rw [Std.ExtTreeMap.mem_keys, Std.ExtTreeMap.mem_iff_isSome_getElem?]

/-- The only term whose range of identifiers ends before it starts. -/
def zeros : String := "00000000000000"

theorem isNumber_zeros : IsNumber zeros :=
  isNumber_of_all (by decide) (by decide) (by decide)

theorem eq_zeros_iff (h : IsNumber term) :
    term = zeros ↔ Text.digitsValue term.toList = 0 ∧ term.toList.length = Zid.width := by
  constructor
  · rintro rfl
    exact ⟨rfl, rfl⟩
  · rintro ⟨hvalue, hlength⟩
    apply String.toList_inj.mp
    exact Text.eq_of_digitsValue_eq h.2.2 isNumber_zeros.2.2 hlength hvalue

/-- The range starts with the identifier 1 at the earliest, which is too late only for zeros. -/
theorem range_reversed_iff (h : IsNumber term) :
    Text.digitsValue term.toList * Nat.pow 10 (Zid.width - term.toList.length) +
        (Nat.pow 10 (Zid.width - term.toList.length) - 1) <
      max (Text.digitsValue term.toList * Nat.pow 10 (Zid.width - term.toList.length)) 1 ↔
    term = zeros := by
  rw [eq_zeros_iff h]
  by_cases hlength : term.toList.length = Zid.width
  · rw [hlength, Nat.sub_self, show Nat.pow 10 0 = 1 from rfl]
    omega
  · have hshort := Nat.lt_of_le_of_ne h.2.1 hlength
    have hscale : 10 ^ 1 ≤ Nat.pow 10 (Zid.width - term.toList.length) :=
      Nat.pow_le_pow_right (by decide) (by omega)
    generalize Nat.pow 10 (Zid.width - term.toList.length) = scale at hscale ⊢
    generalize Text.digitsValue term.toList * scale = first
    omega

/-- Of the known zettel just those are chosen whose identifiers are related to the term. -/
theorem exists_matching (hvalid : ∀ (x : Zid) (n : Node), t.nodes[x]? = some n → x.isValid = true)
    (hterm : IsNumber term) (hne : ¬ (kind = .startsWith ∧ term = zeros)) :
    ∃ zids, t.matching kind term (Text.digitsValue term.toList) = .ok zids ∧
      ∀ x n, t.nodes[x]? = some n → (x ∈ zids ↔ kind.Relates term x.text) := by
  have hindexed : ∀ {x n}, t.nodes[x]? = some n → x ∈ t.indexed := by
    intro x n hx
    rw [mem_indexed, hx]
    rfl
  have htext : ∀ x : Zid, x.text.toList = x.digits := fun x => String.toList_ofList
  have hlength := hterm.2.1
  have hdigits := hterm.2.2
  unfold matching
  cases kind with
  | equals =>
    refine ⟨_, rfl, fun x n hx => ?_⟩
    rw [Option.mem_toList, Zid.parse?_eq_some_iff, and_iff_right (hvalid x n hx)]
    show x.digits = term.toList ↔ x.text = term
    rw [← String.toList_inj, htext]
  | startsWith =>
    dsimp only
    rw [if_neg fun hreversed => hne ⟨rfl, (range_reversed_iff hterm).mp hreversed⟩]
    refine ⟨_, rfl, fun x n hx => ?_⟩
    have hpos := (Zid.isValid_iff.mp (hvalid x n hx)).1
    rw [List.mem_filter, and_iff_right (hindexed hx), Bool.and_eq_true, decide_eq_true_iff,
      decide_eq_true_iff, Nat.max_le, and_iff_left (show 1 ≤ x.val from hpos)]
    show _ ↔ term.toList <+: x.text.toList
    rw [htext, Zid.isPrefix_digits_iff_between (hvalid x n hx) hdigits hlength]
    exact Iff.rfl
  | endsWith =>
    refine ⟨_, rfl, fun x n hx => ?_⟩
    rw [List.mem_filter, and_iff_right (hindexed hx), beq_iff_eq]
    show _ ↔ term.toList <:+ x.text.toList
    rw [htext, Zid.isSuffix_digits_iff (hvalid x n hx) hdigits hlength]
    exact Iff.rfl
  | contains =>
    refine ⟨_, rfl, fun x n hx => ?_⟩
    rw [List.mem_filter, and_iff_right (hindexed hx)]
    exact Text.occurs_iff

theorem finds_of_holders (h : z ∈ t.holders (kind.accepts term)) : t.Finds kind term z := by
  rcases mem_holders.mp h with ⟨text, row, hrow | hrow, haccepts, hz⟩
  · exact .word hrow ((kind.accepts_iff term text).mp haccepts) hz
  · exact .url hrow ((kind.accepts_iff term text).mp haccepts) hz

/-- What is found either holds a text or belongs to a zettel whose identifier is related to the
term. -/
theorem finds_iff : t.Finds kind term z ↔ z ∈ t.holders (kind.accepts term) ∨
    IsNumber term ∧ ∃ x, kind.Relates term x.text ∧ z ∈ t.closure x := by
  constructor
  · intro h
    cases h with
    | word hw h hz =>
      exact .inl (mem_holders.mpr ⟨_, _, .inl hw, (kind.accepts_iff term _).mpr h, hz⟩)
    | url hw h hz =>
      exact .inl (mem_holders.mpr ⟨_, _, .inr hw, (kind.accepts_iff term _).mpr h, hz⟩)
    | zettel hterm hx h =>
      exact .inr ⟨hterm, _, h, mem_closure.mpr ⟨_, hx, .inl rfl⟩⟩
    | backward hterm hx h hz =>
      exact .inr ⟨hterm, _, h, mem_closure.mpr ⟨_, hx, .inr (.inl hz)⟩⟩
    | typed hterm hx h hkey hz =>
      exact .inr ⟨hterm, _, h, mem_closure.mpr ⟨_, hx, .inr (.inr ⟨_, _, hkey, hz⟩)⟩⟩
  · rintro (h | ⟨hterm, x, h, hz⟩)
    · exact finds_of_holders h
    · rcases mem_closure.mp hz with ⟨n, hx, rfl | hz | ⟨key, refs, hkey, hz⟩⟩
      · exact .zettel hterm hx h
      · exact .backward hterm hx h hz
      · exact .typed hterm hx h hkey hz

theorem search_of_zeros : t.search .startsWith zeros = .error .emptyRange := by
  unfold search matching
  rw [parseNumber?_of_isNumber isNumber_zeros]
  dsimp only
  rw [if_pos ((range_reversed_iff isNumber_zeros).mpr rfl)]

theorem exists_search (hvalid : ∀ (x : Zid) (n : Node), t.nodes[x]? = some n → x.isValid = true)
    (hne : ¬ (kind = .startsWith ∧ term = zeros)) :
    ∃ found, t.search kind term = .ok found ∧ ∀ z, z ∈ found ↔ t.Finds kind term z := by
  unfold search
  by_cases hterm : IsNumber term
  · rcases exists_matching hvalid hterm hne with ⟨zids, hmatching, hzids⟩
    rw [parseNumber?_of_isNumber hterm]
    dsimp only
    rw [hmatching]
    refine ⟨_, rfl, fun z => ?_⟩
    rw [ZidSet.mem_ofZids, List.mem_append, List.mem_flatMap, finds_iff, and_iff_right hterm]
    -- A zettel that is not known brings nothing along, whether it was chosen or not.
    refine or_congr_right (exists_congr fun x => and_congr_left fun hz => ?_)
    rcases mem_closure.mp hz with ⟨n, hx, -⟩
    exact hzids x n hx
  · rw [parseNumber?_of_not_isNumber hterm]
    refine ⟨_, rfl, fun z => ?_⟩
    rw [ZidSet.mem_ofZids, finds_iff, or_iff_left fun h => hterm h.1]

end Tables

namespace Store

/-- Whatever valid records were taken in and whatever zettel were forgotten, a search of any kind
finds what it is meant to find. It fails only for a start of fourteen zeros. -/
theorem search_finds (calls : List Call) (hcalls : ∀ c ∈ calls, c.IsValid) (kind : SearchKind)
    (term : String) :
    ((∃ error, (new.callAll calls).tables.search kind term = .error error) ↔
      kind = .startsWith ∧ term = "00000000000000") ∧
    (¬ (kind = .startsWith ∧ term = "00000000000000") →
      ∃ found, (new.callAll calls).tables.search kind term = .ok found ∧
        ∀ z, z ∈ found ↔ (new.callAll calls).tables.Finds kind term z) := by
  have hfound : ¬ (kind = .startsWith ∧ term = Tables.zeros) → _ :=
    Tables.exists_search fun x n hx => isValid_of_node hcalls hx
  refine ⟨⟨?_, ?_⟩, hfound⟩
  · rintro ⟨error, herror⟩
    by_contra hne
    rcases hfound hne with ⟨found, hok, -⟩
    rw [herror] at hok
    cases hok
  · rintro ⟨rfl, rfl⟩
    exact ⟨.emptyRange, Tables.search_of_zeros⟩

/-- The end of an identifier finds the zettel and the one that refers to it. -/
theorem search_finds_of_reference :
    let r : Record := (Record.new ⟨20200101000001⟩).addForward ⟨20200101000002⟩
    (∀ c ∈ [Call.update r], c.IsValid) ∧
      ¬ (SearchKind.endsWith = .startsWith ∧ "002" = "00000000000000") ∧
      ∃ found, (new.callAll [.update r]).tables.search .endsWith "002" = .ok found ∧
        ⟨20200101000001⟩ ∈ found ∧ ⟨20200101000002⟩ ∈ found := by
  intro r
  have hr : r.IsValid := by
    refine ⟨by decide, ?_, ?_⟩
    · intro z hz
      rcases Std.ExtTreeSet.mem_insert.mp hz with hz | hz
      · rw [← Std.compare_eq_iff_eq.mp hz]
        decide
      · exact absurd hz Std.ExtTreeSet.not_mem_empty
    · intro key z hz
      rw [show r.typed = ∅ from rfl, Std.ExtTreeMap.getD_empty] at hz
      exact absurd hz Std.ExtTreeSet.not_mem_empty
  have hcalls : ∀ c ∈ [Call.update r], c.IsValid := by
    intro c hc
    rw [List.mem_singleton.mp hc]
    exact hr
  have hends : ¬ (SearchKind.endsWith = .startsWith ∧ "002" = "00000000000000") := by decide
  rcases (search_finds [.update r] hcalls .endsWith "002").2 hends with ⟨found, hok, hfound⟩
  have hforward : ⟨20200101000002⟩ ∈ (Ledger.empty.callAll [.update r] ⟨20200101000001⟩).forward := by
    show _ ∈ (Function.update Ledger.empty r.zid r.content r.zid).forward
    rw [Function.update_self]
    exact Std.ExtTreeSet.mem_insert_self
  rcases (keeps_after [.update r]).exists_backward hforward with ⟨n, hnode, hback⟩
  have hterm : IsNumber "002" := isNumber_of_all (by decide) (by decide) (by decide)
  have hsuffix : SearchKind.endsWith.Relates "002" (⟨20200101000002⟩ : Zid).text := by
    unfold SearchKind.Relates
    decide +kernel
  exact ⟨hcalls, hends, found, hok, (hfound _).mpr (.backward hterm hnode hsuffix hback),
    (hfound _).mpr (.zettel hterm hnode hsuffix)⟩

end Store

end Index

end Kasten
