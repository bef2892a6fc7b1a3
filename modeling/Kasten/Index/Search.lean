import Kasten.Index.Tables

/-!
# Searching the index

A term is compared with the words and URLs of all zettel and, if it consists of digits, with
their identifiers. A zettel found by its identifier brings along all that refer to it.
-/

namespace Kasten.Index

inductive SearchKind where
  | equals
  | startsWith
  | endsWith
  | contains
deriving DecidableEq, Repr

/-- A start of fourteen zeros asks for a range of identifiers whose end lies before its start. -/
inductive SearchError where
  | emptyRange
deriving DecidableEq, Repr

namespace SearchKind

/-- The relation that a found text has to the term. -/
def accepts : SearchKind → String → String → Bool
  | equals, term, text => term == text
  | startsWith, term, text => Text.startsWith text term
  | endsWith, term, text => Text.endsWith text term
  | contains, term, text => Text.holds text term

end SearchKind

namespace Tables

/-- The zettel, if it is known, and those that refer to it. -/
def closure (t : Tables) (z : Zid) : List Zid :=
  match t.nodes[z]? with
  | none => []
  | some n => z :: n.backward.ids ++ n.typed.toList.flatMap fun (_, refs) => refs.backward.ids

/-- The holders of all words and URLs that the test accepts. -/
def holders (t : Tables) (test : String → Bool) : List Zid :=
  (t.words.toList ++ t.urls.toList).flatMap fun (text, row) => if test text then row.ids else []

/-- The known zettel whose identifiers fit the term, which consists of digits. -/
def matching (t : Tables) (kind : SearchKind) (term : String) (value : Nat) :
    Except SearchError (List Zid) :=
  let size := term.toList.length
  match kind with
  | .equals => .ok ((Zid.parse? term).toList)
  | .startsWith =>
    let scale := Nat.pow 10 (Zid.width - size)
    let first := max (value * scale) 1
    let last := value * scale + (scale - 1)
    if last < first then .error .emptyRange
    else .ok (t.indexed.filter fun z => first ≤ z.val && z.val ≤ last)
  | .endsWith => .ok (t.indexed.filter fun z => z.val % Nat.pow 10 size == value)
  | .contains => .ok (t.indexed.filter fun z => Text.holds z.text term)

def search (t : Tables) (kind : SearchKind) (term : String) : Except SearchError ZidSet :=
  let found := t.holders (kind.accepts term)
  match Zid.parseNumber? term with
  | none => .ok (ZidSet.ofZids found)
  | some value =>
    match t.matching kind term value with
    | .error e => .error e
    | .ok zids => .ok (ZidSet.ofZids (found ++ zids.flatMap t.closure))

end Tables

end Kasten.Index
