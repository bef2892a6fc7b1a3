import Std.Data.ExtTreeMap
import Kasten.Meta.Key
import Kasten.Text.Blank
import Kasten.Zid.Basic

/-!
# Metadata

The key and value pairs of one zettel, in the order of their keys. Values are kept with single
spaces between their words.
-/

namespace Kasten

/-- `yamlSep` tells that the pairs stand, or should stand, between separator lines in the file. -/
structure Meta where
  zid : Zid
  pairs : Std.ExtTreeMap String String
  yamlSep : Bool
deriving DecidableEq, Inhabited

namespace Meta

/-- What a zettel without a syntax of its own is written in. -/
def defaultSyntax : String := "zmk"

/-- The syntax of content that is not text to be read. -/
def noSyntax : String := "none"

def new (zid : Zid) : Meta := ⟨zid, ∅, false⟩

/-- The identifier is not looked up as a key. -/
def get? (m : Meta) (key : String) : Option String :=
  if key = Key.id then none else m.pairs[key]?

def getD (m : Meta) (key default : String) : String :=
  (m.get? key).getD default

def contains (m : Meta) (key : String) : Bool :=
  m.pairs.contains key

/-- A value with single spaces between its words and none around them. -/
def squeeze (value : String) : String :=
  String.ofList (Text.squeeze value.toList)

/-- Sets a value. The identifier belongs to the metadata itself, so its key is passed over, as
are keys that are not well formed. -/
def set (m : Meta) (key value : String) : Meta :=
  if key = Key.id ∨ ¬ Key.isValid key then m
  else { m with pairs := m.pairs.insert key (squeeze value) }

def setAll (m : Meta) (pairs : List (String × String)) : Meta :=
  pairs.foldl (fun m pair => m.set pair.1 pair.2) m

def erase (m : Meta) (key : String) : Meta :=
  { m with pairs := m.pairs.erase key }

def size (m : Meta) : Nat := m.pairs.size

def isEmpty (m : Meta) : Bool := m.pairs.isEmpty

/-- The pairs that are written to a file: all but those of computed keys. -/
def userPairs (m : Meta) : List (String × String) :=
  m.pairs.toList.filter fun pair => !Key.isComputed pair.1

/-- The words of a value. -/
def elements (value : String) : List String :=
  (Text.words value.toList).map String.ofList

def getList (m : Meta) (key : String) : List String :=
  match m.get? key with
  | some value => elements value
  | none => []

/-- The identifiers among the words of a value. -/
def getZids (m : Meta) (key : String) : List Zid :=
  (m.getList key).filterMap Zid.parse?

end Meta

end Kasten
