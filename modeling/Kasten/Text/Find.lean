/-!
# Looking for a text in a text
-/

namespace Kasten.Text

/-- The needle begins somewhere in the other list. -/
def occurs (needle : List Char) : List Char → Bool
  | [] => needle.isEmpty
  | c :: cs => needle.isPrefixOf (c :: cs) || occurs needle cs

/-- The text starts with the other one. -/
def startsWith (s part : String) : Bool :=
  part.toList.isPrefixOf s.toList

/-- The text ends with the other one. -/
def endsWith (s part : String) : Bool :=
  part.toList.isSuffixOf s.toList

/-- The text holds the other one. -/
def holds (s part : String) : Bool :=
  occurs part.toList s.toList

/-- The parts between the separators; there is one more of them than separators. -/
def splitOn (separator : Char) : List Char → List (List Char)
  | [] => [[]]
  | c :: cs =>
    if c = separator then [] :: splitOn separator cs
    else
      match splitOn separator cs with
      | [] => [[c]]
      | part :: rest => (c :: part) :: rest

end Kasten.Text
