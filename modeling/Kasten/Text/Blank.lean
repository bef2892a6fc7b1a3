/-!
# Blanks

The white space of text values: which characters it is, how a value is trimmed and cut into its
words, and the form of a value with single spaces between its words.
-/

namespace Kasten.Text

/-- The characters with the property White_Space. The information separators U+001C to U+001F,
the zero width space and the byte order mark are not among them. -/
def isBlank (c : Char) : Bool :=
  let n := c.toNat
  (9 ≤ n && n ≤ 13) || n == 0x20 || n == 0x85 || n == 0xa0 || n == 0x1680 ||
    (0x2000 ≤ n && n ≤ 0x200a) || n == 0x2028 || n == 0x2029 || n == 0x202f || n == 0x205f ||
    n == 0x3000

def trimLeft (cs : List Char) : List Char :=
  cs.dropWhile isBlank

def trimRight : List Char → List Char
  | [] => []
  | c :: cs =>
    match trimRight cs with
    | [] => if isBlank c then [] else [c]
    | rest => c :: rest

def trim (cs : List Char) : List Char :=
  trimRight (trimLeft cs)

/-- The maximal runs of characters outside `isSep`; empty runs do not count. -/
def runsWithout (isSep : Char → Bool) : List Char → List (List Char)
  | [] => []
  | c :: cs =>
    if isSep c then runsWithout isSep cs
    else
      match cs with
      | [] => [[c]]
      | d :: _ =>
        match isSep d, runsWithout isSep cs with
        | false, run :: rest => (c :: run) :: rest
        | _, rest => [c] :: rest

/-- The words of a value. -/
def words (cs : List Char) : List (List Char) :=
  runsWithout isBlank cs

/-- The parts with one space between neighbours. -/
def joinSpaces : List (List Char) → List Char
  | [] => []
  | [w] => w
  | w :: rest => w ++ ' ' :: joinSpaces rest

/-- The words of a value with single spaces between them, and none around them. -/
def squeeze (cs : List Char) : List Char :=
  joinSpaces (words cs)

end Kasten.Text
