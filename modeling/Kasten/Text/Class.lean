import Kasten.Text.Table.Category

/-!
# Character classes

Letters, numbers, digits and marks as Unicode's general categories have them. The first 128
characters are decided without the tables.
-/

namespace Kasten.Text

def isAsciiDigit (c : Char) : Bool :=
  '0' ≤ c && c ≤ '9'

def isAsciiLower (c : Char) : Bool :=
  'a' ≤ c && c ≤ 'z'

def isAsciiUpper (c : Char) : Bool :=
  'A' ≤ c && c ≤ 'Z'

def isAsciiLetter (c : Char) : Bool :=
  isAsciiLower c || isAsciiUpper c

def isAscii (c : Char) : Bool :=
  c.toNat < 128

/-- Changes the letters A to Z only. -/
def lowerAscii (c : Char) : Char :=
  if isAsciiUpper c then Char.ofNat (c.toNat + 32) else c

/-- The number that a list of decimal digits stands for. -/
def digitsValue (cs : List Char) : Nat :=
  cs.foldl (fun n c => n * 10 + (c.toNat - '0'.toNat)) 0

/-- Category L. -/
def isLetter (c : Char) : Bool :=
  if isAscii c then isAsciiLetter c else Table.letters.contains c

/-- Category N. -/
def isNumber (c : Char) : Bool :=
  if isAscii c then isAsciiDigit c else Table.numbers.contains c

/-- Category Nd. -/
def isDecimal (c : Char) : Bool :=
  if isAscii c then isAsciiDigit c else Table.decimals.contains c

/-- Category M. -/
def isMark (c : Char) : Bool :=
  if isAscii c then false else Table.marks.contains c

/-- What words are made of: alphabetic characters and category N. -/
def isWordCharacter (c : Char) : Bool :=
  if isAscii c then isAsciiLetter c || isAsciiDigit c else Table.wordCharacters.contains c

end Kasten.Text
