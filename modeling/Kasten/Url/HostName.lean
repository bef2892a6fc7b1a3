import Kasten.Text.Decompose
import Kasten.Text.Lower
import Kasten.Text.Find
import Kasten.Text.Table.HostName
import Kasten.Url.Percent
import Kasten.Url.Punycode

/-!
# Internationalised host names

A name is brought into lower case and taken apart by compatibility; some characters are dropped,
others make the name invalid. Its labels then keep rules on marks, joiners and the direction of
writing. A label in ASCII form must stand for a label with other characters in it.
-/

namespace Kasten.Url.HostName

open Kasten.Text

/-- ASCII characters that no host name holds. -/
def isForbidden (c : Char) : Bool :=
  c.toNat ≤ 0x20 || c.toNat == 0x7f || "%#/:<>?@[\\]^|".toList.contains c

/-- The form of a character in which names are compared; none for an invalid one. -/
def mapChar (c : Char) : Option (List Char) :=
  if isAscii c then some [lowerAscii c]
  else if c = '\u3002' ∨ c = '\uff61' then some ['.']
  else if Table.hostIgnored.contains c then some []
  else if Table.hostDisallowed.contains c then none
  else some ((decomposeChar c).flatMap lowerChar)

def mapName (cs : List Char) : Option (List Char) :=
  (cs.mapM mapChar).map List.flatten

/-! ## 1. Rules for labels with characters outside ASCII -/

/-- The combining class of the signs that join consonants. -/
def isVirama (c : Char) : Bool := combiningClass c == 9

/-- Whether, marks passed over, the next character satisfies the test. -/
def meets (test : CharSet) (cs : List Char) : Bool :=
  match cs.dropWhile isMark with
  | c :: _ => test.contains c
  | [] => false

/-- A joiner follows a sign that joins consonants; the non-joiner may also stand between letters
that would join. `before` holds the characters passed, the last one first. -/
def joinersFit (before : List Char) : List Char → Bool
  | [] => true
  | c :: cs =>
    let afterVirama := (before.head?.map isVirama).getD false
    let fits :=
      if c = '\u200d' then afterVirama
      else if c = '\u200c' then
        afterVirama || (meets Table.joinsForward before && meets Table.joinsBackward cs)
      else true
    fits && joinersFit (c :: before) cs

inductive Direction where
  | left
  | right
  | arabicNumber
  | number
  | neutral
deriving DecidableEq, Repr

def direction (c : Char) : Direction :=
  if isAscii c then
    if isAsciiLetter c then .left else if isAsciiDigit c then .number else .neutral
  else if Table.rightToLeft.contains c then .right
  else if Table.arabicNumbers.contains c then .arabicNumber
  else if Table.europeanNumbers.contains c then .number
  else if Table.directionNeutral.contains c then .neutral
  else .left

/-- Marks at the end do not count as its end. -/
def lastDirection (cs : List Char) : Option Direction :=
  (cs.reverse.dropWhile isMark).head?.map direction

/-- The rules for a label of a name in which something is written from right to left. -/
def directionFits (cs : List Char) : Bool :=
  let ds := cs.map direction
  match ds.head? with
  | none => true
  | some .right =>
    !ds.contains .left && !(ds.contains .number && ds.contains .arabicNumber) &&
      (lastDirection cs == some .right || lastDirection cs == some .number ||
        lastDirection cs == some .arabicNumber)
  | some .left =>
    !ds.contains .right && !ds.contains .arabicNumber &&
      (lastDirection cs == some .left || lastDirection cs == some .number)
  | some _ => false

def isRightToLeft (cs : List Char) : Bool :=
  cs.any fun c => direction c == .right || direction c == .arabicNumber

/-- A label does not start with a mark, and its joiners have something to join. -/
def labelFits (cs : List Char) : Bool :=
  !(cs.head?.map isMark).getD false && joinersFit [] cs

/-! ## 2. Names -/

/-- What marks a label in ASCII form. -/
def asciiFormMark : List Char := ['x', 'n', '-', '-']

/-- A character that a name may hold as it is. -/
def isKept (c : Char) : Bool :=
  if isAscii c then !isAsciiUpper c
  else !Table.hostDisallowed.contains c && !Table.hostIgnored.contains c &&
    !Table.hostMapped.contains c

/-- The label with its characters outside ASCII. -/
def unfoldLabel (cs : List Char) : Option (List Char) :=
  if asciiFormMark.isPrefixOf cs then
    match Punycode.decode? (cs.drop asciiFormMark.length) with
    | some label => if label.all isAscii || !label.all isKept then none else some label
    | none => none
  else some cs

/-- Whether the labels of a name, all in lower case, keep the rules. -/
def labelsFit (labels : List (List Char)) : Bool :=
  match labels.mapM unfoldLabel with
  | none => false
  | some labels =>
    let isBidi := labels.any isRightToLeft
    labels.all fun label =>
      !label.any isForbidden && (label.all isAscii || labelFits label) &&
        (!isBidi || label.isEmpty || directionFits label)

/-- The name in the form in which it is compared, if it is a valid one. Labels outside ASCII are
left as they are. -/
def normalize? (cs : List Char) : Option (List Char) :=
  match mapName cs with
  | none => none
  | some name => if labelsFit (splitOn '.' name) then some name else none

end Kasten.Url.HostName
