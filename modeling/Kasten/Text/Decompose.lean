import Kasten.Text.Table.Decomposition
import Kasten.Text.Class

/-!
# Compatibility decomposition

Every character is taken apart in full, then neighbouring marks are brought into the order of
their combining classes.
-/

namespace Kasten.Text

structure Decomposition where
  sources : Array Nat
  parts : Array (List Char)

def decompositions : Decomposition :=
  let table := Table.absolute 0 Table.decompositionRows
  { sources := (table.map fun row => row.headD 0).toArray
    parts := (table.map fun row => row.tail.map Char.ofNat).toArray }

/-- A Hangul syllable is a leading consonant, a vowel and maybe a final consonant. -/
def hangulParts (index : Nat) : List Char :=
  let lead := Char.ofNat (0x1100 + index / 588)
  let vowel := Char.ofNat (0x1161 + index % 588 / 28)
  if index % 28 = 0 then [lead, vowel] else [lead, vowel, Char.ofNat (0x11a7 + index % 28)]

def decomposeChar (c : Char) : List Char :=
  let n := c.toNat
  if isAscii c then [c]
  else if 0xac00 ≤ n ∧ n ≤ 0xd7a3 then hangulParts (n - 0xac00)
  else
    let slot := Table.rank decompositions.sources n 0 decompositions.sources.size - 1
    if decompositions.sources[slot]? = some n then decompositions.parts.getD slot [c] else [c]

/-- `count` neighbouring characters from `first` with one combining class. -/
structure CombiningRun where
  first : Nat
  count : Nat
  order : Nat
deriving Repr

def combiningRuns : Array CombiningRun :=
  ((Table.absolute 0 Table.combiningRows).filterMap fun row =>
    match row with
    | [first, count, order] => some ⟨first, count, order⟩
    | _ => none).toArray

def combiningFirsts : Array Nat :=
  combiningRuns.map (·.first)

/-- Zero for a character that starts a new sequence. -/
def combiningClass (c : Char) : Nat :=
  if isAscii c then 0
  else
    match combiningRuns[Table.rank combiningFirsts c.toNat 0 combiningFirsts.size - 1]? with
    | some run => if run.first ≤ c.toNat && c.toNat < run.first + run.count then run.order else 0
    | none => 0

/-- Puts a mark in front of marks of a lower class that follow it; equal classes keep their order. -/
def placeMark (order : Nat) (c : Char) : List Char → List Char
  | [] => [c]
  | d :: ds =>
    let next := combiningClass d
    if next ≠ 0 ∧ next < order then d :: placeMark order c ds else c :: d :: ds

/-- Orders each run of marks by combining class. -/
def orderMarks : List Char → List Char
  | [] => []
  | c :: cs =>
    let order := combiningClass c
    if order = 0 then c :: orderMarks cs else placeMark order c (orderMarks cs)

def decompose (cs : List Char) : List Char :=
  orderMarks (cs.flatMap decomposeChar)

end Kasten.Text
