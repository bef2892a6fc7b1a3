/-!
# Sets of characters as points of change

A set of characters is kept as the ascending list of the code points where membership changes:
a character belongs to it when an odd number of these points are at or below it. The points of
a standard's property are written as text, each as the distance from the one before.
-/

namespace Kasten

/-! ## 1. Numbers in table text -/

namespace Text.Table

/-- Value of a hexadecimal digit in lower case, zero for anything else. -/
def hexDigit (c : Char) : Nat :=
  if '0' ≤ c ∧ c ≤ '9' then c.toNat - '0'.toNat
  else if 'a' ≤ c ∧ c ≤ 'f' then c.toNat - 'a'.toNat + 10
  else 0

/-- Rows are separated by blanks, the hexadecimal numbers in a row by full stops. -/
def rowsOf : List Char → Nat → List Nat → List (List Nat)
  | [], n, row => [(n :: row).reverse]
  | c :: cs, n, row =>
    if c = ' ' then (n :: row).reverse :: rowsOf cs 0 []
    else if c = '.' then rowsOf cs 0 (n :: row)
    else rowsOf cs (n * 16 + hexDigit c) row

/-- All rows of a table, line after line. -/
def rows (lines : List String) : List (List Nat) :=
  lines.flatMap fun line => rowsOf line.toList 0 []

/-- Number of entries of an ascending array that are at most `n`, within `lo` and `hi`. -/
def rank (points : Array Nat) (n lo hi : Nat) : Nat :=
  if _ : lo < hi then
    let mid := (lo + hi) / 2
    if points.getD mid 0 ≤ n then rank points n (mid + 1) hi else rank points n lo mid
  else lo
termination_by hi - lo

/-- Adds up distances: the first entry of each row becomes the sum of all first entries so far. -/
def absolute : Nat → List (List Nat) → List (List Nat)
  | _, [] => []
  | start, [] :: rest => [] :: absolute start rest
  | start, (gap :: row) :: rest => ((start + gap) :: row) :: absolute (start + gap) rest

end Text.Table

/-! ## 2. Sets -/

/-- The ascending points where membership changes; the first change is into the set. -/
structure CharSet where
  points : Array Nat
deriving Repr

namespace CharSet

open Text.Table

/-- Reads the points from table text, each as the distance from the one before. -/
def ofGaps (lines : List String) : CharSet :=
  ⟨((absolute 0 (rows lines)).map fun row => row.headD 0).toArray⟩

def contains (s : CharSet) (c : Char) : Bool :=
  rank s.points c.toNat 0 s.points.size % 2 == 1

end CharSet

end Kasten
