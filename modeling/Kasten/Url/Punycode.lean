import Kasten.Text.Class

/-!
# Punycode

Reading the ASCII form of an internationalised label: the ASCII characters come first, then,
as differences in a number system with shifting thresholds, where the others go.
-/

namespace Kasten.Url.Punycode

def digitValue? (c : Char) : Option Nat :=
  if 'a' ≤ c ∧ c ≤ 'z' then some (c.toNat - 'a'.toNat)
  else if 'A' ≤ c ∧ c ≤ 'Z' then some (c.toNat - 'A'.toNat)
  else if '0' ≤ c ∧ c ≤ '9' then some (c.toNat - '0'.toNat + 26)
  else none

/-- The value at which the digit of weight position `k` may be the last one. -/
def threshold (k bias : Nat) : Nat :=
  if k ≤ bias then 1 else if bias + 26 ≤ k then 26 else k - bias

def adaptLoop (delta k : Nat) : Nat × Nat :=
  if 455 < delta then adaptLoop (delta / 35) (k + 36) else (delta, k)
termination_by delta
decreasing_by exact Nat.div_lt_self (by omega) (by omega)

/-- The bias for the next difference. -/
def adapt (delta points : Nat) (isFirst : Bool) : Nat :=
  let delta := if isFirst then delta / 700 else delta / 2
  let (delta, k) := adaptLoop (delta + delta / points) 0
  k + 36 * delta / (delta + 38)

/-- Reads one difference: its value and the digits that follow it. -/
def difference (bias : Nat) : Nat → Nat → Nat → List Char → Option (Nat × List Char)
  | _, _, _, [] => none
  | k, weight, value, c :: cs =>
    match digitValue? c with
    | none => none
    | some digit =>
      let value := value + digit * weight
      let t := threshold k bias
      if digit < t then some (value, cs)
      else difference bias (k + 36) (weight * (36 - t)) value cs

theorem difference_shorter {bias k weight value n : Nat} {cs rest : List Char}
    (h : difference bias k weight value cs = some (n, rest)) : rest.length < cs.length := by
  induction cs generalizing k weight value with
  | nil => simp [difference] at h
  | cons c cs ih =>
    unfold difference at h
    split at h
    · simp at h
    · simp only at h
      split at h
      · injection h with h
        injection h with _ h
        simp [← h]
      · exact Nat.lt_succ_of_lt (ih h)

/-- Puts the characters where the differences say. `next` is the least code point to come,
`place` where the search for its place goes on. -/
def insertAll (out : List Char) (next place bias : Nat) (isFirst : Bool) (cs : List Char) :
    Option (List Char) :=
  if cs = [] then some out
  else
    match h : difference bias 36 1 0 cs with
    | none => none
    | some (delta, rest) =>
      let points := out.length + 1
      let total := place + delta
      let next := next + total / points
      let place := total % points
      if next ≤ 0x10ffff ∧ ¬ (0xd800 ≤ next ∧ next ≤ 0xdfff) then
        insertAll (out.take place ++ Char.ofNat next :: out.drop place) next (place + 1)
          (adapt delta points isFirst) false rest
      else none
termination_by cs.length
decreasing_by exact difference_shorter h

/-- The characters before the last hyphen, and the digits after it. -/
def splitDigits (cs : List Char) : List Char × List Char :=
  let digits := (cs.reverse.takeWhile (· ≠ '-')).reverse
  (cs.take (cs.length - digits.length - 1), digits)

/-- The label that a form stands for, without the mark in front. -/
def decode? (cs : List Char) : Option (List Char) :=
  let (plain, digits) := splitDigits cs
  if plain.all Text.isAscii then insertAll plain 128 0 72 true digits else none

end Kasten.Url.Punycode
