import Kasten.Text.Table.Casing
import Kasten.Text.Class

/-!
# Lower case

Lower case of a character on its own, and of a whole text, where a capital sigma at the end of
a word becomes a final sigma.
-/

namespace Kasten.Text

/-- `count` characters from `first`, `step` apart, whose lower cases start at `target`. -/
structure LowerRun where
  first : Nat
  count : Nat
  step : Nat
  target : Nat
deriving Repr

def lowerRuns : Array LowerRun :=
  ((Table.absolute 0 Table.lowerRows).filterMap fun row =>
    match row with
    | [first, count, step, target] => some ⟨first, count, step, target⟩
    | _ => none).toArray

def lowerFirsts : Array Nat :=
  lowerRuns.map (·.first)

/-- The run is looked up by its first character. -/
def lowerNat (n : Nat) : Nat :=
  match lowerRuns[Table.rank lowerFirsts n 0 lowerFirsts.size - 1]? with
  | some run =>
    let away := n - run.first
    if run.first ≤ n && away % run.step == 0 && away / run.step < run.count then run.target + away
    else n
  | none => n

/-- Lower case of one character. Only the dotted capital I becomes two characters. -/
def lowerChar (c : Char) : List Char :=
  if isAscii c then [lowerAscii c]
  else if c.toNat = 0x130 then ['i', '\u0307']
  else [Char.ofNat (lowerNat c.toNat)]

/-- Whether a cased letter follows after any number of characters that case rules pass over. -/
def meetsCased : List Char → Bool
  | [] => false
  | c :: cs =>
    if Table.caseIgnorable.contains c then meetsCased cs else Table.cased.contains c

/-- `before` holds the characters already passed, the last one first. -/
def lowerFrom (before : List Char) : List Char → List Char
  | [] => []
  | c :: cs =>
    let lower :=
      if c = 'Σ' then
        if meetsCased before && !meetsCased cs then ['ς'] else ['σ']
      else lowerChar c
    lower ++ lowerFrom (c :: before) cs

/-- Lower case of a text: a capital sigma that ends a word becomes a final sigma. -/
def lower (cs : List Char) : List Char :=
  lowerFrom [] cs

end Kasten.Text
