import Kasten.Text.Class
import Kasten.Text.Quoted

/-!
# Zettel identifiers

A zettel identifier (zid) is a number of fourteen decimal digits, usually a time stamp. Zero is
kept for "no zettel". Its text has the digits in full, so that valid identifiers are ordered like
their texts.
-/

namespace Kasten

structure Zid where
  val : Nat
deriving DecidableEq, Repr, Inhabited

instance : Ord Zid := ⟨fun a b => compare a.val b.val⟩

instance : LT Zid := ⟨fun a b => a.val < b.val⟩

instance : LE Zid := ⟨fun a b => a.val ≤ b.val⟩

instance (a b : Zid) : Decidable (a < b) := inferInstanceAs (Decidable (a.val < b.val))

instance (a b : Zid) : Decidable (a ≤ b) := inferInstanceAs (Decidable (a.val ≤ b.val))

instance : Std.TransOrd Zid where
  eq_swap {a b} := @Std.OrientedCmp.eq_swap Nat compare _ a.val b.val
  isLE_trans {a b c} := @Std.TransCmp.isLE_trans Nat compare _ a.val b.val c.val

instance : Std.LawfulEqOrd Zid where
  compare_self {a} := @Std.ReflCmp.compare_self Nat compare _ a.val
  eq_of_compare {a b} h := by
    cases a; cases b
    exact congrArg Zid.mk (@Std.LawfulEqCmp.eq_of_compare Nat compare _ _ _ h)

/-- What is wrong with the text of an identifier, or that no identifier was free. -/
inductive ZidError where
  | malformed (text : String)
  | outOfRange (text : String)
  | exhausted (attempts : Nat)
deriving DecidableEq, Repr

namespace ZidError

def message : ZidError → String
  | malformed text => "invalid zettel id syntax: " ++ Text.Quoted.encode text
  | outOfRange text => "zettel id out of range: " ++ Text.Quoted.encode text
  | exhausted attempts => s!"no free zettel id after {attempts} attempts"

end ZidError

namespace Zid

/-- Number of digits of an identifier. -/
def width : Nat := 14

def invalid : Zid := ⟨0⟩

def max : Zid := ⟨99999999999999⟩

def isValid (z : Zid) : Bool :=
  0 < z.val && z.val ≤ max.val

/-- The decimal digits, with leading zeros up to the full width. -/
def digits (z : Zid) : List Char :=
  let ds := Nat.toDigits 10 z.val
  List.replicate (width - ds.length) '0' ++ ds

def text (z : Zid) : String :=
  String.ofList z.digits

instance : ToString Zid := ⟨text⟩

/-- Reads exactly fourteen decimal digits that are not all zero. -/
def parse (s : String) : Except ZidError Zid :=
  let cs := s.toList
  if cs.length = width ∧ cs.all Text.isAsciiDigit then
    let z : Zid := ⟨Text.digitsValue cs⟩
    if z.isValid then .ok z else .error (.outOfRange s)
  else .error (.malformed s)

/-- The identifier that a list of characters is the text of. -/
def parse? (s : String) : Option Zid :=
  (parse s).toOption

/-- Reads one to fourteen decimal digits as a number. -/
def parseNumber? (s : String) : Option Nat :=
  let cs := s.toList
  if cs ≠ [] ∧ cs.length ≤ width ∧ cs.all Text.isAsciiDigit then some (Text.digitsValue cs) else none

/-- The identifier that the first fourteen characters of a file name spell, else the invalid one. -/
def ofFileName (name : String) : Zid :=
  (parse? (String.ofList (name.toList.take width))).getD invalid

end Zid

end Kasten
