import Kasten.Zid.Basic

/-!
# Identifiers made from the time of day

The digits of an identifier may be read as year, month, day, hour, minute and second. A fresh
identifier is looked for from a start time onward, a second or a minute at a time, in the
proleptic Gregorian calendar without leap seconds.
-/

namespace Kasten

structure Time where
  year : Nat
  month : Nat
  day : Nat
  hour : Nat
  minute : Nat
  second : Nat
deriving DecidableEq, Repr

namespace Time

def isLeapYear (year : Nat) : Bool :=
  year % 4 == 0 && (year % 100 != 0 || year % 400 == 0)

def daysInMonth (year month : Nat) : Nat :=
  if month = 2 then if isLeapYear year then 29 else 28
  else if month = 4 ∨ month = 6 ∨ month = 9 ∨ month = 11 then 30
  else 31

/-- Second 60 is read, as the end of a minute with a leap second. -/
def isReadable (t : Time) : Bool :=
  1 ≤ t.month && t.month ≤ 12 && 1 ≤ t.day && t.day ≤ daysInMonth t.year t.month &&
    t.hour < 24 && t.minute < 60 && t.second ≤ 60

/-! ## 1. Steps -/

def nextDay (t : Time) : Time :=
  if t.day < daysInMonth t.year t.month then { t with day := t.day + 1 }
  else if t.month < 12 then { t with month := t.month + 1, day := 1 }
  else { t with year := t.year + 1, month := 1, day := 1 }

def nextHour (t : Time) : Time :=
  if t.hour < 23 then { t with hour := t.hour + 1 } else nextDay { t with hour := 0 }

/-- The same second of the next minute; a leap second has its turn as second 59. -/
def nextMinute (t : Time) : Time :=
  let t := { t with second := min t.second 59 }
  if t.minute < 59 then { t with minute := t.minute + 1 } else nextHour { t with minute := 0 }

def nextSecond (t : Time) : Time :=
  if t.second < 59 then { t with second := t.second + 1 } else nextMinute { t with second := 0 }

/-! ## 2. Counting -/

def daysBeforeYear (year : Nat) : Nat :=
  365 * year + (year + 3) / 4 - (year + 99) / 100 + (year + 399) / 400

def daysBeforeMonth (year : Nat) : Nat → Nat
  | 0 => 0
  | 1 => 0
  | m + 1 => daysBeforeMonth year m + daysInMonth year m

/-- Seconds since the start of the year 0. -/
def seconds (t : Time) : Nat :=
  let days := daysBeforeYear t.year + daysBeforeMonth t.year t.month + (t.day - 1)
  ((days * 24 + t.hour) * 60 + t.minute) * 60 + t.second

end Time

/-! ## 3. Times and identifiers -/

namespace Zid

/-- The time's digits. Years have four digits, so a later time has no identifier. -/
def ofTime (t : Time) : Zid :=
  if t.year ≤ 9999 then
    ⟨((((t.year * 100 + t.month) * 100 + t.day) * 100 + t.hour) * 100 + t.minute) * 100 + t.second⟩
  else invalid

/-- The time that the digits spell, if they spell one. -/
def time? (z : Zid) : Option Time :=
  let n := z.val
  let t : Time :=
    { year := n / 10000000000
      month := n / 100000000 % 100
      day := n / 1000000 % 100
      hour := n / 10000 % 100
      minute := n / 100 % 100
      second := n % 100 }
  if n ≤ max.val ∧ t.isReadable then some t else none

/-- The identifier one second later, or one minute later if identifiers have no seconds. Digits
that spell no time count up as a number. -/
def next (withSeconds : Bool) (z : Zid) : Zid :=
  match z.time? with
  | some t => ofTime (if withSeconds then t.nextSecond else t.nextMinute)
  | none => ⟨z.val + 1⟩

/-- How many identifiers are tried before giving up. -/
def maxAttempts : Nat := 10000

/-- The first `n` identifiers from a start onward. -/
def offers (withSeconds : Bool) : Nat → Zid → List Zid
  | 0, _ => []
  | n + 1, z => z :: offers withSeconds n (next withSeconds z)

/-- The identifier of a start time. Without seconds it ends in `00`. -/
def start (withSeconds : Bool) (now : Time) : Zid :=
  ofTime (if withSeconds then now else { now with second := 0 })

/-- The first free identifier from the start time onward. -/
def fresh (withSeconds : Bool) (now : Time) (isFree : Zid → Bool) : Except ZidError Zid :=
  match (offers withSeconds maxAttempts (start withSeconds now)).find?
      fun z => z.isValid && isFree z with
  | some z => .ok z
  | none => .error (.exhausted maxAttempts)

end Zid

end Kasten
