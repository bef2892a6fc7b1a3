import Kasten.Zid.Basic

/-!
# Which worker gets a command

File commands go to a pool of workers. Their number is 1 or a prime, and a worker is chosen by a
hash of the identifier, so that all commands for one zettel meet the same worker.
-/

namespace Kasten.Files

/-! ## 1. Numbers of workers -/

/-- Whether one of `d`, `d + 2`, `d + 4` and so on up to the square root divides `n`. -/
def hasDivisorFrom (n d : Nat) : Bool :=
  if d * d ≤ n then
    if n % d = 0 then true else hasDivisorFrom n (d + 2)
  else false
termination_by n + 1 - d
decreasing_by
  have : d ≤ n := by
    rcases Nat.eq_zero_or_pos d with h | h
    · omega
    · exact Nat.le_trans (Nat.le_mul_of_pos_right d h) ‹d * d ≤ n›
  omega

/-- Tells primes from other numbers; 1 counts as a prime here. -/
def isPrime (n : Nat) : Bool :=
  if n = 0 then false
  else if n ≤ 3 then true
  else if n % 2 = 0 then false
  else !hasDivisorFrom n 3

/-- The first prime among `n` and the `tries` numbers after it. -/
def primeFrom (n : Nat) : Nat → Nat
  | 0 => n
  | tries + 1 => if isPrime n then n else primeFrom (n + 1) tries

/-- The least prime that is not less than `n`. There is one between `n` and its double. -/
def nextPrime (n : Nat) : Nat :=
  primeFrom n (n + 1)

def minWorkers : Nat := 1

def maxWorkers : Nat := 1499

def defaultWorkers : Nat := 7

/-- The number within the bounds of a pool. -/
def clampWorkers (n : Nat) : Nat :=
  max minWorkers (min n maxWorkers)

/-- How many workers a pool has that was asked to have `n`. -/
def poolSize (n : Nat) : Nat :=
  nextPrime (clampWorkers n)

/-! ## 2. Choosing one -/

/-- Hash of the two halves of an identifier: each is mixed in by exclusive or and spread by a
multiplication. -/
def hash (z : Zid) : UInt32 :=
  let low := ((2166136261 : UInt32) ^^^ UInt32.ofNat z.val) * 16777619
  (low ^^^ UInt32.ofNat (z.val / 4294967296)) * 16777619

def workerIndex (z : Zid) (workers : Nat) : Nat :=
  (hash z).toNat % max workers 1

end Kasten.Files
