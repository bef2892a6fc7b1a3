import Std.Data.ExtTreeMap
import Kasten.Error
import Kasten.Zettel
import Kasten.Zid.Set

/-!
# Boxes in memory

A box in memory holds zettel by their identifiers. For trials, its next readings of a zettel and
its next listings can be made to fail.
-/

namespace Kasten

/-- `faults` are the errors that the next readings of a zettel end with, and `lostListings` is how
many listings come to nothing. -/
structure MemoryBox where
  zettel : Std.ExtTreeMap Zid Zettel
  faults : Std.ExtTreeMap Zid (List StoreError)
  lostListings : Nat
deriving DecidableEq

namespace MemoryBox

def new : MemoryBox := ⟨∅, ∅, 0⟩

def location : String := "mem:"

def has (b : MemoryBox) (z : Zid) : Bool := b.zettel.contains z

def put (b : MemoryBox) (z : Zettel) : MemoryBox := { b with zettel := b.zettel.insert z.zid z }

def delete (b : MemoryBox) (z : Zid) : Except StoreError MemoryBox :=
  if b.has z then .ok { b with zettel := b.zettel.erase z } else .error (.notFound z)

/-- Makes further readings of a zettel fail. -/
def spoil (b : MemoryBox) (z : Zid) (errors : List StoreError) : MemoryBox :=
  { b with faults := b.faults.insert z (b.faults.getD z [] ++ errors) }

/-- Makes further listings fail. -/
def spoilListings (b : MemoryBox) (count : Nat) : MemoryBox :=
  { b with lostListings := b.lostListings + count }

def get (b : MemoryBox) (z : Zid) : Except StoreError Zettel × MemoryBox :=
  match b.faults.getD z [] with
  | error :: rest => (.error error, { b with faults := b.faults.insert z rest })
  | [] =>
    match b.zettel[z]? with
    | some zettel => (.ok zettel, b)
    | none => (.error (.notFound z), b)

/-- The identifiers of all zettel, in ascending order. -/
def list (b : MemoryBox) : Except StoreError (List Zid) × MemoryBox :=
  if b.lostListings = 0 then (.ok b.zettel.keys, b)
  else (.error (.timeout "scripted"), { b with lostListings := b.lostListings - 1 })

def metas (b : MemoryBox) (accept : Zid → Bool) : List Meta :=
  b.zettel.toList.filterMap fun (z, zettel) => if accept z then some zettel.metadata else none

end MemoryBox

end Kasten
