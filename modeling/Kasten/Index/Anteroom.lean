import Std.Data.ExtTreeMap
import Kasten.Zid.Set

/-!
# The anteroom of the index

Work for the index waits in rooms that are emptied one after another. There is at most one
action pending for a zettel in the ordinary rooms; a later one takes the place of an earlier one. A
full scan puts its results into rooms of their own at the front.
-/

namespace Kasten.Index

inductive Action where
  | reload
  | update
  | delete
deriving DecidableEq, Repr

structure Room where
  pending : Std.ExtTreeMap Zid Action
  isReload : Bool
deriving DecidableEq

structure Anteroom where
  rooms : List Room
  maxLoad : Nat
deriving DecidableEq

namespace Anteroom

def defaultMaxLoad : Nat := 100

/-- A load of zero stands for the default. -/
def new (maxLoad : Nat) : Anteroom :=
  ⟨[], if maxLoad = 0 then defaultMaxLoad else maxLoad⟩

/-- Number of pending actions. -/
def size (a : Anteroom) : Nat := a.rooms.foldr (fun room n => room.pending.size + n) 0

def isEmpty (a : Anteroom) : Bool := a.rooms.all fun room => room.pending.isEmpty

/-! ## 1. Waiting -/

def single (z : Zid) (action : Action) : Room := ⟨(∅ : Std.ExtTreeMap Zid Action).insert z action, false⟩

/-- Replaces the action that is pending for the zettel in an ordinary room. -/
def replace (z : Zid) (action : Action) : List Room → Option (List Room)
  | [] => none
  | room :: rest =>
    if !room.isReload && room.pending.contains z then
      some ({ room with pending := room.pending.insert z action } :: rest)
    else (replace z action rest).map (room :: ·)

/-- Puts an action into the last room if that is an ordinary one with space, else into a new one. -/
def place (maxLoad : Nat) (z : Zid) (action : Action) : List Room → List Room
  | [] => [single z action]
  | [room] =>
    if !room.isReload && room.pending.size < maxLoad then
      [{ room with pending := room.pending.insert z action }]
    else [room, single z action]
  | room :: rest => room :: place maxLoad z action rest

/-- Takes in an update or a deletion of a zettel. Anything else is passed over. -/
def enqueue (a : Anteroom) (z : Zid) (action : Action) : Anteroom :=
  if !z.isValid || action == .reload then a
  else
    match replace z action a.rooms with
    | some rooms => { a with rooms }
    | none => { a with rooms := place a.maxLoad z action a.rooms }

/-- A room of a full scan, if there is something in it. -/
def reloadRoom (zids : List Zid) (action : Action) : List Room :=
  match zids.filter Zid.isValid with
  | [] => []
  | zids => [⟨zids.foldl (fun m z => m.insert z action) ∅, true⟩]

/-- The results of a full scan come before the ordinary rooms, in place of those of an earlier
scan: first what is gone, then what is there. -/
def reload (a : Anteroom) (gone there : List Zid) : Anteroom :=
  { a with
    rooms := reloadRoom gone .delete ++ reloadRoom there .update ++
      a.rooms.filter fun room => !room.isReload }

/-- Drops all work and asks for a full scan. -/
def reset (a : Anteroom) : Anteroom :=
  { a with rooms := [⟨(∅ : Std.ExtTreeMap Zid Action).insert Zid.invalid .reload, true⟩] }

/-! ## 2. Leaving -/

/-- The first action of the first room that has one; emptied rooms go away. -/
def takeFirst : List Room → Option (Action × Zid) × List Room
  | [] => (none, [])
  | room :: rest =>
    match room.pending.minEntry? with
    | none => takeFirst rest
    | some (z, action) =>
      let left := room.pending.erase z
      (some (action, z), if left.isEmpty then rest else { room with pending := left } :: rest)

def dequeue (a : Anteroom) : Option (Action × Zid) × Anteroom :=
  let (next, rooms) := takeFirst a.rooms
  (next, { a with rooms })

/-- All that leaves until nothing is left, in `n` steps at most. -/
def drainSteps : Nat → Anteroom → List (Action × Zid) × Anteroom
  | 0, a => ([], a)
  | n + 1, a =>
    match a.dequeue with
    | (none, a) => ([], a)
    | (some next, a) =>
      let (rest, a) := drainSteps n a
      (next :: rest, a)

/-- All that leaves until nothing is left. -/
def drain (a : Anteroom) : List (Action × Zid) × Anteroom := drainSteps (a.size + 1) a

end Anteroom

end Kasten.Index
