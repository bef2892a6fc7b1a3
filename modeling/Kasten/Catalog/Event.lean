import Kasten.Zid.Basic

/-!
# Events and changes

Notifiers report what they see of a directory as events; the service that keeps the catalog
publishes what this means for single zettel as changes.
-/

namespace Kasten

/-- A scan starts with `make`, gives one `list` per file and ends with a `list` of an empty name or
with `ready`. Files seen to come or go outside of scans are `update` and `delete`. -/
inductive Event where
  | make
  | list (name : String)
  | ready
  | update (name : String)
  | delete (name : String)
  | destroy
  | error (message : String)
deriving DecidableEq, Repr

namespace Event

def endOfScan : Event := .list ""

/-- A whole scan. -/
def scan (names : List String) : List Event :=
  make :: names.map list ++ [endOfScan]

end Event

/-- Why a change is published; after a reload everything may be different. -/
inductive Reason where
  | onZettel
  | onDelete
  | onReload
deriving DecidableEq, Repr

structure Change where
  origin : String
  reason : Reason
  zid : Zid
deriving DecidableEq, Repr

/-- How far a box is with starting and stopping. -/
inductive StartState where
  | stopped
  | starting
  | started
  | stopping
deriving DecidableEq, Repr

end Kasten
