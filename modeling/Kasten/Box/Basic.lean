import Kasten.Box.Directory
import Kasten.Box.Memory
import Kasten.Box.Zip

/-!
# Boxes

A box keeps zettel: as files of a directory, as members of an archive, or in memory. All kinds
answer the same requests; an archive takes no changes, and memory only some.
-/

namespace Kasten

inductive Box where
  | directory (b : DirBox)
  | archive (b : ZipBox)
  | memory (b : MemoryBox)

/-- What a request to a box comes to, with the box and the disk afterwards. -/
structure Box.Result (α : Type) where
  answer : Except StoreError α
  box : Box
  disk : Files.SlowDisk
  changes : List Change

/-- Which changes a box would take. -/
structure Box.Permissions where
  create : Bool
  update : Bool
  rename : Bool
  delete : Bool
deriving DecidableEq, Repr

namespace Box

def location : Box → String
  | directory b => b.service.origin
  | archive b => b.service.origin
  | memory _ => MemoryBox.location

def state : Box → StartState
  | directory b => b.service.startState
  | archive b => b.service.startState
  | memory _ => .started

/-- A request that changes nothing. -/
def plain {α : Type} (box : Box) (d : Files.SlowDisk) (answer : Except StoreError α) : Result α :=
  ⟨answer, box, d, []⟩

def refuse {α : Type} (box : Box) (d : Files.SlowDisk) : Result α := box.plain d (.error .readOnly)

/-! ## 1. Starting and stopping -/

def start (box : Box) (now : Nat) (d : Files.SlowDisk) : Result Unit :=
  match box with
  | directory b =>
    let (outcome, disk) := b.start now d.disk
    ⟨outcome.answer, directory outcome.box, { d with disk }, outcome.changes⟩
  | archive b =>
    match b.start d.disk with
    | .ok (b, changes) => ⟨.ok (), archive b, d, changes⟩
    | .error error => box.plain d (.error error)
  | memory _ => box.plain d (.ok ())

def stop : Box → Box
  | directory b => directory b.stop
  | archive b => archive b.stop
  | memory b => memory b

/-- Lets the feed of a box do something, if it has one. -/
def withFeed (box : Box) (f : Feed → Feed × List Change) : Box × List Change :=
  match box with
  | directory b =>
    let (feed, changes) := f b.toFeed
    (directory { b with toFeed := feed }, changes)
  | archive b =>
    let (feed, changes) := f b.toFeed
    (archive { b with toFeed := feed }, changes)
  | memory b => (memory b, [])

/-! ## 2. Changing -/

/-- Runs an operation of a directory box. -/
def perform {α : Type} (b : DirBox) (work : FileWork (Outcome α)) (d : Files.SlowDisk) : Result α :=
  let (outcome, d) := b.run work d
  ⟨outcome.answer, directory outcome.box, d, outcome.changes⟩

def create (box : Box) (now : Time) (z : Zettel) (d : Files.SlowDisk) : Result Zid :=
  match box with
  | directory b => perform b (b.create now z) d
  | _ => box.refuse d

def update (box : Box) (z : Zettel) (d : Files.SlowDisk) : Result Unit :=
  match box with
  | directory b => perform b (b.update z) d
  | archive _ => box.refuse d
  | memory b => ⟨.ok (), memory (b.put z), d, []⟩

def rename (box : Box) (cur new : Zid) (d : Files.SlowDisk) : Result Unit :=
  match box with
  | directory b => perform b (b.rename cur new) d
  | _ => box.refuse d

def delete (box : Box) (z : Zid) (d : Files.SlowDisk) : Result Unit :=
  match box with
  | directory b => perform b (b.delete z) d
  | archive _ => box.refuse d
  | memory b =>
    match b.delete z with
    | .ok b => ⟨.ok (), memory b, d, []⟩
    | .error error => box.plain d (.error error)

def permissions (box : Box) (z : Zid) : Permissions :=
  match box with
  | directory b => ⟨b.canCreate, b.canUpdate z, b.canRemove z, b.canRemove z⟩
  | archive _ => ⟨false, false, false, false⟩
  | memory b => ⟨false, true, false, b.has z⟩

/-! ## 3. Reading -/

def has (box : Box) (z : Zid) : Bool :=
  match box with
  | directory b => b.service.has z
  | archive b => b.service.has z
  | memory b => b.has z

def get (box : Box) (z : Zid) (d : Files.SlowDisk) : Result Zettel :=
  match box with
  | directory b =>
    let (answer, d) := b.run (b.get z) d
    box.plain d answer
  | archive b => box.plain d (b.get d.disk z)
  | memory b =>
    let (answer, b) := b.get z
    ⟨answer, memory b, d, []⟩

/-- The identifiers of all zettel that the test accepts, in ascending order. -/
def list (box : Box) (accept : Zid → Bool) : Except StoreError (List Zid) × Box :=
  match box with
  | directory b => (.ok (b.service.liveZids accept), box)
  | archive b => (.ok (b.service.liveZids accept), box)
  | memory b =>
    let (answer, b) := b.list
    (answer.map (List.filter accept), memory b)

/-- The metadata of all zettel that the test accepts, and what ended the reading, if anything. -/
def metas (box : Box) (accept : Zid → Bool) (d : Files.SlowDisk) :
    (List Meta × Option StoreError) × Files.SlowDisk :=
  match box with
  | directory b => b.run (b.metas accept) d
  | archive b =>
    match b.metas d.disk accept with
    | .ok ms => ((ms, none), d)
    | .error error => (([], some error), d)
  | memory b => ((b.metas accept, none), d)

def isReadOnly : Box → Bool
  | directory b => b.config.readonly
  | archive _ => true
  | memory _ => false

/-- Number of entries, those without files included. -/
def size : Box → Nat
  | directory b => b.service.size
  | archive b => b.service.size
  | memory b => b.zettel.size

/-- A catalog's entry; memory has none. -/
def entry? (box : Box) (z : Zid) : Option Entry :=
  match box with
  | directory b => b.service.entry? z
  | archive b => b.service.entry? z
  | memory _ => none

end Box

end Kasten
