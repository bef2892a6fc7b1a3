import Kasten.Index.Record

/-!
# The tables of the index

Every reference is kept at both of its ends: forward at the zettel that makes it, backward at
the one that it names. References to zettel that do not exist are also listed by what they name,
words and URLs by the zettel that hold them. Taking in a record changes only what differs from
the record before, and answers which other zettel have to be looked at again.
-/

namespace Kasten.Index

/-- References under one key, from both ends. -/
structure Refs where
  forward : ZidSlice
  backward : ZidSlice
deriving DecidableEq, Repr

namespace Refs

def empty : Refs := ⟨∅, ∅⟩

def isEmpty (r : Refs) : Bool := r.forward.isEmpty && r.backward.isEmpty

end Refs

/-- What the index knows of one zettel. -/
structure Node where
  dead : ZidSlice
  forward : ZidSlice
  backward : ZidSlice
  typed : Std.ExtTreeMap String Refs
  words : List String
  urls : List String
  tags : String
deriving DecidableEq

namespace Node

def empty : Node := ⟨∅, ∅, ∅, ∅, [], [], ""⟩

def isEmpty (n : Node) : Bool :=
  n.dead.isEmpty && n.forward.isEmpty && n.backward.isEmpty && n.typed.isEmpty &&
    n.words.isEmpty && n.urls.isEmpty && n.tags == ""

/-- Changes the references under a key; a key without references goes away. -/
def editTyped (n : Node) (key : String) (f : Refs → Refs) : Node :=
  let refs := f (n.typed.getD key Refs.empty)
  { n with typed := if refs.isEmpty then n.typed.erase key else n.typed.insert key refs }

/-- The same, but only for a key that is there. -/
def editTypedOld (n : Node) (key : String) (f : Refs → Refs) : Node :=
  if n.typed.contains key then n.editTyped key f else n

end Node

abbrev Inverted := Std.ExtTreeMap String ZidSlice

structure Tables where
  nodes : Std.ExtTreeMap Zid Node
  dead : Std.ExtTreeMap Zid ZidSlice
  words : Inverted
  urls : Inverted
deriving DecidableEq

namespace Tables

def empty : Tables := ⟨∅, ∅, ∅, ∅⟩

/-! ## 1. Single changes -/

/-- What is known of a zettel; nothing at first. -/
def node (t : Tables) (z : Zid) : Node := t.nodes.getD z Node.empty

def edit (t : Tables) (z : Zid) (f : Node → Node) : Tables :=
  { t with nodes := t.nodes.insert z (f (t.node z)) }

/-- Changes only what is there. -/
def editOld (t : Tables) (z : Zid) (f : Node → Node) : Tables :=
  match t.nodes[z]? with
  | some n => { t with nodes := t.nodes.insert z (f n) }
  | none => t

/-- Forgets a zettel of which nothing is known any more. -/
def reap (t : Tables) (z : Zid) : Tables :=
  match t.nodes[z]? with
  | some n => if n.isEmpty then { t with nodes := t.nodes.erase z } else t
  | none => t

def reapAll (t : Tables) (zs : List Zid) : Tables := zs.foldl reap t

def addDeadSource (t : Tables) (source target : Zid) : Tables :=
  { t with dead := t.dead.insert target ((t.dead.getD target ∅).insert source) }

def dropDeadSource (t : Tables) (source target : Zid) : Tables :=
  match t.dead[target]? with
  | none => t
  | some sources =>
    let left := sources.erase source
    { t with dead := if left.isEmpty then t.dead.erase target else t.dead.insert target left }

def addBackward (t : Tables) (source target : Zid) : Tables :=
  t.edit target fun n => { n with backward := n.backward.insert source }

def dropBackward (t : Tables) (source target : Zid) : Tables :=
  t.editOld target fun n => { n with backward := n.backward.erase source }

def dropForward (t : Tables) (target source : Zid) : Tables :=
  t.editOld source fun n => { n with forward := n.forward.erase target }

def addTypedBackward (key : String) (t : Tables) (source target : Zid) : Tables :=
  t.edit target fun n => n.editTyped key fun r => { r with backward := r.backward.insert source }

def dropTypedBackward (key : String) (t : Tables) (source target : Zid) : Tables :=
  t.editOld target fun n =>
    n.editTypedOld key fun r => { r with backward := r.backward.erase source }

def dropTypedForward (key : String) (t : Tables) (target source : Zid) : Tables :=
  t.editOld source fun n =>
    n.editTypedOld key fun r => { r with forward := r.forward.erase target }

/-! ## 2. Lists of holders -/

def addHolder (z : Zid) (table : Inverted) (word : String) : Inverted :=
  table.insert word ((table.getD word ∅).insert z)

def dropHolder (z : Zid) (table : Inverted) (word : String) : Inverted :=
  match table[word]? with
  | none => table
  | some row =>
    let left := row.erase z
    if left.isEmpty then table.erase word else table.insert word left

/-- Lists the zettel under all new words that are not old, and no longer under old ones that are
not new. -/
def relist (z : Zid) (new old : List String) (table : Inverted) : Inverted :=
  let table := (new.filter fun w => !old.contains w).foldl (addHolder z) table
  (old.filter fun w => !new.contains w).foldl (dropHolder z) table

/-! ## 3. Taking in a record -/

def relinkDead (t : Tables) (z : Zid) (new old : ZidSlice) : Tables :=
  let (added, removed) := new.diff old
  let t := added.ids.foldl (fun t target => t.addDeadSource z target) t
  let t := removed.ids.foldl (fun t target => t.dropDeadSource z target) t
  t.edit z fun n => { n with dead := new }

/-- Also gives the zettel that lost a reference to them. -/
def relinkForward (t : Tables) (z : Zid) (new old : ZidSlice) : Tables × List Zid :=
  let (added, removed) := new.diff old
  let t := t.edit z fun n => { n with forward := new }
  let t := added.ids.foldl (fun t target => t.addBackward z target) t
  (removed.ids.foldl (fun t target => t.dropBackward z target) t, removed.ids)

/-- Takes back all references under a key. -/
def unlinkTyped (z : Zid) : Tables × List Zid → String × Refs → Tables × List Zid
  | (t, touched), (key, refs) =>
    let t := refs.forward.ids.foldl (fun t target => dropTypedBackward key t z target) t
    let t := t.edit z fun n => n.editTypedOld key fun r => { r with forward := ∅ }
    (t, touched ++ refs.forward.ids)

/-- Replaces the references under a key. -/
def relinkTyped (z : Zid) (old : Node) :
    Tables × List Zid → String × ZidSet → Tables × List Zid
  | (t, touched), (key, targets) =>
    let new := targets.slice
    let (added, removed) := new.diff (old.typed.getD key Refs.empty).forward
    let t := added.ids.foldl (fun t target => addTypedBackward key t z target) t
    let t := removed.ids.foldl (fun t target => dropTypedBackward key t z target) t
    (t.edit z fun n => n.editTyped key fun r => { r with forward := new }, touched ++ removed.ids)

/-- Puts a record in the place of the one before. Answers the zettel with a reference to this
one that was dead so far. -/
def update (t : Tables) (r : Record) : ZidSet × Tables :=
  let z := r.zid
  let waiting := (ZidSet.ofZids (t.dead.getD z ∅).ids).erase z
  let old := t.node z
  let t := t.relinkDead z r.dead.slice old.dead
  let (t, touched) := t.relinkForward z r.forward.slice old.forward
  let gone := old.typed.toList.filter fun (key, _) => !r.typed.contains key
  let (t, touched) := gone.foldl (unlinkTyped z) (t, touched)
  let (t, touched) := r.typed.toList.foldl (relinkTyped z old) (t, touched)
  let words := r.words.toList
  let urls := r.urls.toList
  let t := { t with words := relist z words old.words t.words, urls := relist z urls old.urls t.urls }
  let t := t.edit z fun n => { n with words, urls, tags := r.tagText }
  (waiting, (t.reap z).reapAll touched)

/-! ## 4. Forgetting a zettel -/

/-- Takes back the references under a key from both ends. -/
def forgetTyped (z : Zid) :
    Tables × List Zid × ZidSet → String × Refs → Tables × List Zid × ZidSet
  | (t, touched, loose), (key, refs) =>
    let targets := refs.forward.ids.filter (· ≠ z)
    let sources := refs.backward.ids.filter (· ≠ z)
    let t := targets.foldl (fun t target => dropTypedBackward key t z target) t
    let t := sources.foldl (fun t source => dropTypedForward key t z source) t
    (t, touched ++ targets ++ sources, loose.addAll sources)

/-- Forgets a zettel. Answers the zettel whose references to it now lead nowhere. -/
def delete (t : Tables) (z : Zid) : ZidSet × Tables :=
  match t.nodes[z]? with
  | none => (∅, t)
  | some n =>
    let t := { t with nodes := t.nodes.erase z }
    let t := n.dead.ids.foldl (fun t target => t.dropDeadSource z target) t
    let targets := n.forward.ids.filter (· ≠ z)
    let sources := n.backward.ids.filter (· ≠ z)
    let t := targets.foldl (fun t target => t.dropBackward z target) t
    let t := sources.foldl (fun t source => t.dropForward z source) t
    let (t, touched, loose) :=
      n.typed.toList.foldl (forgetTyped z) (t, targets ++ sources, ZidSet.ofZids sources)
    let t := { t with words := relist z [] n.words t.words, urls := relist z [] n.urls t.urls }
    (loose, t.reapAll touched)

/-- The zettel of which something is known, in ascending order. -/
def indexed (t : Tables) : List Zid := t.nodes.keys

end Tables

end Kasten.Index
