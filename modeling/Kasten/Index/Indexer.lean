import Kasten.Catalog.Event
import Kasten.Config.Basic
import Kasten.Index.Store

/-!
# The indexer

The indexer keeps the index in line with one box. Changes of the box wait in its inbox; a feeder
puts them into the anteroom, and a worker takes one action after another out of it. A zettel that
cannot be read for the time being is tried again later, but only so often. Times are in
milliseconds.
-/

namespace Kasten.Index

/-- What the worker asks of a box, whose state may change with each reading. -/
structure Source (σ : Type) where
  get : Zid → σ → Except StoreError Zettel × σ
  has : Zid → σ → Bool
  list : σ → Except StoreError (List Zid) × σ

/-- An action that is queued again when it is due. -/
structure Retry where
  due : Nat
  zid : Zid
  action : Action
deriving DecidableEq, Repr

/-- `sinceReload` counts the zettel indexed or forgotten since the last full scan, and `retries`
the actions put off. -/
structure Counters where
  reloads : Nat
  sinceReload : Nat
  retries : Nat
deriving DecidableEq, Repr

/-- `attempts` counts the failed readings of a zettel, in words that start anew after their largest
value. The worker is awake while it may have something to do; then it sleeps until `idleDue`. -/
structure Indexer where
  config : IndexerConfig
  scan : Scanner
  store : Store
  anteroom : Anteroom
  attempts : Std.ExtTreeMap Zid UInt32
  retries : List Retry
  counters : Counters
  inbox : List Change
  isStarted : Bool
  isCancelled : Bool
  isAwake : Bool
  idleDue : Nat

namespace Indexer

def new (config : IndexerConfig) (scan : Scanner) : Indexer :=
  { config
    scan
    store := .new
    anteroom := .new config.maxAnteroomLoad
    attempts := ∅
    retries := []
    counters := ⟨0, 0, 0⟩
    inbox := []
    isStarted := false
    isCancelled := false
    isAwake := false
    idleDue := 0 }

def isRunning (x : Indexer) : Bool := x.isStarted && !x.isCancelled

/-! ## 1. From outside -/

/-- An indexer is started only once. -/
def start (x : Indexer) : Except StoreError Indexer :=
  if x.isStarted then .error (.internal "indexer already started")
  else .ok { x with isStarted := true, isAwake := true }

def stop (x : Indexer) : Indexer := { x with isCancelled := true }

/-- Drops pending work and asks for a full scan. -/
def refresh (x : Indexer) : Indexer := { x with anteroom := x.anteroom.reset, isAwake := true }

/-- Changes of the box arrive. -/
def receive (x : Indexer) (changes : List Change) : Indexer :=
  { x with inbox := x.inbox ++ changes }

/-- Whether a full scan was made. -/
def wasReloaded (x : Indexer) : Bool := x.counters.reloads ≠ 0

/-! ## 2. The feeder -/

/-- Takes in one change. -/
def accept (x : Indexer) (c : Change) : Indexer :=
  let anteroom :=
    match c.reason with
    | .onZettel => x.anteroom.enqueue c.zid .update
    | .onDelete => x.anteroom.enqueue c.zid .delete
    | .onReload => x.anteroom.reset
  { x with anteroom, isAwake := true }

def acceptAll (x : Indexer) : Indexer :=
  x.inbox.foldl accept { x with inbox := [] }

/-! ## 3. The worker -/

/-- Queues zettel that have to be looked at again. -/
def requeue (x : Indexer) (zids : ZidSet) : Indexer :=
  { x with anteroom := zids.toList.foldl (fun a z => a.enqueue z .update) x.anteroom }

/-- One more zettel is done with. -/
def settled (x : Indexer) (z : Zid) (store : Store) : Indexer :=
  { x with
    store
    attempts := x.attempts.erase z
    counters := { x.counters with sinceReload := x.counters.sinceReload + 1 } }

/-- Queues all zettel of the box, and those of the index that are not there. A failed listing
changes nothing. -/
def reload (x : Indexer) : Except StoreError (List Zid) → Indexer
  | .error _ => x
  | .ok there =>
    let gone := x.store.tables.indexed.filter fun z => !there.contains z
    { x with
      anteroom := x.anteroom.reload gone there
      counters := { x.counters with reloads := x.counters.reloads + 1, sinceReload := 0 } }

/-- Forgets a zettel. -/
def forget (x : Indexer) (z : Zid) : Indexer :=
  let (loose, store) := x.store.delete z
  (x.settled z store).requeue loose

/-- Puts an action off, unless the zettel failed too often; then its attempts are counted anew. -/
def putOff (x : Indexer) (now : Nat) (action : Action) (z : Zid) : Indexer :=
  let attempts := x.attempts.getD z 0 + 1
  if x.config.maxRetries < attempts.toNat then { x with attempts := x.attempts.erase z }
  else
    { x with
      attempts := x.attempts.insert z attempts
      counters := { x.counters with retries := x.counters.retries + 1 }
      retries := x.retries ++ [⟨now + x.config.retryDelayMs, z, action⟩] }

/-- Brings the index in line with what came of reading a zettel. -/
def finish (x : Indexer) (now : Nat) (has : Zid → Bool) (z : Zid) :
    Except StoreError Zettel → Indexer
  | .ok zettel =>
    let (waiting, store) := x.store.update (Record.ofZettel x.scan has zettel)
    (x.settled z store).requeue waiting
  | .error (.notFound _) => x.forget z
  | .error error => if error.isRetryable then x.putOff now .update z else x

/-- Does one action. -/
def act {σ : Type} (source : Source σ) (now : Nat) (x : Indexer) (s : σ) :
    Action × Zid → Indexer × σ
  | (.reload, _) =>
    let (listing, s) := source.list s
    (x.reload listing, s)
  | (.update, z) =>
    let (result, s) := source.get z s
    (x.finish now (source.has · s) z result, s)
  | (.delete, z) => (x.forget z, s)

/-- Takes the next action out of the anteroom and does it. -/
def work {σ : Type} (source : Source σ) (now : Nat) (x : Indexer) (s : σ) :
    Option (Indexer × σ) :=
  match x.anteroom.dequeue with
  | (none, _) => none
  | (some next, anteroom) => some (act source now { x with anteroom } s next)

/-- Works until the anteroom is empty, in so many steps at most. -/
def drain {σ : Type} (source : Source σ) (now : Nat) : Nat → Indexer → σ → Indexer × σ
  | 0, x, s => (x, s)
  | fuel + 1, x, s =>
    match work source now x s with
    | none => (x, s)
    | some (x, s) => drain source now fuel x s

/-! ## 4. Time -/

/-- Queues the actions that are due again. -/
def wakeRetries (x : Indexer) (now : Nat) : Indexer :=
  let (due, later) := x.retries.partition fun r => r.due ≤ now
  if due.isEmpty then x
  else
    let due := due.mergeSort fun r t => r.due ≤ t.due
    { x with
      retries := later
      anteroom := due.foldl (fun a r => a.enqueue r.zid r.action) x.anteroom
      isAwake := true }

/-- A worker that was idle long enough makes a full scan, if there was none before. -/
def wakeIdle {σ : Type} (source : Source σ) (x : Indexer) (now : Nat) (s : σ) : Indexer × σ :=
  if x.isAwake || now < x.idleDue then (x, s)
  else
    let x := { x with isAwake := true }
    if x.wasReloaded then (x, s)
    else
      let (listing, s) := source.list s
      (x.reload listing, s)

/-- Once nothing is left to do the worker sleeps. -/
def sleep (x : Indexer) (now : Nat) : Indexer :=
  if x.isAwake then { x with isAwake := false, idleDue := now + x.config.idleWait } else x

/-- How many actions there can be without further changes: each zettel that is looked at may ask
for each other one once. -/
def bound (x : Indexer) (there : Nat) : Nat :=
  let count := x.anteroom.size + x.store.tables.nodes.size + there + 2
  2 * count * count

/-- One round: takes in what arrived, does it, and what is due by then again. -/
def round {σ : Type} (source : Source σ) (now there : Nat) (x : Indexer) (s : σ) : Indexer × σ :=
  let x := (x.acceptAll).wakeRetries now
  drain source now (x.bound there) x s

/-- Rounds until no action is due. Each one beyond the first takes up a retry. -/
def rounds {σ : Type} (source : Source σ) (now there : Nat) : Nat → Indexer → σ → Indexer × σ
  | 0, x, s => (x, s)
  | fuel + 1, x, s =>
    let (x, s) := round source now there x s
    if x.retries.any fun r => r.due ≤ now then rounds source now there fuel x s else (x, s)

/-- Does all that can be done without more time; `there` is the number of zettel in the box. -/
def run {σ : Type} (source : Source σ) (now there : Nat) (x : Indexer) (s : σ) : Indexer × σ :=
  if !x.isRunning then (x, s)
  else
    let (x, s) := x.wakeIdle source now s
    let (x, s) := rounds source now there (x.bound there * (x.config.maxRetries + 2)) x s
    (x.sleep now, s)

end Indexer

end Kasten.Index
