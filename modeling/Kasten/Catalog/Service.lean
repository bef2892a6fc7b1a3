import Kasten.Catalog.Basic
import Kasten.Catalog.Event
import Kasten.Error
import Kasten.Zid.Calendar

/-!
# The directory service

The service keeps the catalog of one directory in step with the events of a notifier. During a
scan a second catalog is built, which takes the place of the first at the end. A directory that
is gone has no catalog. What an event means for single zettel is published in the order of their
identifiers.
-/

namespace Kasten

/-- How far the service is; a directory that vanished is `missing`. -/
inductive Phase where
  | created
  | starting
  | working
  | missing
  | stopping
deriving DecidableEq, Repr

/-- `shadow` is the catalog that a scan is building. The service listens from its start until it
is stopped or the notifier goes away, and has a notifier from its start until it is stopped. -/
structure Service where
  origin : String
  phase : Phase
  catalog : Option Catalog
  shadow : Option Catalog
  isListening : Bool
  hasNotifier : Bool
deriving DecidableEq

namespace Service

def new (origin : String) : Service := ⟨origin, .created, none, none, false, false⟩

/-! ## 1. Starting and stopping -/

def start (s : Service) : Except StoreError Service :=
  if s.phase = .created then
    .ok { s with phase := .starting, isListening := true, hasNotifier := true }
  else .error (.internal s!"directory service {s.origin} already started")

def stop (s : Service) : Service :=
  { s with phase := .stopping, isListening := false, hasNotifier := false }

def startState (s : Service) : StartState :=
  match s.phase with
  | .created => .stopped
  | .starting => .starting
  | .working => .started
  | .missing => .started
  | .stopping => .stopping

/-! ## 2. Events -/

def publish (s : Service) (reason : Reason) (zids : List Zid) : List Change :=
  zids.map fun z => ⟨s.origin, reason, z⟩

/-- The catalog of a scan takes the place of the one before. Without a scan this is only the
first sight of an empty directory. -/
def finishScan (s : Service) : Service × List Change :=
  match s.shadow, s.catalog with
  | none, some _ => (s, [])
  | shadow, previous =>
    let scanned := shadow.getD ∅
    let gone := (previous.getD ∅).keys.filter fun z => !scanned.contains z
    ({ s with phase := .working, catalog := some scanned, shadow := none },
      s.publish .onZettel scanned.keys ++ s.publish .onDelete gone)

def updateFile (s : Service) (name : String) : Service × List Change :=
  let z := Zid.ofFileName name
  let changes := if s.catalog.isSome && z.isValid then s.publish .onZettel [z] else []
  ({ s with
      catalog := s.catalog.map (Catalog.addFile · name)
      shadow := s.shadow.map (Catalog.addFile · name) }, changes)

def deleteFile (s : Service) (name : String) : Service × List Change :=
  let s := { s with shadow := s.shadow.map fun c => (Catalog.removeFile c name).1 }
  match s.catalog with
  | none => (s, [])
  | some c =>
    let (c, outcome) := Catalog.removeFile c name
    let changes :=
      match outcome with
      | some (z, remains) => s.publish (if remains then .onZettel else .onDelete) [z]
      | none => []
    ({ s with catalog := some c }, changes)

/-- Takes in one event and gives the changes to publish. A service that is stopping takes in
nothing any more. -/
def handle (s : Service) (event : Event) : Service × List Change :=
  if s.phase = .stopping then (s, [])
  else
    match event with
    | .make => ({ s with shadow := some ∅ }, [])
    | .list name =>
      if name = "" then s.finishScan
      else ({ s with shadow := s.shadow.map (Catalog.addFile · name) }, [])
    | .ready => s.finishScan
    | .update name => s.updateFile name
    | .delete name => s.deleteFile name
    | .destroy =>
      ({ s with phase := .missing, catalog := none, shadow := none },
        s.publish .onDelete (s.catalog.getD ∅).keys)
    | .error _ => ({ s with shadow := none }, [])

/-- Takes in events one after another. -/
def handleAll (s : Service) (events : List Event) : Service × List Change :=
  events.foldl (fun (s, changes) event =>
    let (s, more) := s.handle event
    (s, changes ++ more)) (s, [])

/-- Events reach the service only while it listens. -/
def send (s : Service) (events : List Event) : Service × List Change :=
  if s.isListening then s.handleAll events else (s, [])

/-! ## 3. Looking up -/

def size (s : Service) : Nat := (s.catalog.map Std.ExtTreeMap.size).getD 0

def entry? (s : Service) (z : Zid) : Option Entry :=
  s.catalog.bind fun (catalog : Catalog) => catalog[z]?

def entries (s : Service) (accept : Zid → Bool) : List Entry :=
  match s.catalog with
  | some c => Catalog.entries c accept
  | none => []

/-- The entry, if it has a file for content or metadata. -/
def liveEntry (s : Service) (z : Zid) : Except StoreError Entry :=
  match s.entry? z with
  | some e => if e.isLive then .ok e else .error (.notFound z)
  | none => .error (.notFound z)

def has (s : Service) (z : Zid) : Bool := (s.liveEntry z).toOption.isSome

/-- The identifiers of all live entries that the test accepts. -/
def liveZids (s : Service) (accept : Zid → Bool) : List Zid :=
  ((s.entries accept).filter Entry.isLive).map Entry.zid

/-! ## 4. Changing the catalog by hand -/

/-- The catalog, which has to be there. -/
def present (s : Service) : Except StoreError Catalog :=
  match s.catalog with
  | some c => .ok c
  | none => .error (.noDirectory s.origin)

/-- Reserves a fresh identifier with an entry without files. -/
def reserve (s : Service) (now : Time) : Except StoreError (Zid × Service) := do
  let c ← s.present
  match Zid.fresh true now fun z => !c.contains z with
  | .ok z => return (z, { s with catalog := some (c.insert z (Entry.new z)) })
  | .error e => throw (.ofZidError e)

def put (s : Service) (e : Entry) : Except StoreError Service := do
  let c ← s.present
  return { s with catalog := some (c.insert e.zid e) }

def drop (s : Service) (z : Zid) : Except StoreError Service := do
  let c ← s.present
  return { s with catalog := some (c.erase z) }

/-- Moves an entry to another identifier, which has to be free. -/
def rename (s : Service) (old : Entry) (new : Zid) : Except StoreError (Entry × Service) := do
  let c ← s.present
  if c.contains new then throw (.invalidZid s!"{new} already exists")
  let e := old.renamed new
  return (e, { s with catalog := some ((c.erase old.zid).insert new e) })

end Service

end Kasten
