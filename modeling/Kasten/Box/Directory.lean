import Kasten.Box.Feed
import Kasten.Config.Basic
import Kasten.Files.Pool

/-!
# Directory boxes

A directory box keeps zettel as files of one directory: its catalog tells which files there are,
and its pool of workers reads and writes them. The operations are programs over file commands, so
that it is open what comes of each command. An operation that fails leaves the catalog as it was.
-/

namespace Kasten

structure DirBox extends Box.Feed where
  config : DirBoxConfig
  pool : Files.Pool
deriving DecidableEq

/-- Work that asks for file commands. -/
abbrev FileWork := Program Files.Command Files.Command.Reply

/-- What comes of an operation: the answer, the box afterwards and the changes to publish. -/
structure Outcome (α : Type) where
  answer : Except StoreError α
  box : DirBox
  changes : List Change

namespace DirBox

def path (b : DirBox) : String := Config.pathText b.config.path

/-- A box that is not started. -/
def new (config : DirBoxConfig) : DirBox :=
  { toFeed := .new config.location
    config
    pool :=
      (Files.Pool.start (Config.pathText config.path) config.workerCount config.serviceTimeoutMs).stop }

/-! ## 1. Starting and stopping -/

/-- The directory has to be there; a box that may write makes it. -/
def ensureFolder (b : DirBox) (d : Disk) : Except StoreError Disk :=
  if d.isFolder b.path then .ok d
  else if b.config.readonly then .error (.noDirectory b.path)
  else
    match d.makePath b.path with
    | (.ok _, d) => .ok d
    | (.error fault, _) => .error (.file ("create " ++ b.path) fault)

def startNotifier (b : DirBox) (now : Nat) (d : Disk) :
    Except StoreError (Watch.Notifier × List Event) :=
  match b.config.notifier with
  | .watching => Watch.Notifier.startWatching b.path d
  | .polling => .ok (Watch.Notifier.startPolling b.path b.config.pollInterval now d)

/-- Starts the notifier, the workers and the service, in this order. -/
def start (b : DirBox) (now : Nat) (d : Disk) : Outcome Unit × Disk :=
  match b.ensureFolder d with
  | .error error => (⟨.error error, b, []⟩, d)
  | .ok d =>
    match b.startNotifier now d with
    | .error error => (⟨.error error, b, []⟩, d)
    | .ok source =>
      let b := { b with pool := { b.pool with isRunning := true } }
      match b.toFeed.start source with
      | .error error => (⟨.error error, b, []⟩, d)
      | .ok (feed, changes) => (⟨.ok (), { b with toFeed := feed }, changes⟩, d)

def stop (b : DirBox) : DirBox := { b with toFeed := b.toFeed.stop, pool := b.pool.stop }

/-- Runs work on the files of a disk. -/
def run {α : Type} (b : DirBox) (work : FileWork α) (d : Files.SlowDisk) : α × Files.SlowDisk :=
  Program.run b.pool.submit work d

/-! ## 2. Operations -/

/-- Only a started box has files. -/
def requireFiles (b : DirBox) : Except StoreError Unit :=
  if b.pool.isRunning then .ok () else .error (.stopped s!"box {b.service.origin} is not started")

def requireWritable (b : DirBox) : Except StoreError Unit :=
  if b.config.readonly then .error .readOnly else .ok ()

/-- An operation that fails and changes nothing. -/
def fail {α : Type} (b : DirBox) (error : StoreError) : Outcome α := ⟨.error error, b, []⟩

/-- Puts a change of the catalog into effect, unless that itself fails. -/
def commit {α : Type} (b : DirBox) (service : Except StoreError Service)
    (answer : Except StoreError α) (changes : List (Reason × Zid)) : Outcome α :=
  match service with
  | .error error => b.fail error
  | .ok service =>
    ⟨answer, { b with service },
      changes.map fun (reason, z) => ⟨b.service.origin, reason, z⟩⟩

/-- Stores a zettel under a fresh identifier, which is given back if its files cannot be written. -/
def create (b : DirBox) (now : Time) (z : Zettel) : FileWork (Outcome Zid) :=
  let ready : Except StoreError (Zid × Service) := do
    b.requireWritable
    b.requireFiles
    b.service.reserve now
  match ready with
  | .error error => .done (b.fail error)
  | .ok (zid, service) =>
    let b := { b with service }
    let z := { z with metadata := { z.metadata with zid } }
    let e := (Entry.new zid).prepare z.metadata b.config.zettelSyntaxes
    .ask (.setZettel e z) fun reply =>
      match reply with
      | .error error => .done (b.commit (service.drop zid) (.error error) [])
      | .ok _ => .done (b.commit (service.put e) (.ok zid) [(.onZettel, zid)])

/-- Stores a zettel under its own identifier, in the files that are there or in new ones. -/
def update (b : DirBox) (z : Zettel) : FileWork (Outcome Unit) :=
  let ready : Except StoreError Unit := do
    b.requireWritable
    if !z.zid.isValid then throw (.invalidZid z.zid.text)
    b.requireFiles
  match ready with
  | .error error => .done (b.fail error)
  | .ok _ =>
    let e :=
      ((b.service.entry? z.zid).getD (Entry.new z.zid)).prepare z.metadata b.config.zettelSyntaxes
    .ask (.setZettel e z) fun reply =>
      match reply with
      | .error error => .done (b.fail error)
      | .ok _ => .done (b.commit (b.service.put e) (.ok ()) [(.onZettel, z.zid)])

/-- Undoes the move of an entry. -/
def restore (s : Service) (old : Entry) (new : Zid) : Except StoreError Service := do
  let s ← s.drop new
  s.put old

/-- Writes a zettel anew under another identifier and removes the old files. Until the new files
are written, everything can be undone. -/
def rename (b : DirBox) (cur new : Zid) : FileWork (Outcome Unit) :=
  match b.requireWritable with
  | .error error => .done (b.fail error)
  | .ok _ =>
    if cur = new then .done ⟨.ok (), b, []⟩
    else
      let ready : Except StoreError Entry := do
        if !new.isValid then throw (.invalidZid new.text)
        b.requireFiles
        b.service.liveEntry cur
      match ready with
      | .error error => .done (b.fail error)
      | .ok old =>
        .ask (.getZettel old) fun reply =>
          match reply with
          | .error error => .done (b.fail error)
          | .ok z =>
            match b.service.rename old new with
            | .error error => .done (b.fail error)
            | .ok (e, service) =>
              let z : Zettel := { z with metadata := { z.metadata with zid := new } }
              .ask (.setZettel e z) fun reply =>
                match reply with
                | .error error =>
                  .done ({ b with service }.commit (restore service old new) (.error error) [])
                | .ok _ =>
                  .ask (.deleteFiles old) fun reply =>
                    .done (b.commit (.ok service) reply [(.onDelete, cur), (.onZettel, new)])

/-- Removes a zettel with all its files. -/
def delete (b : DirBox) (zid : Zid) : FileWork (Outcome Unit) :=
  let ready : Except StoreError (Entry × Service) := do
    b.requireWritable
    b.requireFiles
    let e ← b.service.liveEntry zid
    return (e, ← b.service.drop zid)
  match ready with
  | .error error => .done (b.fail error)
  | .ok (e, service) =>
    .ask (.deleteFiles e) fun reply =>
      match reply with
      | .error error => .done ({ b with service }.commit (service.put e) (.error error) [])
      | .ok _ => .done (b.commit (.ok service) (.ok ()) [(.onDelete, zid)])

/-! ## 3. Reading -/

def get (b : DirBox) (zid : Zid) : FileWork (Except StoreError Zettel) :=
  let ready : Except StoreError Entry := do
    let e ← b.service.liveEntry zid
    b.requireFiles
    return e
  match ready with
  | .error error => .done (.error error)
  | .ok e => .ask (.getZettel e) .done

/-- The metadata of entries in their order. Zettel that vanished are left out; any other failure
ends the reading. -/
def readMetas : List Entry → FileWork (List Meta × Option StoreError)
  | [] => .done ([], none)
  | e :: rest =>
    .ask (.getMeta e) fun reply =>
      match reply with
      | .ok m => (readMetas rest).bind fun (ms, error) => .done (m :: ms, error)
      | .error error => if error.isMissingFile then readMetas rest else .done ([], some error)

/-- The metadata of all zettel that the test accepts, and what ended the reading, if anything. -/
def metas (b : DirBox) (accept : Zid → Bool) : FileWork (List Meta × Option StoreError) :=
  match b.requireFiles with
  | .error error => .done ([], some error)
  | .ok _ => readMetas ((b.service.entries accept).filter Entry.isLive)

/-! ## 4. Permissions -/

def canCreate (b : DirBox) : Bool := !b.config.readonly

def canUpdate (b : DirBox) (z : Zid) : Bool := !b.config.readonly && z.isValid

/-- Renaming and deleting need a zettel that is there. -/
def canRemove (b : DirBox) (z : Zid) : Bool := !b.config.readonly && b.service.has z

end DirBox

end Kasten
