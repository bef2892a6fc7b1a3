import Kasten.Archive.Basic
import Kasten.Box.Feed
import Kasten.Config.Basic
import Kasten.Entry.Metadata
import Kasten.Zettel

/-!
# Archive boxes

An archive box offers the zettel in an archive for reading. The archive is opened anew for each
operation.
-/

namespace Kasten

structure ZipBox extends Box.Feed where
  config : ZipBoxConfig
deriving DecidableEq

namespace ZipBox

def path (b : ZipBox) : String := Config.pathText b.config.path

def new (config : ZipBoxConfig) : ZipBox := { toFeed := .new config.location, config }

/-- The archive has to be there. -/
def start (b : ZipBox) (d : Disk) : Except StoreError (ZipBox × List Change) :=
  if !d.isFile b.path then .error (.noDirectory b.path)
  else
    match b.toFeed.start (Watch.Notifier.startArchive b.path d) with
    | .error error => .error error
    | .ok (feed, changes) => .ok ({ b with toFeed := feed }, changes)

def stop (b : ZipBox) : ZipBox := { b with toFeed := b.toFeed.stop }

/-! ## Reading -/

def readMeta (a : Archive) (e : Entry) : Except StoreError Meta :=
  if e.metaName ≠ "" then do
    let bytes ← a.read e.metaName
    return (e.readHeader bytes).1
  else if e.hasMetaInContent then do
    let bytes ← a.read e.contentName
    return (e.readHeader bytes).1
  else .ok (e.completeMeta e.impliedMeta)

def readZettel (a : Archive) (e : Entry) : Except StoreError Zettel :=
  if e.hasMetaInContent then do
    let bytes ← a.read e.contentName
    let (m, content) := e.readHeader bytes
    return ⟨m, content⟩
  else do
    let m ← readMeta a e
    if e.contentName = "" then return ⟨m, []⟩
    return ⟨m, ← a.read e.contentName⟩

def get (b : ZipBox) (d : Disk) (zid : Zid) : Except StoreError Zettel := do
  let e ← b.service.liveEntry zid
  let a ← Archive.ofDisk d b.path
  readZettel a e

/-- The metadata of entries in their order, without those whose members vanished. -/
def readMetas (a : Archive) : List Entry → Except StoreError (List Meta)
  | [] => .ok []
  | e :: rest =>
    match readMeta a e with
    | .ok m => (readMetas a rest).map (m :: ·)
    | .error error => if error.isMissingFile then readMetas a rest else .error error

/-- The metadata of all zettel that the test accepts. Without any, the archive is not opened. -/
def metas (b : ZipBox) (d : Disk) (accept : Zid → Bool) : Except StoreError (List Meta) :=
  match (b.service.entries accept).filter Entry.isLive with
  | [] => .ok []
  | entries => do
    let a ← Archive.ofDisk d b.path
    readMetas a entries

end ZipBox

end Kasten
