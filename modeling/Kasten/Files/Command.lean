import Kasten.Entry.Metadata
import Kasten.Disk.Basic
import Kasten.Program
import Kasten.Zettel

/-!
# File commands

What a box asks its file workers to do for one zettel, as programs over the files of a directory.
-/

namespace Kasten.Files

/-! ## 1. Requests to a directory -/

inductive FileRequest where
  | read (name : String)
  | write (name : String) (data : Bytes)
  | remove (name : String)
deriving DecidableEq, Repr

namespace FileRequest

@[reducible] def Reply : FileRequest → Type
  | read _ => Except FileFault Bytes
  | write _ _ => Except FileFault Unit
  | remove _ => Except FileFault Unit

/-- Answers a request from a directory of the disk. -/
def serve (dir : String) : (r : FileRequest) → Disk → r.Reply × Disk
  | read name, d => (d.read (Disk.join dir name), d)
  | write name data, d => d.write (Disk.join dir name) data
  | remove name, d => d.remove (Disk.join dir name)

end FileRequest

abbrev FileProgram := Program FileRequest FileRequest.Reply

/-! ## 2. Reading -/

def readError (dir name : String) (fault : FileFault) : StoreError :=
  .file ("read " ++ Disk.join dir name) fault

def writeError (dir name : String) (fault : FileFault) : StoreError :=
  .file ("write " ++ Disk.join dir name) fault

def removeError (dir name : String) (fault : FileFault) : StoreError :=
  .file ("delete " ++ Disk.join dir name) fault

/-- A metadata file that vanished leaves what the file names tell. -/
def readMeta (dir : String) (e : Entry) : FileProgram (Except StoreError Meta) :=
  if e.metaName ≠ "" then
    .ask (.read e.metaName) fun reply =>
      match reply with
      | .ok bytes => .done (.ok (e.readHeader bytes).1)
      | .error fault =>
        if fault.isMissing then .done (.ok (e.completeMeta e.impliedMeta))
        else .done (.error (readError dir e.metaName fault))
  else if e.hasMetaInContent then
    .ask (.read e.contentName) fun reply =>
      match reply with
      | .ok bytes => .done (.ok (e.readHeader bytes).1)
      | .error fault => .done (.error (readError dir e.contentName fault))
  else .done (.ok (e.completeMeta e.impliedMeta))

/-- The content file, if there is one. -/
def readContent (dir : String) (e : Entry) (m : Meta) : FileProgram (Except StoreError Zettel) :=
  if e.contentName = "" then .done (.ok ⟨m, []⟩)
  else
    .ask (.read e.contentName) fun reply =>
      match reply with
      | .ok bytes => .done (.ok ⟨m, bytes⟩)
      | .error fault => .done (.error (readError dir e.contentName fault))

def readZettel (dir : String) (e : Entry) : FileProgram (Except StoreError Zettel) :=
  if e.hasMetaInContent then
    .ask (.read e.contentName) fun reply =>
      match reply with
      | .ok bytes =>
        let (m, content) := e.readHeader bytes
        .done (.ok ⟨m, content⟩)
      | .error fault => .done (.error (readError dir e.contentName fault))
  else
    (readMeta dir e).bind fun result =>
      match result with
      | .ok m => readContent dir e m
      | .error error => .done (.error error)

/-! ## 3. Writing and removing -/

def writeContent (dir : String) (e : Entry) (z : Zettel) : FileProgram (Except StoreError Unit) :=
  if e.contentName = "" then .done (.ok ())
  else
    .ask (.write e.contentName z.content) fun reply =>
      match reply with
      | .ok _ => .done (.ok ())
      | .error fault => .done (.error (writeError dir e.contentName fault))

/-- The metadata goes in front of the content, or first into a file of its own. -/
def writeZettel (dir : String) (e : Entry) (z : Zettel) : FileProgram (Except StoreError Unit) :=
  if e.hasMetaInContent then
    .ask (.write e.contentName (Header.writeFile z.metadata z.content)) fun reply =>
      match reply with
      | .ok _ => .done (.ok ())
      | .error fault => .done (.error (writeError dir e.contentName fault))
  else if e.metaName ≠ "" then
    .ask (.write e.metaName (Header.write z.metadata)) fun reply =>
      match reply with
      | .ok _ => writeContent dir e z
      | .error fault => .done (.error (writeError dir e.metaName fault))
  else writeContent dir e z

/-- Removes files one after another, whatever comes of it. A missing file is as good as removed;
of the other faults the first is kept. -/
def removeFiles (dir : String) (kept : Option StoreError) :
    List String → FileProgram (Except StoreError Unit)
  | [] =>
    match kept with
    | some error => .done (.error error)
    | none => .done (.ok ())
  | name :: rest =>
    .ask (.remove name) fun reply =>
      match reply with
      | .ok _ => removeFiles dir kept rest
      | .error fault =>
        if fault.isMissing then removeFiles dir kept rest
        else removeFiles dir (kept <|> some (removeError dir name fault)) rest

/-! ## 4. Commands -/

inductive Command where
  | getMeta (e : Entry)
  | getZettel (e : Entry)
  | setZettel (e : Entry) (z : Zettel)
  | deleteFiles (e : Entry)
deriving DecidableEq

namespace Command

/-- What a command gives when it succeeds. -/
@[reducible] def Result : Command → Type
  | getMeta _ => Meta
  | getZettel _ => Zettel
  | setZettel _ _ => Unit
  | deleteFiles _ => Unit

@[reducible] def Reply (c : Command) : Type := Except StoreError c.Result

def zid : Command → Zid
  | getMeta e => e.zid
  | getZettel e => e.zid
  | setZettel e _ => e.zid
  | deleteFiles e => e.zid

/-- The name of the operation in messages. -/
def operation : Command → String
  | getMeta _ => "get meta"
  | getZettel _ => "get zettel"
  | setZettel _ _ => "set zettel"
  | deleteFiles _ => "delete zettel"

def program (dir : String) : (c : Command) → FileProgram c.Reply
  | getMeta e => readMeta dir e
  | getZettel e => readZettel dir e
  | setZettel e z => writeZettel dir e z
  | deleteFiles e => removeFiles dir none e.files

end Command

end Kasten.Files
