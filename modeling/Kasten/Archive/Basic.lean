import Kasten.Archive.Directory
import Kasten.Archive.Inflate
import Kasten.Disk.Listing

/-!
# Archives

An archive file holds zettel files as members, stored or deflated. Opening an archive reads its
directory; a member is read when it is asked for.
-/

namespace Kasten

/-- The path of an archive, its octets and the members in its directory. -/
structure Archive where
  path : String
  bytes : Bytes
  members : List Archive.Member
deriving DecidableEq

namespace Archive

def shortRead : FileFault := .other "failed to fill whole buffer"

def invalid (detail : String) : FileFault := .other ("invalid Zip archive: " ++ detail)

def unsupported (detail : String) : FileFault := .other ("unsupported Zip archive: " ++ detail)

/-- A fault of the archive as a whole. -/
def archiveError (path : String) (fault : FileFault) : StoreError :=
  .file ("read archive " ++ path) fault

/-- Opens the archive at a path of the disk. -/
def ofDisk (d : Disk) (path : String) : Except StoreError Archive :=
  match d.read path with
  | .error .isDirectory => .error (archiveError path .isDirectory)
  | .error fault => .error (.file ("open " ++ path) fault)
  | .ok bytes =>
    match directory bytes with
    | .ok members => .ok ⟨path, bytes, members⟩
    | .error .short => .error (archiveError path shortRead)
    | .error (.invalid detail) => .error (archiveError path (invalid detail))

/-- Of several members of one name the last counts. -/
def find? (a : Archive) (name : String) : Option Member :=
  a.members.reverse.find? fun m => m.name = name

/-- Where the content of a member starts: behind its own header. -/
def contentStart (a : Archive) (m : Member) : Except FileFault Nat :=
  let header := (a.bytes.drop m.start).take 30
  if header.length < 30 then .error shortRead
  else if !localMark.isPrefixOf header then .error (invalid "Invalid local file header")
  else .ok (m.start + 30 + field header 26 2 + field header 28 2)

/-- The content of a member by its method: 0 is stored, 8 is deflated. -/
def unpack (method : Nat) (packed : Bytes) : Option Bytes :=
  if method = 0 then some packed else Inflate.inflate? packed

/-- Reads a member and checks its sum. -/
def read (a : Archive) (name : String) : Except StoreError Bytes :=
  match a.find? name with
  | none => .error (archiveError a.path .noMember)
  | some m =>
    let memberError (text : String) : StoreError :=
      .file (s!"read {name} in {a.path}") (.other text)
    if m.isEncrypted then
      .error (archiveError a.path (unsupported "Password required to decrypt file"))
    else
      match a.contentStart m with
      | .error fault => .error (archiveError a.path fault)
      | .ok start =>
        if m.method ≠ 0 ∧ m.method ≠ 8 then
          .error (archiveError a.path (unsupported "Compression method not supported"))
        else
          match unpack m.method ((a.bytes.drop start).take m.size) with
          | none => .error (memberError "corrupt deflate stream")
          | some content =>
            if crc32 content = m.checksum then .ok content
            else .error (memberError "Invalid checksum")

/-- The zettel files at the top level, in ascending order. -/
def zettelFiles (a : Archive) : List String :=
  let names := (a.members.map Member.name).eraseDups
  (names.filter fun name => !name.toList.contains '/' && FileName.isZettelFile name).mergeSort
    fun s t => s ≤ t

/-- The names of the zettel files in the archive at a path of the disk. -/
def listZettel (d : Disk) (path : String) : Except StoreError (List String) :=
  (ofDisk d path).map zettelFiles

end Archive

end Kasten
