import Std.Data.ExtTreeMap
import Kasten.Error
import Kasten.Text.Find
import Kasten.Text.Utf8

/-!
# The disk

Files and directories below one working directory, by their paths. A path is a text of names with
slashes between them; every directory on the way to a file has to be there.
-/

namespace Kasten

inductive DiskItem where
  | file (data : Bytes)
  | folder
deriving DecidableEq, Repr

/-- The items by their paths from the working directory, which itself is not listed. -/
structure Disk where
  items : Std.ExtTreeMap String DiskItem
deriving DecidableEq

namespace Disk

def empty : Disk := ⟨∅⟩

/-! ## 1. Paths -/

/-- A name behind a path. Nothing is put in front of a name that starts at the root. -/
def join (path name : String) : String :=
  if Text.startsWith name "/" || path == "" then name
  else if Text.endsWith path "/" then path ++ name
  else path ++ "/" ++ name

/-- The parts of a path that are names. -/
def namesOf (path : String) : List String :=
  ((Text.splitOn '/' path.toList).filter fun cs => cs ≠ [] && cs ≠ ['.']).map String.ofList

/-- The longest name that a file may have, in octets. -/
def maxName : Nat := 255

def lookup (d : Disk) (path : String) : Option DiskItem :=
  if path = "" then some .folder else d.items[path]?

/-- The directory of a path. -/
def parent (path : String) : String :=
  String.ofList ((path.toList.reverse.dropWhile (· ≠ '/')).drop 1).reverse

/-- Goes from a path along names; each name but the last has to lead to a directory. -/
def walk (d : Disk) (path : String) : List String → Except FileFault String
  | [] => .ok path
  | name :: rest =>
    match d.lookup path with
    | none => .error .missing
    | some (.file _) => .error .notDirectory
    | some .folder =>
      if maxName < name.utf8ByteSize then .error .nameTooLong
      else walk d (if name = ".." then parent path else join path name) rest

/-- The plain form of a path, if its way is open. -/
def resolve (d : Disk) (path : String) : Except FileFault String :=
  if path.toList.contains '\x00' then
    .error (.other "file name contained an unexpected NUL byte")
  else if Text.startsWith path "/" then .error .missing
  else d.walk "" (namesOf path)

/-- Whether the path asks for a directory by its form. -/
def wantsFolder (path : String) : Bool := Text.endsWith path "/"

/-! ## 2. Files -/

def read (d : Disk) (path : String) : Except FileFault Bytes :=
  match d.resolve path with
  | .error fault => .error fault
  | .ok plain =>
    match d.lookup plain with
    | none => .error .missing
    | some .folder => .error .isDirectory
    | some (.file data) => if wantsFolder path then .error .notDirectory else .ok data

/-- Makes a file or replaces what it holds. -/
def write (d : Disk) (path : String) (data : Bytes) : Except FileFault Unit × Disk :=
  match d.resolve path with
  | .error fault => (.error fault, d)
  | .ok plain =>
    match d.lookup plain with
    | some .folder => (.error .isDirectory, d)
    | some (.file _) =>
      if wantsFolder path then (.error .notDirectory, d)
      else (.ok (), ⟨d.items.insert plain (.file data)⟩)
    | none =>
      if wantsFolder path then (.error .isDirectory, d)
      else (.ok (), ⟨d.items.insert plain (.file data)⟩)

/-- Removes a file. -/
def remove (d : Disk) (path : String) : Except FileFault Unit × Disk :=
  match d.resolve path with
  | .error fault => (.error fault, d)
  | .ok plain =>
    match d.lookup plain with
    | none => (.error .missing, d)
    | some .folder => (.error .isDirectory, d)
    | some (.file _) =>
      if wantsFolder path then (.error .notDirectory, d) else (.ok (), ⟨d.items.erase plain⟩)

/-! ## 3. Directories -/

def item? (d : Disk) (path : String) : Option DiskItem :=
  match d.resolve path with
  | .ok plain => d.lookup plain
  | .error _ => none

def isThere (d : Disk) (path : String) : Bool := (d.item? path).isSome

def isFolder (d : Disk) (path : String) : Bool := d.item? path == some .folder

def isFile (d : Disk) (path : String) : Bool :=
  match d.item? path with
  | some (.file _) => true
  | _ => false

/-- The name of an item directly inside a directory. -/
def childName? (folder path : String) : Option String :=
  let start := if folder = "" then [] else folder.toList ++ ['/']
  if start.isPrefixOf path.toList then
    let name := path.toList.drop start.length
    if name = [] ∨ name.contains '/' then none else some (String.ofList name)
  else none

/-- The items directly inside a directory, by their names in ascending order. -/
def children (d : Disk) (folder : String) : List (String × DiskItem) :=
  d.items.toList.filterMap fun (path, item) => (childName? folder path).map fun name => (name, item)

/-- The names and kinds of what is in a directory; a file has nothing in it. -/
def list (d : Disk) (path : String) : Except FileFault (List (String × DiskItem)) :=
  match d.resolve path with
  | .error fault => .error fault
  | .ok plain =>
    match d.lookup plain with
    | none => .error .missing
    | some (.file _) => if wantsFolder path then .error .notDirectory else .ok []
    | some .folder => .ok (d.children plain)

/-- Makes a directory and those that lead to it. -/
def makeFolders (d : Disk) : String → List String → Except FileFault Unit × Disk
  | _, [] => (.ok (), d)
  | path, name :: rest =>
    let path := join path name
    if maxName < name.utf8ByteSize then (.error .nameTooLong, d)
    else
      match d.lookup path with
      | some .folder => makeFolders d path rest
      | some (.file _) => (.error (if rest = [] then .occupied else .notDirectory), d)
      | none => makeFolders ⟨d.items.insert path .folder⟩ path rest

def makePath (d : Disk) (path : String) : Except FileFault Unit × Disk :=
  d.makeFolders "" (namesOf path)

/-! ## 4. Whole trees -/

/-- The path lies at or below another. -/
def isBelow (path top : String) : Bool :=
  path == top || (top.toList ++ ['/']).isPrefixOf path.toList

/-- Removes whatever is at a path, with all below it. -/
def clear (d : Disk) (path : String) : Disk :=
  match d.resolve path with
  | .ok plain => if plain = "" then d else ⟨d.items.filter fun p _ => !isBelow p plain⟩
  | .error _ => d

/-- Moves whatever is at a path, with all below it, to another one. -/
def move (d : Disk) (old new : String) : Disk :=
  match d.resolve old, d.resolve new with
  | .ok old, .ok new =>
    if (d.lookup old).isNone || old == new || old == "" || new == "" then d
    else
      let kept := d.items.filter fun p _ => !isBelow p old && !isBelow p new
      let moved := d.items.toList.filter fun (p, _) => isBelow p old
      ⟨moved.foldl (fun items (p, item) =>
        items.insert (new ++ String.ofList (p.toList.drop old.toList.length)) item) kept⟩
  | _, _ => d

end Disk

end Kasten
