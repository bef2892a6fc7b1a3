import Kasten.Disk.Basic
import Kasten.Entry.FileName

/-!
# Listing a directory

The names of the zettel files directly inside a directory.
-/

namespace Kasten.Disk

/-- The names of all regular files that are zettel files, in ascending order. -/
def zettelFiles (items : List (String × DiskItem)) : List String :=
  items.filterMap fun (name, item) =>
    match item with
    | .file _ => if FileName.isZettelFile name then some name else none
    | .folder => none

def listZettel (d : Disk) (path : String) : Except StoreError (List String) :=
  match d.list path with
  | .ok items => .ok (zettelFiles items)
  | .error fault => .error (.file ("list " ++ path) fault)

end Kasten.Disk
