import Kasten.Catalog.Event
import Kasten.Disk.Edit
import Kasten.Disk.Listing

/-!
# Watching a directory

A watcher scans its directory once and then follows what is told to happen to the files in it. It
also sees its directory itself vanish and come back. Each notice is taken apart into what it tells
of single paths, and that is judged by what the disk holds by then.
-/

namespace Kasten.Watch

/-- `isPresent` tells whether the directory was there when last heard of. -/
structure Watcher where
  root : String
  isPresent : Bool
deriving DecidableEq, Repr

namespace Watcher

/-- Lists the directory anew. -/
def scan (w : Watcher) (d : Disk) : Watcher × List Event :=
  match d.listZettel w.root with
  | .ok names => ({ w with isPresent := true }, Event.scan names)
  | .error error =>
    if error.isMissingFile then ({ w with isPresent := false }, [.destroy])
    else ({ w with isPresent := d.isFolder w.root }, [.error error.message])

/-- Only what exists can be watched. -/
def start (root : String) (d : Disk) : Except StoreError (Watcher × List Event) :=
  match d.resolve root with
  | .error fault => .error (.file ("resolve " ++ root) fault)
  | .ok plain =>
    if (d.lookup plain).isNone then .error (.file ("resolve " ++ root) .missing)
    else .ok (scan ⟨plain, true⟩ d)

/-- What a file of the directory is worth reporting. A file that is gone by now was deleted. -/
def seeFile (d : Disk) (path name : String) (happening : Disk.Happening) : List Event :=
  if !FileName.isZettelFile name then []
  else if happening = .vanished then [.delete name]
  else
    match d.item? path with
    | some (.file _) => [.update name]
    | some .folder => []
    | none => [.delete name]

/-- Judges one sighting. -/
def see (w : Watcher) (d : Disk) (s : Disk.Sighting) : Watcher × List Event :=
  if s.path = w.root then
    match s.happening with
    | .vanished => ({ w with isPresent := false }, if w.isPresent then [.destroy] else [])
    | .appeared => if d.isFolder w.root then w.scan d else (w, [])
    | .changed => (w, [])
  else
    match Disk.childName? w.root s.path with
    | some name => (w, seeFile d s.path name s.happening)
    | none => (w, [])

/-- Judges sightings one after another. -/
def seeAll (w : Watcher) (d : Disk) (sightings : List Disk.Sighting) : Watcher × List Event :=
  sightings.foldl (fun (w, events) s =>
    let (w, more) := w.see d s
    (w, events ++ more)) (w, [])

/-- Takes in a notice. -/
def hear (w : Watcher) (d : Disk) (n : Disk.Notice) : Watcher × List Event :=
  w.seeAll d (n.sightings d.isThere)

end Watcher

end Kasten.Watch
