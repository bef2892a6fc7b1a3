import Kasten.Disk.Basic

/-!
# Edits of the disk

What someone else does to files and directories, and what of it can be seen by whoever watches
their paths.
-/

namespace Kasten.Disk

inductive Edit where
  | write (path : String) (data : Bytes)
  | makeFolder (path : String)
  | clear (path : String)
  | move (old new : String)
deriving DecidableEq, Repr

/-- What is seen to happen to a path. -/
inductive Happening where
  | appeared
  | changed
  | vanished
deriving DecidableEq, Repr

structure Sighting where
  path : String
  happening : Happening
deriving DecidableEq, Repr

/-- Of a renaming the old path, the new one or both of them may be told, or only that there was
one. -/
inductive NoticeKind where
  | created
  | modified
  | removed
  | renamedFrom
  | renamedTo
  | renamedBoth
  | renamed
  | other
deriving DecidableEq, Repr

/-- What a watcher is told of some paths at once. -/
structure Notice where
  kind : NoticeKind
  paths : List String
deriving DecidableEq, Repr

/-- What a notice tells of each path. Where it does not say whether a path is the old or the new
one, this is judged by whether something is there. -/
def Notice.sightings (isThere : String → Bool) (n : Notice) : List Sighting :=
  match n.kind with
  | .renamedBoth =>
    match n.paths with
    | [] => []
    | [old] => [⟨old, .vanished⟩]
    | old :: new :: _ => [⟨old, .vanished⟩, ⟨new, .appeared⟩]
  | .renamedFrom => n.paths.map (⟨·, .vanished⟩)
  | .renamedTo => n.paths.map (⟨·, .appeared⟩)
  | .renamed => n.paths.map fun path => ⟨path, if isThere path then .appeared else .vanished⟩
  | .created => n.paths.map (⟨·, .appeared⟩)
  | .modified => n.paths.map (⟨·, .changed⟩)
  | .removed => n.paths.map (⟨·, .vanished⟩)
  | .other => []

namespace Edit

/-- An edit that cannot be done leaves the disk as it is. -/
def apply (d : Disk) : Edit → Disk
  | write path data => (d.write path data).2
  | makeFolder path => (d.makePath path).2
  | clear path => d.clear path
  | move old new => d.move old new

/-- The paths below another one, in ascending order. -/
def below (d : Disk) (top : String) : List String :=
  d.items.keys.filter fun path => path ≠ top && isBelow path top

/-- What is told of an edit of the disk. A tree is removed from its leaves on, but moved as a
whole. -/
def notices (d : Disk) (edit : Edit) : List Notice :=
  let after := edit.apply d
  if after = d then
    match edit with
    | write path _ => if d.isFile path then [⟨.modified, [path]⟩] else []
    | _ => []
  else
    match edit with
    | write path _ => [⟨if d.isFile path then .modified else .created, [path]⟩]
    | makeFolder _ =>
      (after.items.keys.filter fun path => !d.items.contains path).map (⟨.created, [·]⟩)
    | clear path => (below d path ++ [path]).map (⟨.removed, [·]⟩)
    | move old new => [⟨.renamedBoth, [old, new]⟩]

/-- What is seen of an edit at once. -/
def sightings (d : Disk) (edit : Edit) : List Sighting :=
  (edit.notices d).flatMap (·.sightings (edit.apply d).isThere)

end Edit

end Kasten.Disk
