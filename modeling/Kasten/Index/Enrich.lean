import Kasten.Index.Tables

/-!
# Enriching metadata

Metadata on its way out of a box gains what the index knows: references that are dead, those to
and from other zettel, and tags in the content. A zettel that refers to this one is reported as
`back` unless this one refers to it as well.
-/

namespace Kasten.Index.Tables

def setSlice (m : Meta) (key : String) (s : ZidSlice) : Meta :=
  if s.isEmpty then m else m.set key s.text

/-- The zettel that the stored metadata names under keys for identifiers. -/
def namedIn (m : Meta) : ZidSlice :=
  ZidSlice.ofList (m.userPairs.flatMap fun (key, _) =>
    match (Key.describe key).type with
    | .id | .idSet => m.getZids key
    | _ => [])

/-- The zettel that refer to this one without any other tie to it. -/
def loneBack (m : Meta) (n : Node) : ZidSlice :=
  n.typed.toList.foldl (fun back (_, refs) => back.without refs.backward)
    ((n.backward.without (namedIn m)).without n.forward)

/-- The tags of the metadata and of the content. -/
def allTags (m : Meta) (tags : String) : String :=
  " ".intercalate
    ((m.getList Key.tags ++ Meta.elements tags).foldl (·.insert ·) (∅ : TextSet)).toList

def addTags (m : Meta) (tags : String) : Meta :=
  if tags = "" then
    match m.get? Key.tags with
    | some own => m.set Key.allTags own
    | none => m
  else (m.set Key.contentTags tags).set Key.allTags (allTags m tags)

/-- The metadata with what the index knows of the zettel. -/
def enrichWith (m : Meta) (n : Node) : Meta :=
  let back := loneBack m n
  let m := setSlice m Key.dead n.dead
  let m := setSlice m Key.backward n.backward
  let m := setSlice m Key.forward n.forward
  let m := n.typed.toList.foldl (fun m (key, refs) => setSlice m key refs.backward) m
  let m := setSlice m Key.back back
  addTags m n.tags

/-- Whether enriching adds anything. -/
def enriches (m : Meta) (n : Node) : Bool :=
  !n.dead.isEmpty || !n.backward.isEmpty || !n.forward.isEmpty ||
    (n.typed.toList.any fun (_, refs) => !refs.backward.isEmpty) || n.tags ≠ "" ||
    (m.get? Key.tags).isSome

end Kasten.Index.Tables
