import Kasten.Index.Tables

/-!
# What the tables hold, as text

A listing of all tables in order of identifiers and words, and a list of everything in them that
does not fit together.
-/

namespace Kasten.Index.Tables

/-! ## 1. Listing -/

def line (parts : List String) : String := String.join parts ++ "\n"

def sliceLine (title : String) (s : ZidSlice) : String :=
  if s.isEmpty then "" else line ["* ", title, ": ", s.text]

def textsLine (title : String) (texts : List String) : String :=
  if texts.isEmpty then "" else line ["* ", title, ": ", " ".intercalate texts]

def nodeLines (z : Zid) (n : Node) : String :=
  line ["=== ", z.text] ++ sliceLine "dead" n.dead ++ sliceLine "forward" n.forward ++
    sliceLine "backward" n.backward ++
    String.join (n.typed.toList.map fun (key, refs) =>
      sliceLine s!"meta {key} forward" refs.forward ++
        sliceLine s!"meta {key} backward" refs.backward) ++
    textsLine "words" n.words ++ textsLine "urls" n.urls ++
    (if n.tags = "" then "" else line ["* itags: ", n.tags])

def tableLines (title : String) (rows : List (String × ZidSlice)) : String :=
  if rows.isEmpty then ""
  else line ["==== ", title] ++ String.join (rows.map fun (name, s) => line [name, ": ", s.text])

def dump (t : Tables) : String :=
  String.join (t.nodes.toList.map fun (z, n) => nodeLines z n) ++
    tableLines "Dead references" (t.dead.toList.map fun (z, s) => (z.text, s)) ++
    tableLines "Words" t.words.toList ++ tableLines "URLs" t.urls.toList

/-! ## 2. Problems -/

/-- The message if the condition fails. -/
def require (condition : Bool) (message : String) : List String :=
  if condition then [] else [message]

/-- The references of a zettel that are not known at their other end. -/
def edgeProblems (t : Tables) (z : Zid) (n : Node) : List String :=
  (n.forward.ids.flatMap fun target =>
      require ((t.node target).backward.contains z) s!"{z}: forward {target} lacks backward") ++
    (n.backward.ids.flatMap fun source =>
      require ((t.node source).forward.contains z) s!"{z}: backward {source} lacks forward") ++
    n.dead.ids.flatMap fun target =>
      require ((t.dead.getD target ∅).contains z) s!"{z}: dead {target} lacks inverse"

def typedProblems (t : Tables) (z : Zid) (key : String) (refs : Refs) : List String :=
  let other (a : Zid) : Refs := (t.node a).typed.getD key Refs.empty
  (refs.forward.ids.flatMap fun target =>
      require ((other target).backward.contains z) s!"{z}: meta {key} {target} lacks backward") ++
    refs.backward.ids.flatMap fun source =>
      require ((other source).forward.contains z) s!"{z}: meta {key} {source} lacks forward"

def nodeProblems (t : Tables) (z : Zid) (n : Node) : List String :=
  require (!n.isEmpty) s!"{z}: empty entry" ++
    require (decide n.dead.Ascending) s!"{z}: dead not ascending" ++
    require (decide n.forward.Ascending) s!"{z}: forward not ascending" ++
    require (decide n.backward.Ascending) s!"{z}: backward not ascending" ++
    t.edgeProblems z n ++
    (n.typed.toList.flatMap fun (key, refs) => t.typedProblems z key refs) ++
    n.words.flatMap fun word =>
      require ((t.words.getD word ∅).contains z) s!"{z}: word {word} not inverted"

/-- Everything in the tables that does not fit together. -/
def problems (t : Tables) : List String :=
  (t.nodes.toList.flatMap fun (z, n) => t.nodeProblems z n) ++
    (t.dead.toList.flatMap fun (target, sources) =>
      sources.ids.flatMap fun source =>
        require ((t.node source).dead.contains target) s!"dead {target}: source {source} lacks entry") ++
    t.words.toList.flatMap fun (word, row) =>
      row.ids.flatMap fun z =>
        require ((t.node z).words.contains word) s!"word {word}: {z} lacks entry"

end Kasten.Index.Tables
