import Std.Data.ExtTreeMap
import Kasten.Entry.Basic
import Kasten.Zid.Set

/-!
# Catalogs

A catalog holds one entry for each zettel of which files are known. File names are taken in and
out one by one; a zettel without files has no entry.
-/

namespace Kasten

abbrev Catalog := Std.ExtTreeMap Zid Entry

namespace Catalog

/-- Takes in a file. Names without an identifier are passed over. -/
def addFile (c : Catalog) (name : String) : Catalog :=
  let z := Zid.ofFileName name
  if z.isValid then c.insert z ((c.getD z (Entry.new z)).add name).1 else c

def addFiles (c : Catalog) (names : List String) : Catalog := names.foldl addFile c

/-- Takes out a file. Also tells whether the zettel's entry remains, if there was one. -/
def removeFile (catalog : Catalog) (name : String) : Catalog × Option (Zid × Bool) :=
  let z := Zid.ofFileName name
  match catalog[z]? with
  | none => (catalog, none)
  | some e =>
    let e := (e.remove name).1
    if e.isLive then (catalog.insert z e, some (z, true)) else (catalog.erase z, some (z, false))

/-- The entries whose identifiers the test accepts, in ascending order. -/
def entries (c : Catalog) (accept : Zid → Bool) : List Entry :=
  c.toList.filterMap fun (z, e) => if accept z then some e else none

end Catalog

end Kasten
