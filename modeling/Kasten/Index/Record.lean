import Std.Data.ExtTreeMap
import Kasten.Index.Scan
import Kasten.Zettel

/-!
# Index records

What the index keeps of one zettel: the zettel it refers to, sorted by kind and by whether they
exist, and its words, URLs and tags. A reference in metadata whose key has an inverse is kept
under that inverse, where the other zettel will report it.
-/

namespace Kasten.Index

structure Record where
  zid : Zid
  dead : ZidSet
  forward : ZidSet
  typed : Std.ExtTreeMap String ZidSet
  words : TextSet
  urls : TextSet
  tags : TextSet

namespace Record

def new (zid : Zid) : Record := ⟨zid, ∅, ∅, ∅, ∅, ∅, ∅⟩

def addDead (r : Record) (z : Zid) : Record := { r with dead := r.dead.insert z }

def addForward (r : Record) (z : Zid) : Record := { r with forward := r.forward.insert z }

def addTyped (r : Record) (key : String) (z : Zid) : Record :=
  { r with typed := r.typed.insert key ((r.typed.getD key ∅).insert z) }

/-- The tags with single spaces between them. -/
def tagText (r : Record) : String :=
  " ".intercalate r.tags.toList

/-! ## Making a record -/

/-- Adds a reference found in metadata. -/
def addTarget (isThere : Zid → Bool) (inverse : Option String) (r : Record) (z : Zid) : Record :=
  if isThere z then
    match inverse with
    | some key => r.addTyped key z
    | none => r.addForward z
  else r.addDead z

/-- Adds a reference found in text. -/
def addLink (isThere : Zid → Bool) (r : Record) (z : Zid) : Record :=
  if isThere z then r.addForward z else r.addDead z

/-- Adds what a metadata pair says: references and URLs to the record, the rest to the findings. -/
def addPair (scan : Scanner) (isThere : Zid → Bool) (m : Meta) :
    Record × ScanResult → String × String → Record × ScanResult
  | (r, found), (key, value) =>
    let description := Key.describe key
    match description.type with
    | .id | .idSet => ((m.getZids key).foldl (addTarget isThere description.inverse) r, found)
    | .markup => (r, found.merge (scan Meta.defaultSyntax value))
    | .url => (if Url.isValid value then { r with urls := r.urls.insert value } else r, found)
    | .tagSet | .wordSet => (r, (Meta.elements value).foldl ScanResult.addWords found)
    | _ => (r, found.addWords value)

/-- Findings in the content, unless it is not meant to be read or is no text. -/
def scanContent (scan : Scanner) (z : Zettel) (found : ScanResult) : ScanResult :=
  let name := z.metadata.getD Key.syntaxName Meta.defaultSyntax
  if name = Meta.noSyntax ∨ Content.isBinary z.content then found
  else found.merge (scan name (String.ofList (Content.text z.content)))

/-- The record of a zettel. The test tells which of the zettel referred to exist. -/
def ofZettel (scan : Scanner) (isThere : Zid → Bool) (z : Zettel) : Record :=
  let (r, found) :=
    z.metadata.userPairs.foldl (addPair scan isThere z.metadata) (new z.zid, ScanResult.empty)
  let found := scanContent scan z found
  let r := found.links.toList.foldl (addLink isThere) r
  { r with
    urls := addTexts r.urls found.urls.toList
    words := addTexts r.words found.words.toList
    tags := addTexts r.tags found.tags.toList }

end Record

end Kasten.Index
