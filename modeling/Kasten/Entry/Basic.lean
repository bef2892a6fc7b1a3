import Kasten.Entry.FileName

/-!
# Directory entries

The files of one zettel and the part that each plays. There is at most one file for the content
and one for the metadata; files that lost against a better one are kept on a list, so that they
are removed along with the zettel. An empty name stands for no file.
-/

namespace Kasten

structure Entry where
  zid : Zid
  metaName : String
  contentName : String
  contentExt : String
  useless : List String
deriving DecidableEq, Repr, Inhabited

namespace Entry

def new (zid : Zid) : Entry := ⟨zid, "", "", "", []⟩

/-- The content file also holds the metadata. -/
def hasMetaInContent (e : Entry) : Bool := e.contentExt == FileName.zettelExt

def isLive (e : Entry) : Bool := e.metaName != "" || e.contentName != ""

/-- Every file of the entry, in the order of removal. -/
def files (e : Entry) : List String :=
  (if e.contentName = "" then [] else [e.contentName]) ++
    (if e.metaName = "" then [] else [e.metaName]) ++ e.useless

/-- Puts a file on the list of those passed over, unless it is there already. Gives the name back
if it is new. -/
def passOver (e : Entry) (name : String) : Entry × List String :=
  if e.useless.contains name then (e, []) else ({ e with useless := e.useless ++ [name] }, [name])

/-! ## 1. A file appears -/

def addMeta (e : Entry) (name : String) : Entry × List String :=
  if e.metaName = "" then ({ e with metaName := name }, [])
  else if e.metaName = name then (e, [])
  else if FileName.isBetterName e.metaName name then
    { e with metaName := name }.passOver e.metaName
  else e.passOver name

/-- The metadata file is passed over, if there is one. -/
def dropMeta (e : Entry) : Entry × List String :=
  if e.metaName = "" then (e, []) else { e with metaName := "" }.passOver e.metaName

def addContent (e : Entry) (name ext : String) : Entry × List String :=
  if e.contentName = "" then
    let e := { e with contentName := name, contentExt := ext }
    if ext = FileName.zettelExt then e.dropMeta else (e, [])
  else if e.contentName = name then (e, [])
  else if e.contentExt = ext then
    if FileName.isBetterName e.contentName name then
      { e with contentName := name }.passOver e.contentName
    else e.passOver name
  else if e.hasMetaInContent then e.passOver name
  else if ext = FileName.zettelExt then
    let (placed, passed) := { e with contentName := name, contentExt := ext }.passOver e.contentName
    let (placed, more) := placed.dropMeta
    (placed, passed ++ more)
  else if FileName.isBetterExt e.contentExt ext then
    { e with contentName := name, contentExt := ext }.passOver e.contentName
  else e.passOver name

/-- Takes in a file that was seen. Gives the names that were newly passed over. -/
def add (e : Entry) (name : String) : Entry × List String :=
  let ext := FileName.ext name
  if !e.hasMetaInContent && (ext == "" || ext == FileName.metaExt) then e.addMeta name
  else e.addContent name ext

def addAll (e : Entry) (names : List String) : Entry :=
  names.foldl (fun e name => (e.add name).1) e

/-! ## 2. A file vanishes -/

/-- Takes in anew all files that were passed over. Gives those that now play a part. -/
def reconsider (e : Entry) : Entry × List String :=
  let e' := { e with useless := [] }.addAll e.useless
  (e', e.useless.filter fun name => !e'.useless.contains name)

/-- Takes out a file that vanished. If it played a part, the files passed over have another try. -/
def remove (e : Entry) (name : String) : Entry × List String :=
  if e.useless.contains name then ({ e with useless := e.useless.erase name }, [])
  else if name = e.contentName then { e with contentName := "", contentExt := "" }.reconsider
  else if name = e.metaName then { e with metaName := "" }.reconsider
  else (e, [])

/-! ## 3. A zettel is written -/

/-- Chooses the files for a zettel about to be written. Content that is there stays where it is
and gains a metadata file if it needs one. New content goes into a file named after its syntax;
unless that file holds the metadata too, they go into a file without extension. -/
def prepare (e : Entry) (m : Meta) (zettelSyntaxes : List String) : Entry :=
  if e.contentName ≠ "" then
    if !e.hasMetaInContent && e.metaName == "" then
      { e with metaName := FileName.base e.contentName e.contentExt }
    else e
  else
    let ext := FileName.extOfSyntax (m.getD Key.syntaxName Meta.defaultSyntax) m.yamlSep zettelSyntaxes
    let e :=
      if ext = FileName.zettelExt then e.dropMeta.1
      else if e.metaName = "" then { e with metaName := e.zid.text }
      else e
    { e with contentName := e.zid.text ++ "." ++ ext, contentExt := ext }

/-- The entry under another identifier. Files that were passed over stay behind. -/
def renamed (e : Entry) (new : Zid) : Entry :=
  { zid := new
    metaName := FileName.rename e.metaName e.zid new
    contentName := FileName.rename e.contentName e.zid new
    contentExt := e.contentExt
    useless := [] }

end Entry

end Kasten
