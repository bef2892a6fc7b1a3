import Kasten.Entry.Basic
import Kasten.Meta.Header

/-!
# Metadata that follows from the files

What is known of a zettel whose files hold no metadata, and what is added to the metadata of all.
-/

namespace Kasten.Entry

/-- The metadata that file names alone tell. -/
def impliedMeta (e : Entry) : Meta :=
  ((Meta.new e.zid).set Key.title e.zid.text).set Key.syntaxName
    (FileName.syntaxOfExt e.contentExt)

/-- Adds the syntax if it misses, and names the files that were passed over. -/
def completeMeta (e : Entry) (m : Meta) : Meta :=
  let m :=
    if (m.get? Key.syntaxName).isNone then
      m.set Key.syntaxName (FileName.syntaxOfExt e.contentExt)
    else m
  if e.useless.isEmpty then m else m.set Key.uselessFiles (" ".intercalate e.useless)

/-- The metadata of a file's octets, and what follows the header. -/
def readHeader (e : Entry) (bytes : Bytes) : Meta × Bytes :=
  let (m, rest) := Header.parse e.zid bytes
  (e.completeMeta m, rest)

end Kasten.Entry
