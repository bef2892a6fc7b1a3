import Kasten.Meta.Basic
import Kasten.Text.Utf8

/-!
# Zettel

A zettel is its metadata together with its content, which may be any octets.
-/

namespace Kasten

structure Zettel where
  metadata : Meta
  content : Bytes
deriving DecidableEq, Inhabited

namespace Zettel

def zid (z : Zettel) : Zid := z.metadata.zid

end Zettel

namespace Content

/-- Content that is no valid text, or holds a zero octet. -/
def isBinary (content : Bytes) : Bool :=
  content.contains 0 || !Text.Utf8.isValid content

/-- The content as text, with the replacement character for each invalid part. -/
def text (content : Bytes) : List Char :=
  Text.Utf8.decodeLossy content

end Content

end Kasten
