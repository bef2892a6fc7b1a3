import Std.Data.ExtTreeSet
import Kasten.Zid.Slice

/-!
# Sets of identifiers
-/

namespace Kasten

abbrev ZidSet := Std.ExtTreeSet Zid

namespace ZidSet

def ofZids (zs : List Zid) : ZidSet := zs.foldl (·.insert ·) ∅

/-- The identifiers in ascending order. -/
def slice (s : ZidSet) : ZidSlice := ⟨s.toList⟩

def addAll (s : ZidSet) (zs : List Zid) : ZidSet := zs.foldl (·.insert ·) s

/-- The common identifiers; with no set on the left all of the right one count. -/
def meet : Option ZidSet → ZidSet → ZidSet
  | none, other => other
  | some s, other => s.filter other.contains

end ZidSet

end Kasten
