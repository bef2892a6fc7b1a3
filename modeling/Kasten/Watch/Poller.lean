import Kasten.Catalog.Event
import Kasten.Error

/-!
# Polling a directory

A poller lists its directory again and again and reports each listing as a whole scan. That the
directory is gone is reported once, until a listing succeeds again.
-/

namespace Kasten.Watch

/-- What a directory or an archive was found to hold. -/
abbrev Listing := Except StoreError (List String)

/-- `sawMissing` tells that no listing succeeded since the directory was found missing. -/
structure Poller where
  sawMissing : Bool
deriving DecidableEq, Repr

namespace Poller

def new : Poller := ⟨false⟩

/-- Takes in one listing. Other failures than a missing directory are reported each time. -/
def poll (p : Poller) : Listing → Poller × List Event
  | .ok names => (⟨false⟩, Event.scan names)
  | .error error =>
    if error.isMissingFile then (⟨true⟩, if p.sawMissing then [] else [.destroy])
    else (p, [.error error.message])

end Poller

end Kasten.Watch
