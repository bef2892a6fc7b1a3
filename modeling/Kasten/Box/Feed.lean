import Kasten.Catalog.Service
import Kasten.Watch.Notifier

/-!
# Feeds

A feed is a directory service together with the notifier that tells it what happens. Events are
handled as soon as the notifier reports them.
-/

namespace Kasten.Box

structure Feed where
  service : Service
  notifier : Option Watch.Notifier
deriving DecidableEq

namespace Feed

def new (origin : String) : Feed := ⟨.new origin, none⟩

/-- Lets the service handle what the notifier reports. -/
def hear (f : Feed) : Watch.Notifier × List Event → Feed × List Change
  | (notifier, events) =>
    let (service, changes) := f.service.send events
    (⟨service, some notifier⟩, changes)

/-- Starts the service with a notifier. A service that cannot be started keeps the one it has. -/
def start (f : Feed) (source : Watch.Notifier × List Event) :
    Except StoreError (Feed × List Change) :=
  match f.service.start with
  | .ok service => .ok ({ f with service }.hear source)
  | .error error => .error error

def stop (f : Feed) : Feed := ⟨f.service.stop, none⟩

/-- Announces that everything may be different, and lists anew. -/
def refresh (f : Feed) (now : Nat) (d : Disk) : Feed × List Change :=
  let announced := f.service.publish .onReload [Zid.invalid]
  match f.notifier with
  | none => (f, announced)
  | some notifier =>
    let (f, changes) := f.hear (notifier.refresh now d)
    (f, announced ++ changes)

/-- Time has passed. -/
def tick (f : Feed) (now : Nat) (d : Disk) : Feed × List Change :=
  match f.notifier with
  | none => (f, [])
  | some notifier => f.hear (notifier.tick now d)

/-- Something happened to files. -/
def see (f : Feed) (d : Disk) (sightings : List Disk.Sighting) : Feed × List Change :=
  match f.notifier with
  | none => (f, [])
  | some notifier => f.hear (notifier.see d sightings)

end Feed

end Kasten.Box
