import Kasten.Archive.Basic
import Kasten.Watch.Poller
import Kasten.Watch.Watcher

/-!
# Notifiers

A notifier follows one directory or archive and reports events. A poller lists its directory at
regular times, a watcher follows what is seen to happen, and an archive is listed only when asked
for. Times are in milliseconds.
-/

namespace Kasten.Watch

/-- A poller lists again when its time is due. -/
inductive Notifier where
  | polling (path : String) (interval : Nat) (poller : Poller) (due : Nat)
  | watching (watcher : Watcher)
  | archive (path : String)
deriving DecidableEq, Repr

namespace Notifier

/-- One listing of a polled directory; the next one is due an interval later. -/
def pollOnce (path : String) (interval : Nat) (poller : Poller) (now : Nat) (d : Disk) :
    Notifier × List Event :=
  let (poller, events) := poller.poll (d.listZettel path)
  (polling path interval poller (now + interval), events)

/-- What a listing of an archive is reported as. -/
def archiveEvents : Listing → List Event
  | .ok names => Event.scan names
  | .error error => [.error error.message]

def startPolling (path : String) (interval now : Nat) (d : Disk) : Notifier × List Event :=
  pollOnce path interval .new now d

def startWatching (path : String) (d : Disk) : Except StoreError (Notifier × List Event) :=
  (Watcher.start path d).map fun (w, events) => (watching w, events)

def startArchive (path : String) (d : Disk) : Notifier × List Event :=
  (archive path, archiveEvents (Archive.listZettel d path))

/-- Lists anew at once. -/
def refresh (n : Notifier) (now : Nat) (d : Disk) : Notifier × List Event :=
  match n with
  | polling path interval poller _ => pollOnce path interval poller now d
  | watching w =>
    let (w, events) := w.scan d
    (watching w, events)
  | archive path => startArchive path d

/-- Time has passed. -/
def tick (n : Notifier) (now : Nat) (d : Disk) : Notifier × List Event :=
  match n with
  | polling path interval poller due =>
    if due ≤ now then pollOnce path interval poller now d else (n, [])
  | n => (n, [])

/-- Something happened to files; only a watcher sees it. -/
def see (n : Notifier) (d : Disk) (sightings : List Disk.Sighting) : Notifier × List Event :=
  match n with
  | watching w =>
    let (w, events) := w.seeAll d sightings
    (watching w, events)
  | n => (n, [])

end Notifier

end Kasten.Watch
