import Kasten.Box.Basic
import Kasten.Index.Indexer

/-!
# Sessions

A session is a box at work: on a disk, with a clock and with an indexer that hears of its changes.
After each request everything that can happen without more time does happen. Times are in
milliseconds.
-/

namespace Kasten

/-- `published` are the changes published so far, the latest last. Metadata is enriched from the
index on its way out only if the session `enriches`. -/
structure Session where
  now : Nat
  disk : Files.SlowDisk
  box : Box
  indexer : Index.Indexer
  published : List Change
  enriches : Bool

namespace Session

def new (disk : Disk) (box : Box) (config : IndexerConfig) (enriches : Bool) : Session :=
  { now := 0
    disk := ⟨disk, 0⟩
    box
    indexer := .new config Index.Scan.markup
    published := []
    enriches }

/-! ## 1. What happens by itself -/

def publish (s : Session) (changes : List Change) : Session :=
  { s with published := s.published ++ changes, indexer := s.indexer.receive changes }

/-- What the indexer reads while it works. -/
def source : Index.Source (Box × Files.SlowDisk) where
  get z := fun (box, d) =>
    let result := box.get z d
    (result.answer, (result.box, result.disk))
  has z := fun (box, _) => box.has z
  list := fun (box, d) =>
    let (answer, box) := box.list fun _ => true
    (answer, (box, d))

/-- Lets the indexer work. -/
def runIndexer (s : Session) : Session :=
  let (indexer, (box, disk)) := s.indexer.run source s.now s.box.size (s.box, s.disk)
  { s with indexer, box, disk }

def withFeed (s : Session) (f : Box.Feed → Box.Feed × List Change) : Session :=
  let (box, changes) := s.box.withFeed f
  { s with box }.publish changes

/-- Everything that can happen by now happens: the notifier first, the indexer last. -/
def settle (s : Session) : Session :=
  (s.withFeed (Box.Feed.tick · s.now s.disk.disk)).runIndexer

/-- The clock goes on; the disk hangs no more. -/
def advance (s : Session) (ms : Nat) : Session :=
  { s with now := s.now + ms, disk := { s.disk with delay := 0 } }

/-- The disk will hang for some time. -/
def stall (s : Session) (ms : Nat) : Session := { s with disk := { s.disk with delay := ms } }

/-- Someone else changes files. -/
def edit (s : Session) (e : Disk.Edit) : Session :=
  let sightings := e.sightings s.disk.disk
  let s := { s with disk := { s.disk with disk := e.apply s.disk.disk } }
  s.withFeed (Box.Feed.see · s.disk.disk sightings)

/-! ## 2. Requests to the box -/

/-- Makes a request and publishes what changed. -/
def request {α : Type} (s : Session) (f : Box → Files.SlowDisk → Box.Result α) :
    Except StoreError α × Session :=
  let result := f s.box s.disk
  (result.answer, { s with box := result.box, disk := result.disk }.publish result.changes)

def start (s : Session) : Except StoreError Unit × Session :=
  s.request fun box d => box.start s.now d

def stop (s : Session) : Session := { s with box := s.box.stop }

def refresh (s : Session) : Session := s.withFeed (Box.Feed.refresh · s.now s.disk.disk)

def list (s : Session) (accept : Zid → Bool) : Except StoreError (List Zid) × Session :=
  let (answer, box) := s.box.list accept
  (answer, { s with box })

/-- Adds what the index knows to metadata. -/
def enrich (s : Session) (m : Meta) : Meta × Session :=
  let (m, store) := s.indexer.store.enrich m
  (m, { s with indexer := { s.indexer with store } })

/-- Enriches metadata one after another. -/
def enrichAll (s : Session) : List Meta → List Meta × Session
  | [] => ([], s)
  | m :: ms =>
    let (m, s) := s.enrich m
    let (ms, s) := s.enrichAll ms
    (m :: ms, s)

/-- The metadata of all zettel that the test accepts, and what ended the reading, if anything. -/
def metas (s : Session) (accept : Zid → Bool) : (List Meta × Option StoreError) × Session :=
  let ((ms, error), disk) := s.box.metas accept s.disk
  let s := { s with disk }
  if s.enriches then
    let (ms, s) := s.enrichAll ms
    ((ms, error), s)
  else ((ms, error), s)

/-! ## 3. The index -/

def startIndexer (s : Session) : Except StoreError Unit × Session :=
  match s.indexer.start with
  | .ok indexer => (.ok (), { s with indexer })
  | .error error => (.error error, s)

/-- Puts a record straight into the index and answers the zettel to look at again. -/
def record (s : Session) (r : Index.Record) : ZidSet × Session :=
  let (waiting, store) := s.indexer.store.update r
  (waiting, { s with indexer := { s.indexer with store } })

end Session

end Kasten
