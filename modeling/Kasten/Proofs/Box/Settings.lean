import Kasten.Proofs.Box.Reached
import Kasten.Proofs.Watch.Directory

/-!
# Whatever becomes of a box, it stays with its directory

The path of a directory box is given by its configuration. Its workers and its notifier are started
for that path, and neither operations nor events ever change them for others.
-/

namespace Kasten

namespace Box.Feed

variable {f : Feed} {dir : String}

/-- A notifier of the feed, if there is one, follows the directory. -/
def Follows (dir : String) (f : Feed) : Prop :=
  ∀ n ∈ f.notifier, n.Follows dir

theorem follows_hear {told : Watch.Notifier × List Event} (h : told.1.Follows dir) :
    (f.hear told).1.Follows dir := by
  intro n hn
  cases hn
  exact h

theorem follows_start {told : Watch.Notifier × List Event} {feed : Feed × List Change}
    (h : told.1.Follows dir) (hs : f.start told = .ok feed) : feed.1.Follows dir := by
  unfold start at hs
  split at hs
  next =>
    cases hs
    exact follows_hear h
  next => cases hs

variable (h : f.Follows dir)

include h

theorem follows_refresh (now : Nat) (d : Disk) : (f.refresh now d).1.Follows dir := by
  unfold refresh
  dsimp only
  split
  next => exact h
  next n hn => exact follows_hear (Watch.Notifier.follows_refresh (h n hn) now d)

theorem follows_tick (now : Nat) (d : Disk) : (f.tick now d).1.Follows dir := by
  unfold tick
  split
  next => exact h
  next n hn => exact follows_hear (Watch.Notifier.follows_tick (h n hn) now d)

theorem follows_see (d : Disk) (sightings : List Disk.Sighting) :
    (f.see d sightings).1.Follows dir := by
  unfold see
  split
  next => exact h
  next n hn => exact follows_hear (Watch.Notifier.follows_see (h n hn) d sightings)

end Box.Feed

namespace DirBox

variable {b b' : DirBox}

/-! ## 1. Operations -/

/-- The boxes differ in their services at most. -/
def SameBut (b b' : DirBox) : Prop :=
  ∃ s : Service, b' = { b with service := s }

theorem sameBut_commit {α : Type} (b : DirBox) (service : Except StoreError Service)
    (answer : Except StoreError α) (changes : List (Reason × Zid)) :
    b.SameBut (b.commit service answer changes).box := by
  cases service with
  | error error => exact ⟨b.service, rfl⟩
  | ok s => exact ⟨s, rfl⟩

theorem SameBut.withService {s : Service} (h : SameBut { b with service := s } b') :
    b.SameBut b' := by
  rcases h with ⟨s', rfl⟩
  exact ⟨s', rfl⟩

theorem sameBut_create (b : DirBox) (now : Time) (z : Zettel) :
    (b.create now z).Always fun o => b.SameBut o.box := by
  unfold create
  dsimp only
  split
  next => exact ⟨b.service, rfl⟩
  next zid service hready =>
    intro reply
    cases reply with
    | error error => exact (sameBut_commit { b with service } _ _ _).withService
    | ok _ => exact (sameBut_commit { b with service } _ _ _).withService

theorem sameBut_update (b : DirBox) (z : Zettel) :
    (b.update z).Always fun o => b.SameBut o.box := by
  unfold update
  dsimp only
  split
  next => exact ⟨b.service, rfl⟩
  next =>
    intro reply
    cases reply with
    | error error => exact ⟨b.service, rfl⟩
    | ok _ => exact sameBut_commit b _ _ _

theorem sameBut_rename (b : DirBox) (cur new : Zid) :
    (b.rename cur new).Always fun o => b.SameBut o.box := by
  have hsame : b.SameBut b := ⟨b.service, rfl⟩
  rcases rename_cases b cur new with ⟨error, heq⟩ | ⟨-, heq⟩ | ⟨old, -, -, heq⟩
  · rw [heq]
    exact hsame
  · rw [heq]
    exact hsame
  rw [heq]
  intro reply
  cases reply with
  | error error => exact hsame
  | ok z =>
    rcases renameRead_cases b cur new old z with ⟨error, heq⟩ | ⟨s, -, heq⟩
    · rw [heq]
      exact hsame
    · rw [heq]
      intro reply
      cases reply with
      | error error => exact (sameBut_commit { b with service := s } _ _ _).withService
      | ok _ => exact fun reply => sameBut_commit b _ _ _

theorem sameBut_delete (b : DirBox) (zid : Zid) :
    (b.delete zid).Always fun o => b.SameBut o.box := by
  unfold delete
  dsimp only
  split
  next => exact ⟨b.service, rfl⟩
  next e service hready =>
    intro reply
    cases reply with
    | error error => exact (sameBut_commit { b with service } _ _ _).withService
    | ok _ => exact ⟨service, rfl⟩

/-! ## 2. All that can happen -/

/-- Workers and notifier are those for the configured path. -/
structure Settled (b : DirBox) : Prop where
  pool : b.pool = { (new b.config).pool with isRunning := b.pool.isRunning }
  notifier : b.toFeed.Follows b.path

theorem Settled.dir_eq (h : b.Settled) : b.pool.dir = b.path := by
  rw [h.pool]
  rfl

theorem Settled.sameBut (h : b.Settled) (hsame : b.SameBut b') : b'.Settled := by
  rcases hsame with ⟨s, rfl⟩
  exact ⟨h.pool, h.notifier⟩

theorem follows_startNotifier {now : Nat} {d : Disk} {told : Watch.Notifier × List Event}
    (h : b.startNotifier now d = .ok told) : told.1.Follows b.path := by
  unfold startNotifier at h
  split at h
  next => exact Watch.Notifier.follows_startWatching h
  next =>
    cases h
    rfl

theorem Settled.start (h : b.Settled) (now : Nat) (d : Disk) : (b.start now d).1.box.Settled := by
  have hrunning : ({ b with pool := { b.pool with isRunning := true } } : DirBox).Settled := by
    refine ⟨?_, h.notifier⟩
    rw [h.pool]
  unfold DirBox.start
  split
  next => exact h
  next d _ =>
    split
    next => exact h
    next source hsource =>
      dsimp only
      split
      next => exact hrunning
      next feed changes hfeed =>
        exact ⟨hrunning.pool,
          Box.Feed.follows_start (f := b.toFeed) (follows_startNotifier hsource) hfeed⟩

theorem Reached.settled (h : b.Reached) : b.Settled := by
  -- By induction over what was done to the box; operations leave all but the service.
  induction h with
  | new config =>
    have hconfig : (DirBox.new config).config = config := rfl
    refine ⟨?_, nofun⟩
    rw [hconfig]
  | start h now d ih => exact ih.start now d
  | stop h ih =>
    have hpool : ∀ p q : Files.Pool, p = { q with isRunning := p.isRunning } →
        p.stop = { q with isRunning := p.stop.isRunning } := by
      rintro p q hp
      rw [hp]
      rfl
    exact ⟨hpool _ _ ih.pool, nofun⟩
  | refresh h now d ih => exact ⟨ih.pool, Box.Feed.follows_refresh ih.notifier now d⟩
  | tick h now d ih => exact ⟨ih.pool, Box.Feed.follows_tick ih.notifier now d⟩
  | see h d sightings ih => exact ⟨ih.pool, Box.Feed.follows_see ih.notifier d sightings⟩
  | create h now z d ih => exact ih.sameBut ((sameBut_create _ now z).run _ d)
  | update h z d ih => exact ih.sameBut ((sameBut_update _ z).run _ d)
  | rename h cur new d ih => exact ih.sameBut ((sameBut_rename _ cur new).run _ d)
  | delete h zid d ih => exact ih.sameBut ((sameBut_delete _ zid).run _ d)

end DirBox

end Kasten
