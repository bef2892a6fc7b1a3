import Kasten.Box.Directory
import Kasten.Proofs.Catalog.Stock
import Kasten.Proofs.Program

/-!
# What a directory box can come to

Started and stopped, told of files, and asked to store, move and remove zettel, with whatever
faults of the disk, a directory box keeps to entries that came about by its files or by itself.
-/

namespace Kasten

namespace Box.Feed

/-- The entries of the feed came about by files of one directory or by changes made by hand. -/
structure Stocked (f : Feed) : Prop where
  service : f.service.Stocked
  notifier : ∀ n ∈ f.notifier, n.IsOfDirectory

variable {f : Feed}

theorem stocked_new (origin : String) : (new origin).Stocked :=
  ⟨⟨Service.stocked_none, Service.stocked_none⟩, nofun⟩

namespace Stocked

theorem hear {told : Watch.Notifier × List Event} (h : f.Stocked)
    (htold : Watch.Notifier.Tells told) : (f.hear told).1.Stocked := by
  refine ⟨h.service.send htold.events, ?_⟩
  intro n hn
  cases hn
  exact htold.notifier

theorem start {told : Watch.Notifier × List Event} {feed : Feed × List Change} (h : f.Stocked)
    (htold : Watch.Notifier.Tells told) (hs : f.start told = .ok feed) : feed.1.Stocked := by
  unfold Feed.start at hs
  split at hs
  next service hservice =>
    cases hs
    have hstarted : ({ f with service } : Feed).Stocked := ⟨h.service.start hservice, h.notifier⟩
    exact hstarted.hear htold
  next => cases hs

theorem stop (h : f.Stocked) : f.stop.Stocked :=
  ⟨h.service.stop, nofun⟩

theorem refresh (h : f.Stocked) (now : Nat) (d : Disk) : (f.refresh now d).1.Stocked := by
  unfold Feed.refresh
  dsimp only
  split
  next => exact h
  next n hn => exact h.hear (Watch.Notifier.tells_refresh (h.notifier n hn) now d)

theorem tick (h : f.Stocked) (now : Nat) (d : Disk) : (f.tick now d).1.Stocked := by
  unfold Feed.tick
  split
  next => exact h
  next n hn => exact h.hear (Watch.Notifier.tells_tick (h.notifier n hn) now d)

theorem see (h : f.Stocked) (d : Disk) (sightings : List Disk.Sighting) :
    (f.see d sightings).1.Stocked := by
  unfold Feed.see
  split
  next => exact h
  next n hn => exact h.hear (Watch.Notifier.tells_see (h.notifier n hn) d sightings)

end Stocked

end Box.Feed

theorem Service.Stocked.restore {s s' : Service} {old : Entry} {new : Zid} (h : s.Stocked)
    (hold : old.Arisen old.zid) (hr : DirBox.restore s old new = .ok s') : s'.Stocked := by
  rcases exists_of_bind_eq_ok hr with ⟨dropped, hdrop, hput⟩
  exact (h.drop hdrop).put hold hput

namespace DirBox

/-! ## 1. The steps of a rename -/

/-- What is left to do when the new files are written, or could not be written. -/
def renameWritten (b : DirBox) (cur new : Zid) (old : Entry) (s : Service) :
    Except StoreError Unit → FileWork (Outcome Unit)
  | .error error => .done ({ b with service := s }.commit (restore s old new) (.error error) [])
  | .ok _ =>
    .ask (.deleteFiles old) fun reply =>
      .done (b.commit (.ok s) reply [(.onDelete, cur), (.onZettel, new)])

/-- What is left to do when the zettel is read, or could not be read. -/
def renameRead (b : DirBox) (cur new : Zid) (old : Entry) :
    Except StoreError Zettel → FileWork (Outcome Unit)
  | .error error => .done (b.fail error)
  | .ok z =>
    match b.service.rename old new with
    | .error error => .done (b.fail error)
    | .ok (e, s) =>
      .ask (.setZettel e ⟨{ z.metadata with zid := new }, z.content⟩)
        (b.renameWritten cur new old s)

/-- A rename fails at once, has nothing to do, or reads the zettel first. -/
theorem rename_cases (b : DirBox) (cur new : Zid) :
    (∃ error, b.rename cur new = .done (b.fail error)) ∨
    cur = new ∧ b.rename cur new = .done ⟨.ok (), b, []⟩ ∨
    ∃ old, new.isValid = true ∧ b.service.liveEntry cur = .ok old ∧
      b.rename cur new = .ask (.getZettel old) (b.renameRead cur new old) := by
  unfold rename
  split
  next error _ => exact .inl ⟨error, rfl⟩
  next =>
    split
    next hsame => exact .inr (.inl ⟨hsame, rfl⟩)
    next =>
      dsimp only
      split
      next error _ => exact .inl ⟨error, rfl⟩
      next old hready =>
        split at hready
        next => cases hready
        next hnew =>
          rw [Bool.not_eq_true', Bool.not_eq_false] at hnew
          rcases exists_of_bind_eq_ok hready with ⟨_, -, hready⟩
          refine .inr (.inr ⟨old, hnew, hready, congrArg (Program.ask _) (funext fun reply => ?_)⟩)
          cases reply with
          | error error => rfl
          | ok z =>
            unfold renameRead
            dsimp only
            cases b.service.rename old new with
            | error error => rfl
            | ok moved =>
              refine congrArg (Program.ask _) (funext fun reply => ?_)
              cases reply <;> rfl

/-- The zettel is written anew only if its entry could be moved. -/
theorem renameRead_cases (b : DirBox) (cur new : Zid) (old : Entry) (z : Zettel) :
    (∃ error, b.renameRead cur new old (.ok z) = .done (b.fail error)) ∨
    ∃ s, b.service.rename old new = .ok (old.renamed new, s) ∧
      b.renameRead cur new old (.ok z) =
        .ask (.setZettel (old.renamed new) ⟨{ z.metadata with zid := new }, z.content⟩)
          (b.renameWritten cur new old s) := by
  unfold renameRead
  dsimp only
  cases hrename : b.service.rename old new with
  | error error => exact .inl ⟨error, rfl⟩
  | ok moved =>
    rcases moved with ⟨e, s⟩
    rcases Service.rename_eq hrename with ⟨-, -, rfl, -⟩
    exact .inr ⟨s, rfl, rfl⟩

/-! ## 2. All that can happen -/

/-- What may become of a box, whatever the disks hold that it is run on. -/
inductive Reached : DirBox → Prop where
  | new (config : DirBoxConfig) : Reached (new config)
  | start {b : DirBox} (h : Reached b) (now : Nat) (d : Disk) : Reached (b.start now d).1.box
  | stop {b : DirBox} (h : Reached b) : Reached b.stop
  | refresh {b : DirBox} (h : Reached b) (now : Nat) (d : Disk) :
      Reached { b with toFeed := (b.toFeed.refresh now d).1 }
  | tick {b : DirBox} (h : Reached b) (now : Nat) (d : Disk) :
      Reached { b with toFeed := (b.toFeed.tick now d).1 }
  | see {b : DirBox} (h : Reached b) (d : Disk) (sightings : List Disk.Sighting) :
      Reached { b with toFeed := (b.toFeed.see d sightings).1 }
  | create {b : DirBox} (h : Reached b) (now : Time) (z : Zettel) (d : Files.SlowDisk) :
      Reached (b.run (b.create now z) d).1.box
  | update {b : DirBox} (h : Reached b) (z : Zettel) (d : Files.SlowDisk) :
      Reached (b.run (b.update z) d).1.box
  | rename {b : DirBox} (h : Reached b) (cur new : Zid) (d : Files.SlowDisk) :
      Reached (b.run (b.rename cur new) d).1.box
  | delete {b : DirBox} (h : Reached b) (zid : Zid) (d : Files.SlowDisk) :
      Reached (b.run (b.delete zid) d).1.box

variable {b : DirBox} {e : Entry} {zid : Zid}

def Stocked (b : DirBox) : Prop := b.toFeed.Stocked

namespace Stocked

theorem withService (h : b.Stocked) {s : Service} (hs : s.Stocked) :
    ({ b with service := s } : DirBox).Stocked :=
  ⟨hs, h.notifier⟩

theorem start (h : b.Stocked) (now : Nat) (d : Disk) : (b.start now d).1.box.Stocked := by
  unfold DirBox.start
  split
  next => exact h
  next d _ =>
    split
    next => exact h
    next source hsource =>
      have htold : Watch.Notifier.Tells source := by
        unfold startNotifier at hsource
        split at hsource
        next => exact Watch.Notifier.tells_startWatching hsource
        next =>
          cases hsource
          exact Watch.Notifier.tells_pollOnce _ _ _ _ _
      dsimp only
      split
      next => exact h
      next feed changes hfeed => exact Box.Feed.Stocked.start (f := b.toFeed) h htold hfeed

theorem commit {α : Type} {service : Except StoreError Service} (h : b.Stocked)
    (hs : ∀ s, service = .ok s → s.Stocked) (answer : Except StoreError α)
    (changes : List (Reason × Zid)) : (b.commit service answer changes).box.Stocked := by
  cases service with
  | error error => exact h
  | ok s => exact h.withService (hs s rfl)

theorem create (h : b.Stocked) (now : Time) (z : Zettel) :
    (b.create now z).Always fun o => o.box.Stocked := by
  unfold DirBox.create
  dsimp only
  split
  next => exact h
  next zid service hready =>
    rcases exists_of_bind_eq_ok hready with ⟨_, -, hready⟩
    rcases exists_of_bind_eq_ok hready with ⟨_, -, hreserve⟩
    have hservice : service.Stocked := h.service.reserve hreserve
    have hb := h.withService hservice
    -- The reserved identifier is given up if the files cannot be written, else its entry is the
    -- prepared one.
    intro reply
    cases reply with
    | error error => exact hb.commit (fun s hs => hservice.drop hs) _ _
    | ok _ =>
      refine hb.commit (fun s hs => hservice.put ?_ hs) _ _
      exact ((Entry.Arisen.reserved zid).prepared _ _).own

theorem update (h : b.Stocked) (z : Zettel) :
    (b.update z).Always fun o => o.box.Stocked := by
  have hold := Service.arisen_getD h.service.catalog z.zid
  unfold DirBox.update
  dsimp only
  split
  next => exact h
  next =>
    -- The entry is put into the catalog only when its files were written.
    intro reply
    cases reply with
    | error error => exact h
    | ok _ => exact h.commit (fun s hs => h.service.put (hold.prepared _ _).own hs) _ _

theorem rename (h : b.Stocked) (cur new : Zid) :
    (b.rename cur new).Always fun o => o.box.Stocked := by
  rcases rename_cases b cur new with ⟨error, heq⟩ | ⟨-, heq⟩ | ⟨old, -, hlive, heq⟩
  · rw [heq]
    exact h
  · rw [heq]
    exact h
  rw [heq]
  intro reply
  cases reply with
  | error error => exact h
  | ok z =>
    rcases renameRead_cases b cur new old z with ⟨error, heq⟩ | ⟨s, hrename, heq⟩
    · rw [heq]
      exact h
    -- Up to this reply nothing has changed but the catalog, so that can be undone.
    · have hold : old.Arisen cur := h.service.liveEntry hlive
      have hservice : s.Stocked := (h.service.rename hold hrename).2
      rw [heq]
      intro reply
      cases reply with
      | error error =>
        exact (h.withService hservice).commit (fun s' hs => hservice.restore hold.own hs) _ _
      | ok _ => exact fun reply => h.commit (fun s' hs => Except.ok.inj hs ▸ hservice) _ _

theorem delete (h : b.Stocked) (zid : Zid) :
    (b.delete zid).Always fun o => o.box.Stocked := by
  unfold DirBox.delete
  dsimp only
  split
  next => exact h
  next e service hready =>
    rcases exists_of_bind_eq_ok hready with ⟨_, -, hready⟩
    rcases exists_of_bind_eq_ok hready with ⟨_, -, hready⟩
    rcases exists_of_bind_eq_ok hready with ⟨found, hlive, hready⟩
    rcases exists_of_bind_eq_ok hready with ⟨dropped, hdrop, hready⟩
    cases hready
    have hservice : service.Stocked := h.service.drop hdrop
    have hb := h.withService hservice
    -- The entry has left the catalog before its files are gone, and comes back if they stay.
    intro reply
    cases reply with
    | error error =>
      exact hb.commit (fun s hs => hservice.put (h.service.liveEntry hlive).own hs) _ _
    | ok _ => exact hb

end Stocked

theorem stocked_new (config : DirBoxConfig) : (new config).Stocked :=
  Box.Feed.stocked_new config.location

theorem Reached.stocked (h : b.Reached) : b.Stocked := by
  -- By induction over what was done to the box; a program keeps it whatever it is replied.
  induction h with
  | new config => exact stocked_new config
  | start h now d ih => exact ih.start now d
  | stop h ih => exact Box.Feed.Stocked.stop ih
  | refresh h now d ih => exact Box.Feed.Stocked.refresh ih now d
  | tick h now d ih => exact Box.Feed.Stocked.tick ih now d
  | see h d sightings ih => exact Box.Feed.Stocked.see ih d sightings
  | create h now z d ih => exact (ih.create now z).run _ d
  | update h z d ih => exact (ih.update z).run _ d
  | rename h cur new d ih => exact (ih.rename cur new).run _ d
  | delete h zid d ih => exact (ih.delete zid).run _ d

end DirBox

end Kasten
