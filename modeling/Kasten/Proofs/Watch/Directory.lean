import Kasten.Proofs.Disk.Listing

/-!
# Notifiers and the directory they follow

A poller keeps the path that it was given, a watcher the plain path that this led to when the
watcher was started. Either lists the directory when it is told to, and reports a whole scan.
-/

namespace Kasten.Watch

variable {d : Disk} {dir : String} {names : List String}

/-! ## 1. Watchers stay at their root -/

namespace Watcher

theorem root_scan (w : Watcher) (d : Disk) : (w.scan d).1.root = w.root := by
  unfold scan
  split
  next => rfl
  next =>
    split
    · rfl
    · rfl

theorem root_see (w : Watcher) (d : Disk) (s : Disk.Sighting) : (w.see d s).1.root = w.root := by
  unfold see
  by_cases hroot : s.path = w.root
  · rw [if_pos hroot]
    cases s.happening with
    | vanished => rfl
    | appeared =>
      dsimp only
      split
      · exact w.root_scan d
      · rfl
    | changed => rfl
  · rw [if_neg hroot]
    cases Disk.childName? w.root s.path with
    | some name => rfl
    | none => rfl

theorem root_seeAll (w : Watcher) (d : Disk) (sightings : List Disk.Sighting) :
    (w.seeAll d sightings).1.root = w.root := by
  induction sightings generalizing w with
  | nil => rfl
  | cons s rest ih =>
    rw [seeAll_cons]
    exact (ih (w.see d s).1).trans (w.root_see d s)

theorem scan_snd {w : Watcher} (h : d.listZettel w.root = .ok names) :
    (w.scan d).2 = Event.scan names := by
  unfold scan
  rw [h]

end Watcher

/-! ## 2. All notifiers -/

namespace Notifier

def Follows (dir : String) : Notifier → Prop
  | polling path _ _ _ => path = dir
  | watching w => ∃ d : Disk, d.resolve dir = .ok w.root
  | archive _ => False

theorem follows_startWatching {told : Notifier × List Event}
    (h : startWatching dir d = .ok told) : told.1.Follows dir := by
  unfold startWatching Watcher.start at h
  split at h
  next => cases h
  next plain hresolve =>
    split at h
    next => cases h
    next =>
      cases h
      exact ⟨d, hresolve.trans (congrArg Except.ok (Watcher.root_scan ⟨plain, true⟩ d).symm)⟩

theorem startPolling_snd (h : d.listZettel dir = .ok names) (interval now : Nat) :
    (startPolling dir interval now d).2 = Event.scan names := by
  unfold startPolling pollOnce
  rw [h]
  rfl

theorem exists_startWatching (h : d.listZettel dir = .ok names) (hfolder : d.isFolder dir = true) :
    ∃ told, startWatching dir d = .ok told ∧ told.2 = Event.scan names := by
  unfold Disk.isFolder Disk.item? at hfolder
  cases hresolve : d.resolve dir with
  | error fault =>
    rw [hresolve] at hfolder
    cases hfolder
  | ok plain =>
    rw [hresolve] at hfolder
    have hlookup : d.lookup plain = some .folder := beq_iff_eq.mp hfolder
    have hscan := Watcher.scan_snd (w := ⟨plain, true⟩) (Disk.listZettel_plain hresolve h)
    unfold startWatching Watcher.start
    rw [hresolve]
    dsimp only
    rw [hlookup]
    exact ⟨_, rfl, hscan⟩

variable {n : Notifier} (h : n.Follows dir)

include h

theorem follows_refresh (now : Nat) (d : Disk) : (n.refresh now d).1.Follows dir := by
  cases n with
  | polling path interval poller due => exact h
  | watching w =>
    rcases h with ⟨old, hroot⟩
    exact ⟨old, hroot.trans (congrArg Except.ok (w.root_scan d).symm)⟩
  | archive path => exact absurd h id

theorem follows_tick (now : Nat) (d : Disk) : (n.tick now d).1.Follows dir := by
  cases n with
  | polling path interval poller due =>
    show Follows dir (if due ≤ now then pollOnce path interval poller now d else _).1
    split
    · exact h
    · exact h
  | watching w => exact h
  | archive path => exact absurd h id

theorem follows_see (d : Disk) (sightings : List Disk.Sighting) :
    (n.see d sightings).1.Follows dir := by
  cases n with
  | polling path interval poller due => exact h
  | watching w =>
    rcases h with ⟨old, hroot⟩
    exact ⟨old, hroot.trans (congrArg Except.ok (w.root_seeAll d sightings).symm)⟩
  | archive path => exact absurd h id

/-- Told to refresh, a notifier reports what its directory lists. -/
theorem refresh_snd (hlist : d.listZettel dir = .ok names) (now : Nat) :
    (n.refresh now d).2 = Event.scan names := by
  cases n with
  | polling path interval poller due =>
    cases h
    unfold refresh pollOnce
    dsimp only
    rw [hlist]
    rfl
  | watching w =>
    rcases h with ⟨old, hroot⟩
    exact Watcher.scan_snd (Disk.listZettel_plain hroot hlist)
  | archive path => exact absurd h id

end Notifier

end Kasten.Watch
