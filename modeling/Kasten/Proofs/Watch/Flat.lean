import Kasten.Watch.Notifier

/-!
# Notifiers of a directory tell of its files only

Whatever a poller or a watcher reports is named without slashes: the names are those of items
directly inside the directory.
-/

namespace Kasten

/-- The event tells of no file outside the directory itself. -/
def Event.IsFlat : Event → Prop
  | list name => '/' ∉ name.toList
  | update name => '/' ∉ name.toList
  | delete name => '/' ∉ name.toList
  | _ => True

namespace Disk

variable {d : Disk} {folder path name : String}

theorem slash_not_mem_childName (h : childName? folder path = some name) : '/' ∉ name.toList := by
  unfold childName? at h
  generalize (if folder = "" then [] else folder.toList ++ ['/']) = start at h
  dsimp only at h
  split at h
  next =>
    -- The path of an item further down has another slash behind the directory.
    split at h
    next => cases h
    next hfree =>
      rw [← Option.some.inj h, String.toList_ofList]
      intro hmem
      exact hfree (.inr (List.contains_iff_mem.mpr hmem))
  next => cases h

theorem slash_not_mem_children (d : Disk) (folder : String) :
    ∀ p ∈ d.children folder, '/' ∉ p.1.toList := by
  intro p hp
  rcases List.mem_filterMap.mp hp with ⟨⟨path, item⟩, -, hchild⟩
  rcases Option.map_eq_some_iff.mp hchild with ⟨name, hname, rfl⟩
  exact slash_not_mem_childName hname

theorem slash_not_mem_list {items : List (String × DiskItem)} (h : d.list path = .ok items) :
    ∀ p ∈ items, '/' ∉ p.1.toList := by
  unfold list at h
  split at h
  next => cases h
  next plain _ =>
    split at h
    next => cases h
    next =>
      split at h
      next => cases h
      next =>
        cases h
        exact fun p hp => absurd hp List.not_mem_nil
    next =>
      cases h
      exact d.slash_not_mem_children plain

theorem slash_not_mem_listZettel {names : List String} (h : d.listZettel path = .ok names) :
    ∀ n ∈ names, '/' ∉ n.toList := by
  unfold listZettel at h
  split at h
  next items hlist =>
    cases h
    intro n hn
    rcases List.mem_filterMap.mp hn with ⟨⟨name, item⟩, hitem, hzettel⟩
    have hflat := slash_not_mem_list hlist _ hitem
    cases item with
    | folder => cases hzettel
    | file data =>
      dsimp only at hzettel
      split at hzettel
      next =>
        cases hzettel
        exact hflat
      next => cases hzettel
  next => cases h

end Disk

theorem Event.isFlat_scan {names : List String} (h : ∀ n ∈ names, '/' ∉ n.toList) :
    ∀ ev ∈ Event.scan names, ev.IsFlat := by
  intro ev hev
  rcases List.mem_append.mp hev with hev | hev
  · rcases List.mem_cons.mp hev with rfl | hev
    · trivial
    · rcases List.mem_map.mp hev with ⟨n, hn, rfl⟩
      exact h n hn
  · rw [List.mem_singleton.mp hev]
    show '/' ∉ "".toList
    decide

namespace Watch

variable {d : Disk} {path name : String}

theorem Poller.isFlat_poll (p : Poller) (d : Disk) (path : String) :
    ∀ ev ∈ (p.poll (d.listZettel path)).2, ev.IsFlat := by
  unfold poll
  split
  next names hlist => exact Event.isFlat_scan (Disk.slash_not_mem_listZettel hlist)
  next =>
    split
    next =>
      intro ev hev
      split at hev
      · exact absurd hev List.not_mem_nil
      · rw [List.mem_singleton.mp hev]
        trivial
    next =>
      intro ev hev
      rw [List.mem_singleton.mp hev]
      trivial

namespace Watcher

theorem isFlat_scan (w : Watcher) (d : Disk) : ∀ ev ∈ (w.scan d).2, ev.IsFlat := by
  unfold scan
  split
  next names hlist => exact Event.isFlat_scan (Disk.slash_not_mem_listZettel hlist)
  next =>
    split
    · exact List.forall_mem_singleton.mpr trivial
    · exact List.forall_mem_singleton.mpr trivial

theorem isFlat_seeFile (hname : '/' ∉ name.toList) (d : Disk) (path : String)
    (happening : Disk.Happening) : ∀ ev ∈ seeFile d path name happening, ev.IsFlat := by
  have hdelete : ∀ ev ∈ [Event.delete name], ev.IsFlat := List.forall_mem_singleton.mpr hname
  have hnone : ∀ ev ∈ ([] : List Event), ev.IsFlat := fun ev hev => absurd hev List.not_mem_nil
  unfold seeFile
  split
  · exact hnone
  · split
    · exact hdelete
    · split
      · exact List.forall_mem_singleton.mpr hname
      · exact hnone
      · exact hdelete

theorem isFlat_see (w : Watcher) (d : Disk) (s : Disk.Sighting) :
    ∀ ev ∈ (w.see d s).2, ev.IsFlat := by
  have hnone : ∀ ev ∈ ([] : List Event), ev.IsFlat := fun ev hev => absurd hev List.not_mem_nil
  have hgone : ∀ ev ∈ [Event.destroy], ev.IsFlat := List.forall_mem_singleton.mpr trivial
  unfold see
  -- A sighting is of the directory itself, of an item in it, or of nothing that matters.
  by_cases hroot : s.path = w.root
  · rw [if_pos hroot]
    cases s.happening with
    | vanished =>
      dsimp only
      split
      · exact hgone
      · exact hnone
    | appeared =>
      dsimp only
      split
      · exact w.isFlat_scan d
      · exact hnone
    | changed => exact hnone
  · rw [if_neg hroot]
    cases hchild : Disk.childName? w.root s.path with
    | some name =>
      dsimp only
      exact isFlat_seeFile (Disk.slash_not_mem_childName hchild) d s.path s.happening
    | none => exact hnone

theorem seeAll_cons (w : Watcher) (d : Disk) (s : Disk.Sighting) (rest : List Disk.Sighting) :
    w.seeAll d (s :: rest) =
      (((w.see d s).1.seeAll d rest).1, (w.see d s).2 ++ ((w.see d s).1.seeAll d rest).2) := by
  -- What was told before stands in front of what is told next.
  have hgen : ∀ (w : Watcher) (told : List Event) (sightings : List Disk.Sighting),
      sightings.foldl (fun (p : Watcher × List Event) s =>
        ((p.1.see d s).1, p.2 ++ (p.1.see d s).2)) (w, told) =
        ((w.seeAll d sightings).1, told ++ (w.seeAll d sightings).2) := by
    intro w told sightings
    unfold seeAll
    induction sightings generalizing w told with
    | nil => simp
    | cons s rest ih =>
      rw [List.foldl_cons, List.foldl_cons, ih, ih _ ([] ++ _)]
      simp
  exact hgen (w.see d s).1 ([] ++ (w.see d s).2) rest

theorem isFlat_seeAll (w : Watcher) (d : Disk) (sightings : List Disk.Sighting) :
    ∀ ev ∈ (w.seeAll d sightings).2, ev.IsFlat := by
  induction sightings generalizing w with
  | nil => exact fun ev hev => absurd hev List.not_mem_nil
  | cons s rest ih =>
    intro ev hev
    rw [seeAll_cons] at hev
    rcases List.mem_append.mp hev with hev | hev
    · exact w.isFlat_see d s ev hev
    · exact ih (w.see d s).1 ev hev

end Watcher

namespace Notifier

def IsOfDirectory : Notifier → Prop
  | archive _ => False
  | _ => True

/-- A notifier of a directory, with events to tell of its files. -/
structure Tells (told : Notifier × List Event) : Prop where
  notifier : told.1.IsOfDirectory
  events : ∀ ev ∈ told.2, ev.IsFlat

theorem tells_pollOnce (path : String) (interval : Nat) (poller : Poller) (now : Nat) (d : Disk) :
    Tells (pollOnce path interval poller now d) :=
  ⟨trivial, poller.isFlat_poll d path⟩

theorem tells_startWatching {told : Notifier × List Event} (h : startWatching path d = .ok told) :
    Tells told := by
  unfold startWatching Watcher.start at h
  split at h
  next => cases h
  next =>
    split at h
    next => cases h
    next =>
      cases h
      exact ⟨trivial, Watcher.isFlat_scan _ d⟩

variable {n : Notifier} (h : n.IsOfDirectory)

include h

theorem tells_nothing : Tells (n, []) :=
  ⟨h, fun _ hev => absurd hev List.not_mem_nil⟩

theorem tells_refresh (now : Nat) (d : Disk) : Tells (n.refresh now d) := by
  cases n with
  | polling path interval poller due => exact tells_pollOnce path interval poller now d
  | watching w => exact ⟨trivial, w.isFlat_scan d⟩
  | archive path => exact absurd h id

theorem tells_tick (now : Nat) (d : Disk) : Tells (n.tick now d) := by
  cases n with
  | polling path interval poller due =>
    show Tells (if due ≤ now then pollOnce path interval poller now d else _)
    split
    · exact tells_pollOnce path interval poller now d
    · exact tells_nothing h
  | watching w => exact tells_nothing h
  | archive path => exact absurd h id

theorem tells_see (d : Disk) (sightings : List Disk.Sighting) : Tells (n.see d sightings) := by
  cases n with
  | polling path interval poller due => exact tells_nothing h
  | watching w => exact ⟨trivial, w.isFlat_seeAll d sightings⟩
  | archive path => exact absurd h id

end Notifier

end Watch

end Kasten
