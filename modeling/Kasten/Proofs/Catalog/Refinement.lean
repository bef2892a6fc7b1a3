import Kasten.Catalog.Service
import Kasten.Proofs.Catalog.Mirror

/-!
# The service and sets of file names

What a notifier tells of a directory comes down to two sets of file names: those that a scan has
listed so far, and those known to be there. The service works on catalogs instead, one file at a
time. After any events its catalogs mirror the two sets.
-/

namespace Kasten

/-- The sets of names that the events so far amount to; `shadow` is that of a scan under way. -/
structure Sights where
  shadow : Option (Finset String)
  live : Option (Finset String)
deriving DecidableEq

namespace Sights

/-- Before the first event. -/
def nothing : Sights := ⟨none, none⟩

/-- The names that were listed become the names that are there. Without a scan under way there are
none, unless there were some before. -/
def endScan (m : Sights) : Sights :=
  match m.shadow with
  | some names => ⟨none, some names⟩
  | none => ⟨none, some (m.live.getD ∅)⟩

def see (m : Sights) : Event → Sights
  | .make => { m with shadow := some ∅ }
  | .list name =>
    if name = "" then m.endScan else { m with shadow := m.shadow.map (insert name) }
  | .ready => m.endScan
  | .update name => ⟨m.shadow.map (insert name), m.live.map (insert name)⟩
  | .delete name => ⟨m.shadow.map (Finset.erase · name), m.live.map (Finset.erase · name)⟩
  | .destroy => nothing
  | .error _ => { m with shadow := none }

def seeAll (m : Sights) (events : List Event) : Sights := events.foldl see m

end Sights

namespace Service

open Catalog (Mirrors Reflects)

/-- The service listens, and its catalogs mirror the sets of names. -/
structure Follows (s : Service) (m : Sights) : Prop where
  running : s.phase ≠ .stopping
  shadow : Option.Rel Mirrors s.shadow m.shadow
  live : Option.Rel Mirrors s.catalog m.live

variable {s : Service} {m : Sights}

/-! ## 1. One event -/

theorem map_rel {c : Option Catalog} {names : Option (Finset String)} {f : Catalog → Catalog}
    {g : Finset String → Finset String} (h : Option.Rel Mirrors c names)
    (hfg : ∀ c names, Mirrors c names → Mirrors (f c) (g names)) :
    Option.Rel Mirrors (c.map f) (names.map g) := by
  cases h with
  | none => exact .none
  | some h => exact .some (hfg _ _ h)

theorem getD_rel {c : Option Catalog} {names : Option (Finset String)} {d : Catalog}
    {ds : Finset String} (h : Option.Rel Mirrors c names) (hd : Mirrors d ds) :
    Mirrors (c.getD d) (names.getD ds) := by
  cases h with
  | none => exact hd
  | some h => exact h

theorem reflects_rel {c : Option Catalog} {names : Option (Finset String)}
    (h : Option.Rel Mirrors c names) : Option.Rel Reflects c names := by
  cases h with
  | none => exact .none
  | some h => exact .some h.reflects

theorem finishScan_phase (h : s.phase ≠ .stopping) : s.finishScan.1.phase ≠ .stopping := by
  unfold finishScan
  split
  · exact h
  · exact nofun

theorem finishScan_shadow (s : Service) : s.finishScan.1.shadow = none := by
  unfold finishScan
  split
  next hs _ => exact hs
  next => rfl

theorem finishScan_catalog (s : Service) :
    s.finishScan.1.catalog = some (s.shadow.getD (s.catalog.getD ∅)) := by
  unfold finishScan
  cases hs : s.shadow with
  | some c => rfl
  | none =>
    cases hc : s.catalog with
    | some c => exact hc
    | none => rfl

theorem endScan_eq (m : Sights) : m.endScan = ⟨none, some (m.shadow.getD (m.live.getD ∅))⟩ := by
  unfold Sights.endScan
  cases m.shadow <;> rfl

theorem Follows.finishScan (h : s.Follows m) : s.finishScan.1.Follows m.endScan := by
  rw [endScan_eq]
  refine ⟨finishScan_phase h.running, ?_, ?_⟩
  · rw [finishScan_shadow]
    exact .none
  · rw [finishScan_catalog]
    exact .some (getD_rel h.shadow (getD_rel h.live Catalog.mirrors_empty))

theorem Follows.updateFile (h : s.Follows m) (name : String) :
    (s.updateFile name).1.Follows
      ⟨m.shadow.map (insert name), m.live.map (insert name)⟩ where
  running := h.running
  shadow := map_rel h.shadow fun _ _ hc => hc.addFile name
  live := map_rel h.live fun _ _ hc => hc.addFile name

theorem deleteFile_fst (s : Service) (name : String) :
    (s.deleteFile name).1 =
      { s with
        catalog := s.catalog.map fun c => (Catalog.removeFile c name).1
        shadow := s.shadow.map fun c => (Catalog.removeFile c name).1 } := by
  unfold deleteFile
  cases hc : s.catalog with
  | none => rfl
  | some c => rfl

theorem Follows.deleteFile (h : s.Follows m) (name : String) :
    (s.deleteFile name).1.Follows
      ⟨m.shadow.map (Finset.erase · name), m.live.map (Finset.erase · name)⟩ := by
  rw [deleteFile_fst]
  exact {
    running := h.running
    shadow := map_rel h.shadow fun _ _ hc => hc.removeFile name
    live := map_rel h.live fun _ _ hc => hc.removeFile name }

/-- Whatever event comes, the catalogs keep to the sets. -/
theorem Follows.handle (h : s.Follows m) (event : Event) :
    (s.handle event).1.Follows (m.see event) := by
  unfold Service.handle
  rw [if_neg h.running]
  cases event with
  | make => exact ⟨h.running, .some Catalog.mirrors_empty, h.live⟩
  | list name =>
    unfold Sights.see
    dsimp only
    by_cases he : name = ""
    · rw [if_pos he, if_pos he]
      exact h.finishScan
    · rw [if_neg he, if_neg he]
      exact ⟨h.running, map_rel h.shadow fun _ _ hc => hc.addFile name, h.live⟩
  | ready => exact h.finishScan
  | update name => exact h.updateFile name
  | delete name => exact h.deleteFile name
  | destroy => exact ⟨nofun, .none, .none⟩
  | error _ => exact ⟨h.running, .none, h.live⟩

/-! ## 2. All events -/

theorem handleAll_fst (s : Service) (events : List Event) :
    (s.handleAll events).1 = events.foldl (fun s event => (s.handle event).1) s := by
  -- The changes gathered so far do not matter to the service.
  suffices hgen : ∀ changes : List Change,
      (events.foldl (fun (p : Service × List Change) event =>
        ((p.1.handle event).1, p.2 ++ (p.1.handle event).2)) (s, changes)).1 =
        events.foldl (fun s event => (s.handle event).1) s from hgen []
  induction events generalizing s with
  | nil => exact fun _ => rfl
  | cons event rest ih => exact fun changes => ih _ _

theorem Follows.handleAll (h : s.Follows m) (events : List Event) :
    (s.handleAll events).1.Follows (m.seeAll events) := by
  rw [handleAll_fst]
  unfold Sights.seeAll
  induction events generalizing s m with
  | nil => exact h
  | cons event rest ih => exact ih (h.handle event)

/-- A service that was started keeps the catalog that the names seen give, whatever it is told. -/
theorem send_reflects_sights (origin : String) (events : List Event) :
    ∃ s, (new origin).start = .ok s ∧
      Option.Rel Reflects (s.send events).1.catalog (Sights.nothing.seeAll events).live := by
  refine ⟨_, rfl, ?_⟩
  have hstart : Follows ⟨origin, .starting, none, none, true, true⟩ Sights.nothing :=
    ⟨nofun, .none, .none⟩
  exact reflects_rel (hstart.handleAll events).live

end Service

end Kasten
