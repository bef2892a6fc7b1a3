import Kasten.Proofs.Catalog.Refinement
import Kasten.Proofs.Catalog.Scan
import Kasten.Proofs.Entry.Names
import Kasten.Proofs.Watch.Flat

/-!
# Where the entries of a catalog come from

Each entry has come about by what was seen of its zettel's files or by changes made by hand. This
holds of the catalog in place as well as of the one that a scan is building.
-/

namespace Kasten

namespace Catalog

def Stocked (cat : Catalog) : Prop :=
  ∀ (z : Zid) (e : Entry), cat[z]? = some e → e.Arisen z

variable {cat : Catalog} {z : Zid} {e : Entry} {name : String}

theorem stocked_empty : Stocked ∅ := by
  intro z e h
  rw [Std.ExtTreeMap.getElem?_empty] at h
  cases h

theorem Stocked.insert (h : cat.Stocked) (he : e.Arisen z) : Stocked (cat.insert z e) := by
  intro a x hx
  rw [getElem?_insert_eq] at hx
  split at hx
  next ha =>
    cases hx
    exact ha ▸ he
  next => exact h a x hx

theorem Stocked.erase (h : cat.Stocked) (z : Zid) : Stocked (cat.erase z) := by
  intro a x hx
  rw [getElem?_erase_eq] at hx
  split at hx
  next => cases hx
  next => exact h a x hx

theorem Stocked.getD (h : cat.Stocked) (z : Zid) : (cat.getD z (Entry.new z)).Arisen z := by
  cases hz : cat[z]? with
  | none =>
    rw [getD_of_getElem?_none hz]
    exact .reserved z
  | some e =>
    rw [getD_of_getElem? hz]
    exact h z e hz

theorem Stocked.addFile (h : cat.Stocked) (hname : '/' ∉ name.toList) :
    (cat.addFile name).Stocked := by
  unfold Catalog.addFile
  dsimp only
  split
  next hv => exact h.insert (.appeared (h.getD _) rfl hv hname)
  next => exact h

theorem Stocked.removeFile (h : cat.Stocked) (name : String) : (cat.removeFile name).1.Stocked := by
  unfold Catalog.removeFile
  dsimp only
  split
  next => exact h
  next e he =>
    split
    next => exact h.insert ((h _ e he).vanished name)
    next => exact h.erase _

end Catalog

namespace Service

/-- The entries of both catalogs have come about so. -/
structure Stocked (s : Service) : Prop where
  catalog : ∀ cat ∈ s.catalog, Catalog.Stocked cat
  shadow : ∀ cat ∈ s.shadow, Catalog.Stocked cat

variable {s s' : Service} {z : Zid} {e : Entry} {name : String}

theorem stocked_of_mem {c : Option Catalog} {f : Catalog → Catalog}
    (h : ∀ cat ∈ c, Catalog.Stocked cat)
    (hf : ∀ cat : Catalog, cat.Stocked → (f cat).Stocked) :
    ∀ cat ∈ c.map f, Catalog.Stocked cat := by
  intro cat hcat
  rcases Option.map_eq_some_iff.mp hcat with ⟨old, hold, rfl⟩
  exact hf old (h old hold)

theorem stocked_some {cat : Catalog} (h : cat.Stocked) : ∀ c ∈ some cat, Catalog.Stocked c := by
  intro c hc
  cases hc
  exact h

theorem stocked_none : ∀ c ∈ (none : Option Catalog), Catalog.Stocked c := nofun

theorem arisen_of_entry (h : ∀ cat ∈ s.catalog, Catalog.Stocked cat) (he : s.entry? z = some e) :
    e.Arisen z := by
  rcases Option.bind_eq_some_iff.mp he with ⟨cat, hcat, hz⟩
  exact h cat hcat z e hz

/-- What there is of a zettel, or an entry to begin with. -/
theorem arisen_getD (h : ∀ cat ∈ s.catalog, Catalog.Stocked cat) (z : Zid) :
    ((s.entry? z).getD (Entry.new z)).Arisen z := by
  cases he : s.entry? z with
  | none => exact .reserved z
  | some e => exact arisen_of_entry h he

theorem entry_of_liveEntry (h : s.liveEntry z = .ok e) : s.entry? z = some e ∧ e.isLive = true := by
  unfold liveEntry at h
  split at h
  next found hfound =>
    split at h
    next hlive =>
      cases h
      exact ⟨hfound, hlive⟩
    next => cases h
  next => cases h

namespace Stocked

/-! ## 1. Events -/

theorem start (h : s.Stocked) (hs : s.start = .ok s') : s'.Stocked := by
  unfold Service.start at hs
  split at hs
  next =>
    cases hs
    exact ⟨h.catalog, h.shadow⟩
  next => cases hs

theorem stop (h : s.Stocked) : s.stop.Stocked :=
  ⟨h.catalog, h.shadow⟩

theorem finishScan (h : s.Stocked) : s.finishScan.1.Stocked := by
  constructor
  · rw [finishScan_catalog]
    apply stocked_some
    -- The new catalog is the one that was built, else the one in place, else an empty one.
    cases hshadow : s.shadow with
    | some cat => exact h.shadow cat hshadow
    | none =>
      cases hlive : s.catalog with
      | some cat => exact h.catalog cat hlive
      | none => exact Catalog.stocked_empty
  · rw [finishScan_shadow]
    exact stocked_none

theorem updateFile (h : s.Stocked) (hname : '/' ∉ name.toList) : (s.updateFile name).1.Stocked where
  catalog := stocked_of_mem h.catalog fun _ hcat => hcat.addFile hname
  shadow := stocked_of_mem h.shadow fun _ hcat => hcat.addFile hname

theorem deleteFile (h : s.Stocked) (name : String) : (s.deleteFile name).1.Stocked := by
  rw [deleteFile_fst]
  exact {
    catalog := stocked_of_mem h.catalog fun _ hcat => hcat.removeFile name
    shadow := stocked_of_mem h.shadow fun _ hcat => hcat.removeFile name }

theorem handle {event : Event} (h : s.Stocked) (hflat : event.IsFlat) :
    (s.handle event).1.Stocked := by
  unfold Service.handle
  split
  next => exact h
  next =>
    -- Only `list` and `update` bring in names, so only they need the event to be flat.
    cases event with
    | make => exact ⟨h.catalog, stocked_some Catalog.stocked_empty⟩
    | list name =>
      dsimp only
      split
      next => exact h.finishScan
      next => exact ⟨h.catalog, stocked_of_mem h.shadow fun _ hcat => hcat.addFile hflat⟩
    | ready => exact h.finishScan
    | update name => exact h.updateFile hflat
    | delete name => exact h.deleteFile name
    | destroy => exact ⟨stocked_none, stocked_none⟩
    | error _ => exact ⟨h.catalog, stocked_none⟩

theorem handleAll {events : List Event} (h : s.Stocked) (hflat : ∀ ev ∈ events, ev.IsFlat) :
    (s.handleAll events).1.Stocked := by
  rw [handleAll_fst]
  induction events generalizing s with
  | nil => exact h
  | cons event rest ih =>
    have hfirst := h.handle (hflat event List.mem_cons_self)
    exact ih hfirst fun ev hev => hflat ev (List.mem_cons_of_mem event hev)

theorem send {events : List Event} (h : s.Stocked) (hflat : ∀ ev ∈ events, ev.IsFlat) :
    (s.send events).1.Stocked := by
  unfold Service.send
  split
  next => exact h.handleAll hflat
  next => exact h

/-! ## 2. Changes made by hand -/

theorem present {cat : Catalog} (h : s.Stocked) (hc : s.present = .ok cat) : cat.Stocked :=
  h.catalog cat (catalog_of_present hc)

theorem arisen (h : s.Stocked) (he : s.entry? z = some e) : e.Arisen z :=
  arisen_of_entry h.catalog he

theorem liveEntry (h : s.Stocked) (he : s.liveEntry z = .ok e) : e.Arisen z :=
  h.arisen (entry_of_liveEntry he).1

theorem reserve {now : Time} (h : s.Stocked) (hr : s.reserve now = .ok (z, s')) : s'.Stocked := by
  rcases reserve_eq hr with ⟨cat, hc, rfl⟩
  exact ⟨stocked_some ((h.present hc).insert (.reserved z)), h.shadow⟩

theorem put (h : s.Stocked) (he : e.Arisen e.zid) (hp : s.put e = .ok s') : s'.Stocked := by
  rcases exists_of_bind_eq_ok hp with ⟨cat, hc, hok⟩
  cases hok
  exact ⟨stocked_some ((h.present hc).insert he), h.shadow⟩

theorem drop (h : s.Stocked) (hd : s.drop z = .ok s') : s'.Stocked := by
  rcases exists_of_bind_eq_ok hd with ⟨cat, hc, hok⟩
  cases hok
  exact ⟨stocked_some ((h.present hc).erase z), h.shadow⟩

theorem rename {old : Entry} {new : Zid} (h : s.Stocked) (hold : old.Arisen z)
    (hr : s.rename old new = .ok (e, s')) : e.Arisen new ∧ s'.Stocked := by
  rcases rename_eq hr with ⟨cat, hc, rfl, rfl⟩
  have hnew : (old.renamed new).Arisen new := hold.renamed new
  exact ⟨hnew, stocked_some (((h.present hc).erase old.zid).insert hnew), h.shadow⟩

end Stocked

end Service

end Kasten
