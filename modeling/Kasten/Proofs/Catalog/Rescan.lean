import Kasten.Proofs.Catalog.Refinement
import Kasten.Proofs.Catalog.Scan

/-!
# A whole scan

A scan from beginning to end makes a catalog of just the names that it lists, whatever catalog was
in place before.
-/

namespace Kasten

namespace Catalog

variable {cat : Catalog} {seen : Finset String} {z : Zid} {names files : List String}

theorem addFiles_cons (cat : Catalog) (name : String) (rest : List String) :
    cat.addFiles (name :: rest) = (cat.addFile name).addFiles rest :=
  List.foldl_cons ..

theorem Mirrors.addFiles (h : cat.Mirrors seen) (names : List String) :
    (cat.addFiles names).Mirrors (seen ∪ names.toFinset) := by
  induction names generalizing cat seen with
  | nil =>
    rw [List.toFinset_nil, Finset.union_empty]
    exact h
  | cons name rest ih =>
    rw [addFiles_cons, List.toFinset_cons, ← Finset.insert_union_comm]
    exact ih (h.addFile name)

/-- Those of the names that start with the identifier, in their order. -/
def filesOf (names : List String) (z : Zid) : List String :=
  names.filter fun n => Zid.ofFileName n = z

theorem filesOf_cons (name : String) (rest : List String) (z : Zid) :
    filesOf (name :: rest) z =
      if Zid.ofFileName name = z then name :: filesOf rest z else filesOf rest z := by
  unfold filesOf
  rw [List.filter_cons]
  simp only [decide_eq_true_eq]

/-- The entry that the names give for a zettel, if there is a file of it among them. -/
def entryOf (names : List String) (z : Zid) : Option Entry :=
  if z.isValid = true ∧ filesOf names z ≠ [] then some ((Entry.new z).addAll (filesOf names z))
  else none

/-- Files that are taken in one by one come to the entry of their zettel in the order of all. -/
theorem getElem?_addFiles_of_isValid (hz : z.isValid = true) (cat : Catalog)
    (names : List String) :
    (cat.addFiles names)[z]? =
      if filesOf names z = [] then cat[z]?
      else some ((cat.getD z (Entry.new z)).addAll (filesOf names z)) := by
  induction names generalizing cat with
  | nil => rfl
  | cons name rest ih =>
    rw [addFiles_cons, ih, filesOf_cons]
    by_cases hn : Zid.ofFileName name = z
    · -- The file is the zettel's own: its entry gains it, and then the files of the rest.
      have hfirst : cat.addFile name = cat.insert z ((cat.getD z (Entry.new z)).add name).1 := by
        unfold addFile
        dsimp only
        rw [hn, if_pos hz]
      rw [if_pos hn, if_neg (List.cons_ne_nil _ _), hfirst, getElem?_insert_eq, if_pos rfl,
        getD_insert_eq, if_pos rfl]
      split
      next hrest =>
        rw [hrest]
        rfl
      next => rfl
    · rw [if_neg hn, getElem?_addFile_of_ne hn, Std.ExtTreeMap.getD_eq_getD_getElem?,
        getElem?_addFile_of_ne hn, ← Std.ExtTreeMap.getD_eq_getD_getElem?]

theorem getElem?_addFiles (names : List String) (z : Zid) :
    (addFiles ∅ names)[z]? = entryOf names z := by
  unfold entryOf
  by_cases hz : z.isValid = true
  · rw [getElem?_addFiles_of_isValid hz]
    by_cases hfiles : filesOf names z = []
    · rw [if_pos hfiles, if_neg (fun hboth => hboth.2 hfiles)]
      exact Std.ExtTreeMap.getElem?_empty
    · rw [if_neg hfiles, if_pos ⟨hz, hfiles⟩]
      rfl
  · rw [if_neg (fun hboth => hz hboth.1)]
    exact (mirrors_empty.addFiles names).invalid z (eq_false_of_ne_true hz)

/-- The entry of a zettel that has files among the names sorts just these. -/
theorem exists_addFiles (hz : z.isValid = true) (hne : files ≠ [])
    (hfiles : ∀ n, n ∈ files ↔ n ∈ names ∧ Zid.ofFileName n = z) :
    ∃ e, (addFiles ∅ names)[z]? = some e ∧ e.Alike ((Entry.new z).addAll files) := by
  -- A catalog of files that were seen has an entry for each zettel that they belong to.
  have hmirrors := mirrors_empty.addFiles names
  have hin : z ∈ addFiles ∅ names := by
    rcases List.exists_mem_of_ne_nil files hne with ⟨n, hn⟩
    rw [hmirrors.mem_iff, Finset.empty_union]
    exact ⟨hz, n, List.mem_toFinset.mpr ((hfiles n).mp hn).1, ((hfiles n).mp hn).2⟩
  have hget := Std.ExtTreeMap.getElem?_eq_some_getElem hin
  refine ⟨_, hget, hmirrors.reflects.alike z _ hget files ?_⟩
  intro n
  rw [Finset.empty_union, List.mem_toFinset, hfiles]

end Catalog

namespace Sights

variable {m : Sights} {names : List String}

theorem seeAll_append (m : Sights) (events more : List Event) :
    m.seeAll (events ++ more) = (m.seeAll events).seeAll more :=
  List.foldl_append

theorem seeAll_list {found : Finset String} (hs : m.shadow = some found) (hnames : "" ∉ names) :
    m.seeAll (names.map .list) = { m with shadow := some (found ∪ names.toFinset) } := by
  induction names generalizing m found with
  | nil =>
    rw [List.toFinset_nil, Finset.union_empty, ← hs]
    rfl
  | cons name rest ih =>
    rw [List.mem_cons, not_or] at hnames
    have hfirst : m.see (.list name) = { m with shadow := some (insert name found) } := by
      unfold see
      dsimp only
      rw [if_neg (Ne.symm hnames.1), hs]
      rfl
    show (m.see (.list name)).seeAll (rest.map .list) = _
    rw [hfirst, ih rfl hnames.2, List.toFinset_cons, Finset.insert_union_comm]

theorem seeAll_scan (m : Sights) (hnames : "" ∉ names) :
    m.seeAll (Event.scan names) = ⟨none, some names.toFinset⟩ := by
  have hlists : (m.see .make).seeAll (names.map .list) =
      { m with shadow := some names.toFinset } := by
    rw [seeAll_list rfl hnames, Finset.empty_union]
    rfl
  show seeAll m ([.make] ++ names.map .list ++ [.endOfScan]) = _
  rw [seeAll_append, seeAll_append]
  show ((m.see .make).seeAll (names.map .list)).see (.list "") = _
  rw [hlists]
  rfl

end Sights

namespace Service

variable {s : Service} {names : List String}

theorem foldl_handle_list {found : Catalog} (hrunning : s.phase ≠ .stopping)
    (hs : s.shadow = some found) (hnames : "" ∉ names) :
    (names.map Event.list).foldl (fun s event => (s.handle event).1) s =
      { s with shadow := some (found.addFiles names) } := by
  induction names generalizing s found with
  | nil =>
    cases s
    cases hs
    rfl
  | cons name rest ih =>
    rw [List.mem_cons, not_or] at hnames
    have hfirst : (s.handle (.list name)).1 = { s with shadow := some (found.addFile name) } := by
      unfold handle
      rw [if_neg hrunning]
      dsimp only
      rw [if_neg (Ne.symm hnames.1), hs]
      rfl
    rw [List.map_cons, List.foldl_cons, hfirst, Catalog.addFiles_cons]
    exact ih hrunning rfl hnames.2

theorem catalog_scan (hrunning : s.phase ≠ .stopping) (hnames : "" ∉ names) :
    (s.handleAll (Event.scan names)).1.catalog = some (Catalog.addFiles ∅ names) := by
  have hmake : (s.handle .make).1 = { s with shadow := some ∅ } := by
    unfold handle
    rw [if_neg hrunning]
  have hlists : (Event.make :: names.map Event.list).foldl (fun s event => (s.handle event).1) s =
      { s with shadow := some (Catalog.addFiles ∅ names) } := by
    rw [List.foldl_cons, hmake]
    exact foldl_handle_list hrunning rfl hnames
  -- The name that is empty ends the scan, and what it has found takes the place of the catalog.
  unfold Event.scan
  rw [handleAll_fst, List.foldl_append, hlists]
  show (handle _ (.list "")).1.catalog = _
  unfold handle
  rw [if_neg hrunning]
  dsimp only
  rw [if_pos rfl, finishScan_catalog]
  rfl

theorem handleAll_of_stopping (h : s.phase = .stopping) (events : List Event) :
    (s.handleAll events).1 = s := by
  rw [handleAll_fst]
  induction events with
  | nil => rfl
  | cons event rest ih =>
    have hfirst : (s.handle event).1 = s := by
      unfold handle
      rw [if_pos h]
    rw [List.foldl_cons, hfirst]
    exact ih

end Service

end Kasten
