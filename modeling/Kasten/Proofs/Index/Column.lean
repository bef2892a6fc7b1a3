import Kasten.Proofs.Index.View

/-!
# Columns of the view

Each reference has its second half in a column: a slice for every zettel or word, in which the
zettel that makes the reference is a member. When a record is replaced, the members that its
zettel gained and lost are worked out by comparison with the record before and patched in one by
one. `Column.view_relink` says what comes of this: the zettel is a member of exactly the rows
that the new record names.
-/

namespace Kasten.Index

/-! ## 1. Patching a column -/

/-- A part of a view `V` that holds a slice for every key. -/
structure Column (V κ : Type) where
  get : V → κ → ZidSlice
  set : V → (κ → ZidSlice) → V
  get_set : ∀ v g, get (set v g) = g
  set_set : ∀ v g g', set (set v g) g' = set v g'
  set_get : ∀ v, set v (get v) = v

namespace Column

section Patch

variable {σ V κ : Type} [DecidableEq κ] (c : Column V κ) (look : σ → V)

/-- Changes one row of the column. -/
def patch (v : V) (a : κ) (f : ZidSlice → ZidSlice) : V :=
  c.set v (Function.update (c.get v) a (f (c.get v a)))

theorem view_foldl {step : σ → κ → σ} {f : ZidSlice → ZidSlice}
    (hstep : ∀ t a, look (step t a) = c.patch (look t) a f) {l : List κ} (hl : l.Nodup)
    (t : σ) :
    look (l.foldl step t) =
      c.set (look t) fun a => if a ∈ l then f (c.get (look t) a) else c.get (look t) a := by
  induction l generalizing t with
  | nil =>
    simp only [List.foldl_nil, List.not_mem_nil, if_false]
    exact (c.set_get (look t)).symm
  | cons b rest ih =>
    rcases List.nodup_cons.mp hl with ⟨hb, hrest⟩
    rw [List.foldl_cons, ih hrest, hstep, patch, c.set_set, c.get_set]
    congr 1
    funext a
    by_cases hab : a = b
    · subst hab
      simp [hb]
    · simp [hab]

/-- The two halves of a comparison, patched in one after the other. -/
theorem view_relink {z : Zid} {add drop : σ → κ → σ}
    (hadd : ∀ t a, look (add t a) = c.patch (look t) a (·.insert z))
    (hdrop : ∀ t a, look (drop t a) = c.patch (look t) a (·.erase z))
    {added removed new old : List κ} (hna : added.Nodup) (hnr : removed.Nodup)
    (hadded : ∀ a, a ∈ added ↔ a ∈ new ∧ a ∉ old) (hremoved : ∀ a, a ∈ removed ↔ a ∈ old ∧ a ∉ new)
    (t : σ) (hasc : ∀ a, (c.get (look t) a).Ascending) (hz : ∀ a, z ∈ c.get (look t) a ↔ a ∈ old) :
    look (removed.foldl drop (added.foldl add t)) =
      c.set (look t) fun a => (c.get (look t) a).place z (decide (a ∈ new)) := by
  rw [c.view_foldl look hdrop hnr, c.view_foldl look hadd hna, c.set_set, c.get_set]
  congr 1
  funext a
  rw [ZidSlice.place]
  simp only [hadded, hremoved, decide_eq_true_eq]
  by_cases hnew : a ∈ new
  · by_cases hold : a ∈ old
    · -- The row is in neither half and has the zettel already.
      have hin : z ∈ c.get (look t) a := (hz a).mpr hold
      simp [hnew, hold, (hasc a).insert_of_mem hin]
    · simp [hnew, hold]
  · by_cases hold : a ∈ old
    · simp [hnew, hold]
    · -- The row is in neither half and does not have the zettel.
      have hout : z ∉ c.get (look t) a := fun h => hold ((hz a).mp h)
      simp [hnew, hold, ZidSlice.erase_of_not_mem hout]

/-- Taking an identifier out of the rows that hold it takes it out of all rows. -/
theorem view_unlink {z : Zid} {drop : σ → κ → σ}
    (hdrop : ∀ t a, look (drop t a) = c.patch (look t) a (·.erase z)) {l : List κ} (hl : l.Nodup)
    (t : σ) (hz : ∀ a, z ∈ c.get (look t) a → a ∈ l) :
    look (l.foldl drop t) = c.set (look t) fun a => (c.get (look t) a).erase z := by
  rw [c.view_foldl look hdrop hl]
  congr 1
  funext a
  split
  · rfl
  next ha => rw [ZidSlice.erase_of_not_mem fun h => ha (hz a h)]

end Patch

/-! ## 2. The columns of the tables -/

def forward : Column View Zid :=
  ⟨fun v => v.forward, fun v g => { v with forward := g }, fun _ _ => rfl, fun _ _ _ => rfl,
    fun _ => rfl⟩

def backward : Column View Zid :=
  ⟨fun v => v.backward, fun v g => { v with backward := g }, fun _ _ => rfl, fun _ _ _ => rfl,
    fun _ => rfl⟩

def sources : Column View Zid :=
  ⟨fun v => v.sources, fun v g => { v with sources := g }, fun _ _ => rfl, fun _ _ _ => rfl,
    fun _ => rfl⟩

/-- A table on its own. -/
def rows : Column (String → ZidSlice) String :=
  ⟨fun v => v, fun _ g => g, fun _ _ => rfl, fun _ _ _ => rfl, fun _ => rfl⟩

/-- One end of the references under a key. -/
def typed (e : End) (key : String) : Column View Zid where
  get v z := (v.refs z key).at e
  set v g := { v with refs := fun z k => if k = key then (v.refs z k).setAt e (g z) else v.refs z k }
  get_set v g := by
    funext z
    simp
  set_set v g g' := by
    refine View.ext rfl rfl rfl ?_ rfl rfl rfl rfl rfl rfl
    funext z k
    by_cases hk : k = key <;> simp [hk]
  set_get v := by
    refine View.ext rfl rfl rfl ?_ rfl rfl rfl rfl rfl rfl
    funext z k
    by_cases hk : k = key <;> simp [hk]

end Column

/-! ## 3. What the single changes do -/

namespace Tables

variable (t : Tables)

theorem setNode_dead (a : Zid) (s : ZidSlice) :
    t.view.setNode a { t.node a with dead := s } =
      { t.view with dead := Function.update t.view.dead a s } :=
  View.ext rfl (Function.update_eq_self a t.view.forward) (Function.update_eq_self a t.view.backward)
    (Function.update_eq_self a t.view.refs) (Function.update_eq_self a t.view.words)
    (Function.update_eq_self a t.view.urls) (Function.update_eq_self a t.view.tags) rfl rfl rfl

theorem setNode_forward (a : Zid) (s : ZidSlice) :
    t.view.setNode a { t.node a with forward := s } =
      { t.view with forward := Function.update t.view.forward a s } :=
  View.ext (Function.update_eq_self a t.view.dead) rfl (Function.update_eq_self a t.view.backward)
    (Function.update_eq_self a t.view.refs) (Function.update_eq_self a t.view.words)
    (Function.update_eq_self a t.view.urls) (Function.update_eq_self a t.view.tags) rfl rfl rfl

theorem setNode_backward (a : Zid) (s : ZidSlice) :
    t.view.setNode a { t.node a with backward := s } =
      { t.view with backward := Function.update t.view.backward a s } :=
  View.ext (Function.update_eq_self a t.view.dead) (Function.update_eq_self a t.view.forward) rfl
    (Function.update_eq_self a t.view.refs) (Function.update_eq_self a t.view.words)
    (Function.update_eq_self a t.view.urls) (Function.update_eq_self a t.view.tags) rfl rfl rfl

theorem setNode_lists (a : Zid) (words urls : List String) (tags : String) :
    t.view.setNode a { t.node a with words, urls, tags } =
      { t.view with
        words := Function.update t.view.words a words
        urls := Function.update t.view.urls a urls
        tags := Function.update t.view.tags a tags } :=
  View.ext (Function.update_eq_self a t.view.dead) (Function.update_eq_self a t.view.forward)
    (Function.update_eq_self a t.view.backward) (Function.update_eq_self a t.view.refs) rfl rfl rfl
    rfl rfl rfl

theorem setNode_typed (a : Zid) (n : Node) (hn : n = { t.node a with typed := n.typed }) :
    t.view.setNode a n = { t.view with refs := Function.update t.view.refs a n.refs } := by
  rw [hn]
  exact View.ext (Function.update_eq_self a t.view.dead) (Function.update_eq_self a t.view.forward)
    (Function.update_eq_self a t.view.backward) rfl (Function.update_eq_self a t.view.words)
    (Function.update_eq_self a t.view.urls) (Function.update_eq_self a t.view.tags) rfl rfl rfl

end Tables

namespace Column

theorem patch_typed (e : End) (v : View) (key : String) (a : Zid) (f : ZidSlice → ZidSlice)
    (g : String → Refs) (hg : ∀ k, g k = if k = key then
      (v.refs a key).setAt e (f ((v.refs a key).at e)) else v.refs a k) :
    (typed e key).patch v a f = { v with refs := Function.update v.refs a g } := by
  unfold patch typed
  refine View.ext rfl rfl rfl ?_ rfl rfl rfl rfl rfl rfl
  funext z k
  by_cases hz : z = a
  · subst hz
    by_cases hk : k = key
    · subst hk
      simp [hg]
    · simp [hg, hk]
  · simp only [ne_eq, hz, not_false_eq_true, Function.update_of_ne]
    split
    next hk => rw [hk, Refs.setAt_at]
    next => rfl

end Column

namespace Tables

variable (t : Tables)

theorem view_addBackward (source target : Zid) :
    (t.addBackward source target).view = Column.backward.patch t.view target (·.insert source) :=
  (t.view_edit target _).trans (t.setNode_backward target _)

theorem view_dropBackward (source target : Zid) :
    (t.dropBackward source target).view = Column.backward.patch t.view target (·.erase source) :=
  (t.view_editOld target rfl).trans (t.setNode_backward target _)

theorem view_dropForward (target source : Zid) :
    (t.dropForward target source).view = Column.forward.patch t.view source (·.erase target) :=
  (t.view_editOld source rfl).trans (t.setNode_forward source _)

theorem view_addTypedBackward (key : String) (source target : Zid) :
    (addTypedBackward key t source target).view =
      (Column.typed .backward key).patch t.view target (·.insert source) := by
  rw [addTypedBackward, view_edit, setNode_typed _ _ _ rfl]
  refine (Column.patch_typed _ _ _ _ _ _ ?_).symm
  intro k
  exact (t.node target).refs_editTyped key k _

/-- Without references under a key there is nothing to take back. -/
theorem editTypedOld_empty (key : String) (f : Refs → Refs) :
    Node.empty.editTypedOld key f = Node.empty := by
  unfold Node.editTypedOld
  rw [if_neg]
  simp [Node.empty]

theorem view_dropTypedBackward (key : String) (source target : Zid) :
    (dropTypedBackward key t source target).view =
      (Column.typed .backward key).patch t.view target (·.erase source) := by
  rw [dropTypedBackward, t.view_editOld target (f := fun n => n.editTypedOld key _)
    (editTypedOld_empty key _),
    setNode_typed _ _ _ (Node.editTypedOld_only _ _ _)]
  refine (Column.patch_typed _ _ _ _ _ _ ?_).symm
  intro k
  exact (t.node target).refs_editTypedOld key k rfl

theorem view_dropTypedForward (key : String) (target source : Zid) :
    (dropTypedForward key t target source).view =
      (Column.typed .forward key).patch t.view source (·.erase target) := by
  rw [dropTypedForward, t.view_editOld source (f := fun n => n.editTypedOld key _)
    (editTypedOld_empty key _),
    setNode_typed _ _ _ (Node.editTypedOld_only _ _ _)]
  refine (Column.patch_typed _ _ _ _ _ _ ?_).symm
  intro k
  exact (t.node source).refs_editTypedOld key k rfl

theorem view_addDeadSource (source target : Zid) :
    (t.addDeadSource source target).view = Column.sources.patch t.view target (·.insert source) :=
  View.ext rfl rfl rfl rfl rfl rfl rfl (row_addMember t.dead target source) rfl rfl

theorem view_dropDeadSource (source target : Zid) :
    (t.dropDeadSource source target).view = Column.sources.patch t.view target (·.erase source) := by
  rw [dropDeadSource_eq]
  exact View.ext rfl rfl rfl rfl rfl rfl rfl (row_dropMember t.dead target source) rfl rfl

/-- Listing a zettel anew makes it a holder of exactly the new words. -/
theorem row_relist (z : Zid) {new old : List String} (hn : new.Nodup) (ho : old.Nodup)
    (table : Inverted) (hasc : ∀ w, (table.getD w ∅).Ascending)
    (hz : ∀ w, z ∈ table.getD w ∅ ↔ w ∈ old) :
    (fun w => (relist z new old table).getD w ∅) =
      fun w => (table.getD w ∅).place z (decide (w ∈ new)) :=
  Column.rows.view_relink (fun m : Inverted => fun w => m.getD w ∅)
    (fun m w => row_addMember m w z) (fun m w => row_dropMember m w z) (hn.filter _) (ho.filter _)
    (by simp) (by simp) table hasc hz

end Tables

end Kasten.Index
