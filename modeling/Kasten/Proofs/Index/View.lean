import Mathlib.Logic.Function.Basic
import Mathlib.Tactic.Tauto
import Kasten.Index.Tables
import Kasten.Proofs.Index.Row

/-!
# The view of the index tables

What the tables answer when they are looked into: one function for each half of a reference and
for each list. Every change of the tables is a change of this view, and reaping nodes of which
nothing is known changes nothing. A `Column` is a part of the view that holds a slice for every
key; the tables are only ever changed by adding to and taking away from columns, and by setting
the lists of the zettel that a record is about.
-/

namespace Kasten.Index

attribute [ext] Refs Node Tables

/-! ## 1. Nodes -/

theorem Refs.isEmpty_iff (r : Refs) : r.isEmpty = true ↔ r = Refs.empty := by
  unfold Refs.isEmpty Refs.empty
  rw [Bool.and_eq_true, ZidSlice.isEmpty_iff, ZidSlice.isEmpty_iff]
  cases r
  rw [Refs.mk.injEq]

/-- One of the two halves of a reference. -/
inductive End where
  | forward
  | backward

namespace Refs

def «at» : Refs → End → ZidSlice
  | r, .forward => r.forward
  | r, .backward => r.backward

def setAt : Refs → End → ZidSlice → Refs
  | r, .forward, s => { r with forward := s }
  | r, .backward, s => { r with backward := s }

@[simp]
theorem at_setAt (r : Refs) (e : End) (s : ZidSlice) : (r.setAt e s).at e = s := by
  cases e <;> rfl

@[simp]
theorem setAt_setAt (r : Refs) (e : End) (s s' : ZidSlice) :
    (r.setAt e s).setAt e s' = r.setAt e s' := by
  cases e <;> rfl

@[simp]
theorem setAt_at (r : Refs) (e : End) : r.setAt e (r.at e) = r := by
  cases e <;> rfl

end Refs

namespace Node

/-- The references under a key; none if there is no such key. -/
def refs (n : Node) (key : String) : Refs := n.typed.getD key Refs.empty

theorem isEmpty_iff (n : Node) : n.isEmpty = true ↔ n = Node.empty := by
  cases n
  unfold Node.isEmpty Node.empty
  simp only [Bool.and_eq_true, ZidSlice.isEmpty_iff, Std.ExtTreeMap.isEmpty_iff,
    List.isEmpty_iff, beq_iff_eq, Node.mk.injEq]
  tauto

@[simp]
theorem refs_empty (key : String) : Node.empty.refs key = Refs.empty :=
  Std.ExtTreeMap.getD_empty

theorem refs_editTyped (n : Node) (key k : String) (f : Refs → Refs) :
    (n.editTyped key f).refs k = if k = key then f (n.refs key) else n.refs k :=
  getD_ite_erase_insert n.typed key k _ Refs.empty _ (Refs.isEmpty_iff _)

/-- A change that makes nothing of nothing may as well be made to a key that is not there. -/
theorem refs_editTypedOld (n : Node) (key k : String) {f : Refs → Refs}
    (hf : f Refs.empty = Refs.empty) :
    (n.editTypedOld key f).refs k = if k = key then f (n.refs key) else n.refs k := by
  unfold editTypedOld
  split
  · exact n.refs_editTyped key k f
  next hc =>
    have hk : n.typed[key]? = none := by
      rwa [Std.ExtTreeMap.contains_eq_isSome_getElem?, Bool.not_eq_true,
        Option.isSome_eq_false_iff, Option.isNone_iff_eq_none] at hc
    have hd : n.refs key = Refs.empty := getD_of_getElem?_none hk _
    split
    next h => rw [h, hd, hf]
    next => rfl

theorem editTypedOld_only (n : Node) (key : String) (f : Refs → Refs) :
    n.editTypedOld key f = { n with typed := (n.editTypedOld key f).typed } := by
  unfold editTypedOld
  split <;> rfl

theorem omits_editTyped {n : Node} (hn : Omits n.typed Refs.empty) (key : String)
    (f : Refs → Refs) : Omits (n.editTyped key f).typed Refs.empty :=
  hn.ite_erase_insert key _ _ (Refs.isEmpty_iff _)

theorem omits_editTypedOld {n : Node} (hn : Omits n.typed Refs.empty) (key : String)
    (f : Refs → Refs) : Omits (n.editTypedOld key f).typed Refs.empty := by
  unfold editTypedOld
  split
  · exact omits_editTyped hn key f
  · exact hn

end Node

/-! ## 2. Looking into the tables -/

/-- All answers of the tables. `sources` are the zettel with a dead reference to a zettel, and
`holders` those that hold a word. -/
@[ext]
structure View where
  dead : Zid → ZidSlice
  forward : Zid → ZidSlice
  backward : Zid → ZidSlice
  refs : Zid → String → Refs
  words : Zid → List String
  urls : Zid → List String
  tags : Zid → String
  sources : Zid → ZidSlice
  holders : String → ZidSlice
  urlHolders : String → ZidSlice

/-- Another node in the place of one. -/
def View.setNode (v : View) (z : Zid) (n : Node) : View :=
  { v with
    dead := Function.update v.dead z n.dead
    forward := Function.update v.forward z n.forward
    backward := Function.update v.backward z n.backward
    refs := Function.update v.refs z n.refs
    words := Function.update v.words z n.words
    urls := Function.update v.urls z n.urls
    tags := Function.update v.tags z n.tags }

namespace Tables

def view (t : Tables) : View :=
  { dead := fun z => (t.node z).dead
    forward := fun z => (t.node z).forward
    backward := fun z => (t.node z).backward
    refs := fun z key => (t.node z).refs key
    words := fun z => (t.node z).words
    urls := fun z => (t.node z).urls
    tags := fun z => (t.node z).tags
    sources := fun z => t.dead.getD z ∅
    holders := fun w => t.words.getD w ∅
    urlHolders := fun w => t.urls.getD w ∅ }

/-- At first there is nothing to see. -/
theorem view_empty :
    empty.view = ⟨fun _ => ∅, fun _ => ∅, fun _ => ∅, fun _ _ => Refs.empty, fun _ => [],
      fun _ => [], fun _ => "", fun _ => ∅, fun _ => ∅, fun _ => ∅⟩ := by
  unfold view node empty
  simp only [Std.ExtTreeMap.getD_empty, Node.refs_empty]
  rfl

theorem node_edit (t : Tables) (z a : Zid) (f : Node → Node) :
    (t.edit z f).node a = if a = z then f (t.node z) else t.node a :=
  getD_insert_eq t.nodes z a _ Node.empty

theorem node_editOld (t : Tables) (z a : Zid) {f : Node → Node} (hf : f Node.empty = Node.empty) :
    (t.editOld z f).node a = if a = z then f (t.node z) else t.node a := by
  unfold editOld
  cases hz : t.nodes[z]? with
  | none =>
    have hd : t.node z = Node.empty := getD_of_getElem?_none hz _
    show t.node a = _
    split
    next h => rw [h, hd, hf]
    next => rfl
  | some n =>
    have hd : t.node z = n := getD_of_getElem? hz _
    rw [hd]
    exact getD_insert_eq t.nodes z a _ Node.empty

/-- Changing one node is seen at that node only. -/
theorem view_of_node {t t' : Tables} {z : Zid} {n : Node}
    (hnode : ∀ a, t'.node a = if a = z then n else t.node a) (hd : t'.dead = t.dead)
    (hw : t'.words = t.words) (hu : t'.urls = t.urls) : t'.view = t.view.setNode z n := by
  unfold view View.setNode
  simp only [hnode, hd, hw, hu, View.mk.injEq, and_self, and_true, funext_iff, Function.update_apply]
  refine ⟨?_, ?_, ?_, ?_, ?_, ?_, ?_⟩ <;> intro a <;> split <;> simp

theorem view_edit (t : Tables) (z : Zid) (f : Node → Node) :
    (t.edit z f).view = t.view.setNode z (f (t.node z)) :=
  view_of_node (fun a => t.node_edit z a f) rfl rfl rfl

theorem view_editOld (t : Tables) (z : Zid) {f : Node → Node} (hf : f Node.empty = Node.empty) :
    (t.editOld z f).view = t.view.setNode z (f (t.node z)) := by
  refine view_of_node (fun a => t.node_editOld z a hf) ?_ ?_ ?_ <;>
  · unfold editOld
    cases t.nodes[z]? <;> rfl

theorem dropDeadSource_eq (t : Tables) (source target : Zid) :
    t.dropDeadSource source target = { t with dead := dropMember t.dead target source } := by
  unfold dropDeadSource dropMember
  cases t.dead[target]? <;> rfl

theorem node_reap (t : Tables) (z a : Zid) : (t.reap z).node a = t.node a := by
  unfold reap
  cases hz : t.nodes[z]? with
  | none => rfl
  | some n =>
    show (if n.isEmpty then { t with nodes := t.nodes.erase z } else t).node a = t.node a
    split
    next he =>
      have hd : t.node z = Node.empty := by
        rw [← (Node.isEmpty_iff n).mp he]
        exact getD_of_getElem? hz _
      show (t.nodes.erase z).getD a Node.empty = _
      rw [getD_erase_eq]
      split
      next h => rw [h, hd]
      next => rfl
    next => rfl

theorem reap_frame (t : Tables) (z : Zid) :
    (t.reap z).dead = t.dead ∧ (t.reap z).words = t.words ∧ (t.reap z).urls = t.urls := by
  unfold reap
  cases t.nodes[z]? with
  | none => exact ⟨rfl, rfl, rfl⟩
  | some n => cases h : n.isEmpty <;> simp only [h, Bool.false_eq_true, ↓reduceIte, and_self]

@[simp]
theorem view_reap (t : Tables) (z : Zid) : (t.reap z).view = t.view := by
  rcases t.reap_frame z with ⟨hd, hw, hu⟩
  unfold view
  simp only [node_reap, hd, hw, hu]

@[simp]
theorem view_reapAll (t : Tables) (zs : List Zid) : (t.reapAll zs).view = t.view := by
  unfold reapAll
  induction zs generalizing t with
  | nil => rfl
  | cons z rest ih => rw [List.foldl_cons, ih, view_reap]

end Tables

end Kasten.Index
