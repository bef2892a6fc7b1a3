import Kasten.Index.Store
import Kasten.Proofs.Index.Forget

/-!
# Consistency of the index

Whatever records are taken in and whatever zettel are forgotten, both halves of every reference
stay in the tables, everything in them stays in order, and nothing empty is left behind.
-/

namespace Kasten.Index

/-! ## 1. The halves of references -/

/-- Replacing a row on one side and placing its zettel on the other keeps the two in line. -/
theorem mem_update_iff_mem_place {S β : Type} [Membership β S] {f : Zid → S} {s : S}
    {row : ZidSlice} {z a : Zid} {b : β} {isIn : Bool} (hs : isIn = true ↔ b ∈ s)
    (h : b ∈ f a ↔ a ∈ row) : b ∈ Function.update f z s a ↔ a ∈ row.place z isIn := by
  rw [ZidSlice.mem_place, Function.update_apply]
  split
  · exact hs.symm
  · exact h

theorem ascending_update {f : Zid → ZidSlice} (hf : ∀ a, (f a).Ascending) {z : Zid} {s : ZidSlice}
    (hs : s.Ascending) (a : Zid) : (Function.update f z s a).Ascending := by
  rw [Function.update_apply]
  split
  · exact hs
  · exact hf a

theorem sorted_update {f : Zid → List String} (hf : ∀ a, (f a).Pairwise (· < ·)) {z : Zid}
    {l : List String} (hl : l.Pairwise (· < ·)) (a : Zid) :
    (Function.update f z l a).Pairwise (· < ·) := by
  rw [Function.update_apply]
  split
  · exact hl
  · exact hf a

theorem mem_withdrawn {s : ZidSlice} {z a b : Zid} :
    b ∈ (if a = z then ∅ else s.erase z) ↔ a ≠ z ∧ b ≠ z ∧ b ∈ s := by
  split
  next h => simp [h]
  next h => rw [ZidSlice.mem_erase, and_iff_right h]

theorem ascending_withdrawn {s : ZidSlice} (hs : s.Ascending) (z a : Zid) :
    (if a = z then ∅ else s.erase z).Ascending := by
  split
  · exact ZidSlice.ascending_empty
  · exact hs.erase z

theorem View.delete_typed_forward (v : View) (z a : Zid) (key : String) :
    ((v.delete z).refs a key).forward =
      if a = z then ∅ else (v.refs a key).forward.erase z := by
  show (if a = z then Refs.empty else _).forward = _
  split <;> rfl

theorem View.delete_typed_backward (v : View) (z a : Zid) (key : String) :
    ((v.delete z).refs a key).backward =
      if a = z then ∅ else (v.refs a key).backward.erase z := by
  show (if a = z then Refs.empty else _).backward = _
  split <;> rfl

theorem View.update_typed_forward (v : View) (r : Record) (a : Zid) (key : String) :
    ((v.update r).refs a key).forward =
      Function.update (fun a => (v.refs a key).forward) r.zid (r.typed.getD key ∅).slice a := by
  rw [Function.update_apply]
  rfl

namespace View.Linked

variable {v : View}

theorem update (hv : v.Linked) (r : Record) : (v.update r).Linked where
  forward_iff z a := mem_update_iff_mem_place decide_eq_true_iff (hv.forward_iff z a)
  typed_iff key z a := by
    rw [v.update_typed_forward]
    exact mem_update_iff_mem_place decide_eq_true_iff (hv.typed_iff key z a)
  dead_iff z a := mem_update_iff_mem_place decide_eq_true_iff (hv.dead_iff z a)
  words_iff z w := mem_update_iff_mem_place decide_eq_true_iff (hv.words_iff z w)
  urls_iff z w := mem_update_iff_mem_place decide_eq_true_iff (hv.urls_iff z w)
  dead_ascending := ascending_update hv.dead_ascending (ZidSet.ascending_slice _)
  forward_ascending := ascending_update hv.forward_ascending (ZidSet.ascending_slice _)
  backward_ascending a := (hv.backward_ascending a).place _ _
  typed_ascending a key e := by
    cases e
    · show ((v.update r).refs a key).forward.Ascending
      rw [v.update_typed_forward]
      exact ascending_update (fun a => hv.typed_ascending a key .forward)
        (ZidSet.ascending_slice _) a
    · exact (hv.typed_ascending a key .backward).place _ _
  sources_ascending a := (hv.sources_ascending a).place _ _
  holders_ascending w := (hv.holders_ascending w).place _ _
  urlHolders_ascending w := (hv.urlHolders_ascending w).place _ _
  words_sorted := sorted_update hv.words_sorted (sorted_toList _)
  urls_sorted := sorted_update hv.urls_sorted (sorted_toList _)

theorem empty : Tables.empty.view.Linked where
  forward_iff _ _ := by simp [Tables.view_empty]
  typed_iff _ _ _ := by simp [Tables.view_empty, Refs.empty]
  dead_iff _ _ := by simp [Tables.view_empty]
  words_iff _ _ := by simp [Tables.view_empty]
  urls_iff _ _ := by simp [Tables.view_empty]
  dead_ascending _ := ZidSlice.ascending_empty
  forward_ascending _ := ZidSlice.ascending_empty
  backward_ascending _ := ZidSlice.ascending_empty
  typed_ascending _ _ e := by cases e <;> exact ZidSlice.ascending_empty
  sources_ascending _ := ZidSlice.ascending_empty
  holders_ascending _ := ZidSlice.ascending_empty
  urlHolders_ascending _ := ZidSlice.ascending_empty
  words_sorted _ := List.Pairwise.nil
  urls_sorted _ := List.Pairwise.nil

theorem delete (hv : v.Linked) (z : Zid) : (v.delete z).Linked where
  forward_iff b a := by
    show a ∈ (if b = z then ∅ else (v.forward b).erase z) ↔
      b ∈ (if a = z then ∅ else (v.backward a).erase z)
    rw [mem_withdrawn, mem_withdrawn, hv.forward_iff]
    tauto
  typed_iff key b a := by
    rw [View.delete_typed_forward, View.delete_typed_backward, mem_withdrawn, mem_withdrawn,
      hv.typed_iff]
    tauto
  dead_iff b a := by
    show a ∈ Function.update v.dead z _ b ↔ b ∈ (v.sources a).place z false
    exact mem_update_iff_mem_place (by simp) (hv.dead_iff b a)
  words_iff b w := by
    show w ∈ Function.update v.words z _ b ↔ b ∈ (v.holders w).place z false
    exact mem_update_iff_mem_place (by simp) (hv.words_iff b w)
  urls_iff b w := by
    show w ∈ Function.update v.urls z _ b ↔ b ∈ (v.urlHolders w).place z false
    exact mem_update_iff_mem_place (by simp) (hv.urls_iff b w)
  dead_ascending := ascending_update hv.dead_ascending ZidSlice.ascending_empty
  forward_ascending a := ascending_withdrawn (hv.forward_ascending a) z a
  backward_ascending a := ascending_withdrawn (hv.backward_ascending a) z a
  typed_ascending a key e := by
    cases e
    · show ((v.delete z).refs a key).forward.Ascending
      rw [View.delete_typed_forward]
      exact ascending_withdrawn (hv.typed_ascending a key .forward) z a
    · show ((v.delete z).refs a key).backward.Ascending
      rw [View.delete_typed_backward]
      exact ascending_withdrawn (hv.typed_ascending a key .backward) z a
  sources_ascending a := (hv.sources_ascending a).erase z
  holders_ascending w := (hv.holders_ascending w).erase z
  urlHolders_ascending w := (hv.urlHolders_ascending w).erase z
  words_sorted := sorted_update hv.words_sorted List.Pairwise.nil
  urls_sorted := sorted_update hv.urls_sorted List.Pairwise.nil

end View.Linked

/-! ## 2. What is left in the tables -/

namespace Tables.Stored

variable {t : Tables} {loose : List Zid}

theorem relinkDead (h : t.Stored loose) {z : Zid} (hz : z ∈ loose) (new old : ZidSlice) :
    (t.relinkDead z new old).Stored loose := by
  have hadded := h.foldl (·.addDeadSource z ·) (new.diff old).1.ids
    fun t a _ ht => ht.addDeadSource z a
  have hremoved := hadded.foldl (·.dropDeadSource z ·) (new.diff old).2.ids
    fun t a _ ht => ht.dropDeadSource z a
  exact hremoved.edit z (fun n => { n with dead := new }) (hremoved.typed z) (Or.inl hz)

/-- A node can lose its last reference only while it is touched. -/
theorem relinkForward (h : t.Stored loose) {z : Zid} (hz : z ∈ loose) (new old : ZidSlice) :
    (t.relinkForward z new old).1.Stored (loose ++ (t.relinkForward z new old).2) := by
  have hset := h.edit z (fun n => { n with forward := new }) (h.typed z) (Or.inl hz)
  have hadded := hset.foldl (·.addBackward z ·) (new.diff old).1.ids
    fun t a _ ht => ht.addBackward z a
  have hmore := hadded.mono (loose ++ (new.diff old).2.ids) fun a ha => List.mem_append_left _ ha
  exact hmore.foldl (·.dropBackward z ·) (new.diff old).2.ids
    fun t a ha ht => ht.dropBackward z (List.mem_append_right _ ha)

theorem unlinkTyped {z : Zid} {s : Tables × List Zid} (h : s.1.Stored (z :: s.2))
    (p : String × Refs) :
    (Tables.unlinkTyped z s p).1.Stored (z :: (Tables.unlinkTyped z s p).2) := by
  have hmore := h.mono (z :: (s.2 ++ p.2.forward.ids)) (List.cons_subset_cons z
    (List.subset_append_left s.2 p.2.forward.ids))
  have hdropped := hmore.foldl (Tables.dropTypedBackward p.1 · z ·) p.2.forward.ids
    fun t a ha ht =>
      ht.dropTypedBackward p.1 z (List.mem_cons_of_mem z (List.mem_append_right _ ha))
  exact hdropped.edit z _ (Node.omits_editTypedOld (hdropped.typed z) p.1 _)
    (Or.inl List.mem_cons_self)

theorem relinkTyped {z : Zid} {s : Tables × List Zid} (h : s.1.Stored (z :: s.2)) (old : Node)
    (p : String × ZidSet) :
    (Tables.relinkTyped z old s p).1.Stored (z :: (Tables.relinkTyped z old s p).2) := by
  let change := p.2.slice.diff (old.typed.getD p.1 Refs.empty).forward
  have hadded := h.foldl (Tables.addTypedBackward p.1 · z ·) change.1.ids
    fun t a _ ht => ht.addTypedBackward p.1 z a
  have hmore := hadded.mono (z :: (s.2 ++ change.2.ids)) (List.cons_subset_cons z
    (List.subset_append_left s.2 change.2.ids))
  have hdropped := hmore.foldl (Tables.dropTypedBackward p.1 · z ·) change.2.ids
    fun t a ha ht =>
      ht.dropTypedBackward p.1 z (List.mem_cons_of_mem z (List.mem_append_right _ ha))
  exact hdropped.edit z (fun n => n.editTyped p.1 fun r => { r with forward := p.2.slice })
    (Node.omits_editTyped (hdropped.typed z) p.1 _)
    (Or.inl List.mem_cons_self)

theorem update (h : t.Stored []) (r : Record) : (t.update r).2.Stored [] := by
  let z := r.zid
  let old := t.node z
  let s1 := (t.relinkDead z r.dead.slice old.dead).relinkForward z r.forward.slice old.forward
  let s2 := (gone old r).foldl (Tables.unlinkTyped z) s1
  let s3 := r.typed.toList.foldl (Tables.relinkTyped z old) s2
  have hz : t.Stored [z] := h.mono [z] (List.nil_subset _)
  have h1 : s1.1.Stored (z :: s1.2) :=
    (hz.relinkDead List.mem_cons_self _ _).relinkForward List.mem_cons_self _ _
  have h2 : s2.1.Stored (z :: s2.2) :=
    foldl_loose (List.cons z) (Tables.unlinkTyped z) (fun _ p hs => hs.unlinkTyped p) h1 _
  have h3 : s3.1.Stored (z :: s3.2) :=
    foldl_loose (List.cons z) (Tables.relinkTyped z old) (fun _ p hs => hs.relinkTyped old p) h2 _
  have h4 := h3.relist z r.words.toList old.words r.urls.toList old.urls
  have h5 := h4.edit z
    (fun n => { n with words := r.words.toList, urls := r.urls.toList, tags := r.tagText })
    (h4.typed z) (Or.inl List.mem_cons_self)
  exact h5.reapAll

theorem eraseNode (h : t.Stored loose) (z : Zid) :
    ({ t with nodes := t.nodes.erase z } : Tables).Stored loose := by
  refine ⟨?_, ?_, h.dead, h.words, h.urls⟩
  · intro a ha
    change (t.nodes.erase z)[a]? = _ at ha
    rw [Std.ExtTreeMap.getElem?_erase] at ha
    split at ha
    · exact absurd ha.symm (Option.some_ne_none _)
    · exact h.nodes a ha
  · intro a
    show Omits ((t.nodes.erase z).getD a Node.empty).typed Refs.empty
    rw [getD_erase_eq]
    split
    · exact omits_empty _
    · exact h.typed a

theorem forgetTyped {z : Zid} {s : Tables × List Zid × ZidSet} (h : s.1.Stored s.2.1)
    (p : String × Refs) :
    (Tables.forgetTyped z s p).1.Stored (Tables.forgetTyped z s p).2.1 := by
  let targets := p.2.forward.ids.filter (· ≠ z)
  let sources := p.2.backward.ids.filter (· ≠ z)
  have hmore := h.mono (s.2.1 ++ targets ++ sources) fun a ha =>
    List.mem_append_left _ (List.mem_append_left _ ha)
  have htargets := hmore.foldl (Tables.dropTypedBackward p.1 · z ·) targets fun t a ha ht =>
    ht.dropTypedBackward p.1 z (List.mem_append_left _ (List.mem_append_right _ ha))
  exact htargets.foldl (Tables.dropTypedForward p.1 · z ·) sources fun t a ha ht =>
    ht.dropTypedForward p.1 z (List.mem_append_right _ ha)

theorem delete (h : t.Stored []) (z : Zid) : (t.delete z).2.Stored [] := by
  unfold Tables.delete
  cases hz : t.nodes[z]? with
  | none => exact h
  | some n =>
    let targets := n.forward.ids.filter (· ≠ z)
    let sources := n.backward.ids.filter (· ≠ z)
    have hdead := (h.eraseNode z).foldl (·.dropDeadSource z ·) n.dead.ids
      fun t a _ ht => ht.dropDeadSource z a
    have hmore := hdead.mono (targets ++ sources) (List.nil_subset _)
    have htargets := hmore.foldl (·.dropBackward z ·) targets fun t a ha ht =>
      ht.dropBackward z (List.mem_append_left _ ha)
    have hsources := htargets.foldl (·.dropForward z ·) sources fun t a ha ht =>
      ht.dropForward z (List.mem_append_right _ ha)
    have htyped := foldl_loose Prod.fst (Tables.forgetTyped z) (fun _ p hs => hs.forgetTyped p)
      (s := (_, targets ++ sources, ZidSet.ofZids sources)) hsources n.typed.toList
    exact (htyped.relist z [] n.words [] n.urls).reapAll

end Tables.Stored

/-! ## 3. Tables that fit together -/

namespace Tables

/-- Both halves of everything are there, all lists are in order, and nothing empty is stored. -/
structure Consistent (t : Tables) : Prop where
  forward_iff (z a : Zid) : a ∈ (t.node z).forward ↔ z ∈ (t.node a).backward
  typed_iff (key : String) (z a : Zid) :
    a ∈ ((t.node z).refs key).forward ↔ z ∈ ((t.node a).refs key).backward
  dead_iff (z a : Zid) : a ∈ (t.node z).dead ↔ z ∈ t.dead.getD a ∅
  words_iff (z : Zid) (w : String) : w ∈ (t.node z).words ↔ z ∈ t.words.getD w ∅
  urls_iff (z : Zid) (w : String) : w ∈ (t.node z).urls ↔ z ∈ t.urls.getD w ∅
  node_ascending (z : Zid) :
    (t.node z).dead.Ascending ∧ (t.node z).forward.Ascending ∧ (t.node z).backward.Ascending
  typed_ascending (z : Zid) (key : String) :
    ((t.node z).refs key).forward.Ascending ∧ ((t.node z).refs key).backward.Ascending
  row_ascending : (∀ a, (t.dead.getD a ∅).Ascending) ∧ (∀ w, (t.words.getD w ∅).Ascending) ∧
    ∀ w, (t.urls.getD w ∅).Ascending
  texts_sorted (z : Zid) :
    (t.node z).words.Pairwise (· < ·) ∧ (t.node z).urls.Pairwise (· < ·)
  node_nonempty (z : Zid) (n : Node) : t.nodes[z]? = some n → n.isEmpty = false
  typed_nonempty (z : Zid) (n : Node) (key : String) (refs : Refs) :
    t.nodes[z]? = some n → n.typed[key]? = some refs → refs.isEmpty = false
  dead_nonempty (a : Zid) (row : ZidSlice) : t.dead[a]? = some row → row.isEmpty = false
  words_nonempty (w : String) (row : ZidSlice) : t.words[w]? = some row → row.isEmpty = false
  urls_nonempty (w : String) (row : ZidSlice) : t.urls[w]? = some row → row.isEmpty = false

theorem row_nonempty {κ : Type} [Ord κ] [Std.TransOrd κ] {m : Std.ExtTreeMap κ ZidSlice}
    (hm : Omits m ∅) (k : κ) (row : ZidSlice) (h : m[k]? = some row) : row.isEmpty = false := by
  rw [Bool.eq_false_iff, ne_eq, ZidSlice.isEmpty_iff]
  rintro rfl
  exact hm k h

theorem consistent_of_linked {t : Tables} (hv : t.view.Linked) (hs : t.Stored []) :
    t.Consistent where
  forward_iff := hv.forward_iff
  typed_iff := hv.typed_iff
  dead_iff := hv.dead_iff
  words_iff := hv.words_iff
  urls_iff := hv.urls_iff
  node_ascending z := ⟨hv.dead_ascending z, hv.forward_ascending z, hv.backward_ascending z⟩
  typed_ascending z key := ⟨hv.typed_ascending z key .forward, hv.typed_ascending z key .backward⟩
  row_ascending := ⟨hv.sources_ascending, hv.holders_ascending, hv.urlHolders_ascending⟩
  texts_sorted z := ⟨hv.words_sorted z, hv.urls_sorted z⟩
  node_nonempty z n h := by
    rw [Bool.eq_false_iff, ne_eq, Node.isEmpty_iff]
    rintro rfl
    exact hs.omits_nodes z h
  typed_nonempty z n key refs hz hkey := by
    rw [Bool.eq_false_iff, ne_eq, Refs.isEmpty_iff]
    rintro rfl
    have hn : t.node z = n := getD_of_getElem? hz _
    exact hs.typed z key (by rw [hn]; exact hkey)
  dead_nonempty := row_nonempty hs.dead
  words_nonempty := row_nonempty hs.words
  urls_nonempty := row_nonempty hs.urls

/-! ## 4. The report of problems -/

theorem require_eq_nil {condition : Bool} {message : String} (h : condition = true) :
    require condition message = [] := by
  rw [require, if_pos h]

theorem edgeProblems_eq_nil {t : Tables} (h : t.Consistent) (z : Zid) :
    t.edgeProblems z (t.node z) = [] := by
  unfold edgeProblems
  rw [List.append_eq_nil_iff, List.append_eq_nil_iff, List.flatMap_eq_nil_iff,
    List.flatMap_eq_nil_iff, List.flatMap_eq_nil_iff]
  refine ⟨⟨?_, ?_⟩, ?_⟩ <;> intro a ha <;> refine require_eq_nil ((ZidSlice.contains_iff _ _).mpr ?_)
  · exact (h.forward_iff z a).mp ha
  · exact (h.forward_iff a z).mpr ha
  · exact (h.dead_iff z a).mp ha

theorem typedProblems_eq_nil {t : Tables} (h : t.Consistent) (z : Zid) (key : String) :
    t.typedProblems z key ((t.node z).refs key) = [] := by
  unfold typedProblems
  rw [List.append_eq_nil_iff, List.flatMap_eq_nil_iff, List.flatMap_eq_nil_iff]
  refine ⟨?_, ?_⟩ <;> intro a ha <;> refine require_eq_nil ((ZidSlice.contains_iff _ _).mpr ?_)
  · exact (h.typed_iff key z a).mp ha
  · exact (h.typed_iff key a z).mpr ha

theorem nodeProblems_eq_nil {t : Tables} (h : t.Consistent) {z : Zid} {n : Node}
    (hz : t.nodes[z]? = some n) : t.nodeProblems z n = [] := by
  have hn : t.node z = n := getD_of_getElem? hz _
  have hempty := h.node_nonempty z n hz
  subst hn
  rcases h.node_ascending z with ⟨hdead, hforward, hbackward⟩
  have htyped : ∀ p ∈ (t.node z).typed.toList, t.typedProblems z p.1 p.2 = [] := by
    intro p hp
    -- A pair in the list of references is what is looked up under its key.
    have hrefs : (t.node z).refs p.1 = p.2 :=
      getD_of_getElem? (Std.ExtTreeMap.mem_toList_iff_getElem?_eq_some.mp hp) _
    have hnil := typedProblems_eq_nil h z p.1
    rwa [hrefs] at hnil
  have hwords : ((t.node z).words.flatMap fun word =>
      require ((t.words.getD word ∅).contains z) s!"{z}: word {word} not inverted") = [] := by
    rw [List.flatMap_eq_nil_iff]
    intro w hw
    exact require_eq_nil ((ZidSlice.contains_iff _ _).mpr ((h.words_iff z w).mp hw))
  unfold nodeProblems
  rw [require_eq_nil (by rw [hempty]; rfl), require_eq_nil (decide_eq_true hdead),
    require_eq_nil (decide_eq_true hforward), require_eq_nil (decide_eq_true hbackward),
    edgeProblems_eq_nil h, hwords, List.append_nil]
  exact List.flatMap_eq_nil_iff.mpr htyped

/-- Where everything fits together there is nothing to report. -/
theorem problems_eq_nil {t : Tables} (h : t.Consistent) : t.problems = [] := by
  unfold problems
  rw [List.append_eq_nil_iff, List.append_eq_nil_iff, List.flatMap_eq_nil_iff,
    List.flatMap_eq_nil_iff, List.flatMap_eq_nil_iff]
  refine ⟨⟨?_, ?_⟩, ?_⟩
  · intro p hp
    exact nodeProblems_eq_nil h (Std.ExtTreeMap.mem_toList_iff_getElem?_eq_some.mp hp)
  · intro p hp
    have hrow : t.dead.getD p.1 ∅ = p.2 :=
      getD_of_getElem? (Std.ExtTreeMap.mem_toList_iff_getElem?_eq_some.mp hp) _
    rw [List.flatMap_eq_nil_iff]
    intro a ha
    refine require_eq_nil ((ZidSlice.contains_iff _ _).mpr ((h.dead_iff a p.1).mpr ?_))
    rw [hrow]
    exact ha
  · intro p hp
    have hrow : t.words.getD p.1 ∅ = p.2 :=
      getD_of_getElem? (Std.ExtTreeMap.mem_toList_iff_getElem?_eq_some.mp hp) _
    rw [List.flatMap_eq_nil_iff]
    intro a ha
    have hin : p.1 ∈ (t.node a).words := (h.words_iff a p.1).mpr (by rw [hrow]; exact ha)
    exact require_eq_nil (List.contains_iff_mem.mpr hin)

end Tables

/-! ## 5. All histories -/

/-- What is asked of a store that changes its tables. -/
inductive Call where
  | update (r : Record)
  | delete (z : Zid)

namespace Store

/-- Does what is asked, with the zettel to look at again as the answer. -/
def call (s : Store) : Call → ZidSet × Store
  | .update r => s.update r
  | .delete z => s.delete z

def callAll (s : Store) (calls : List Call) : Store := calls.foldl (fun s c => (s.call c).2) s

/-- The invariant of all histories. -/
structure Sound (s : Store) : Prop where
  linked : s.tables.view.Linked
  stored : s.tables.Stored []

theorem sound_new : new.Sound := ⟨View.Linked.empty, Tables.stored_empty⟩

theorem Sound.call {s : Store} (h : s.Sound) (c : Call) : (s.call c).2.Sound := by
  cases c with
  | update r =>
    refine ⟨?_, h.stored.update r⟩
    show (s.tables.update r).2.view.Linked
    rw [Tables.view_update s.tables r h.linked]
    exact h.linked.update r
  | delete z =>
    refine ⟨?_, h.stored.delete z⟩
    show (s.tables.delete z).2.view.Linked
    rw [Tables.view_delete s.tables z h.linked]
    exact h.linked.delete z

theorem Sound.callAll {s : Store} (h : s.Sound) (calls : List Call) : (s.callAll calls).Sound := by
  unfold Store.callAll
  -- By induction over the calls, from any store that is sound.
  induction calls generalizing s with
  | nil => exact h
  | cons c rest ih => exact ih (h.call c)

/-- No history of calls leads to tables that do not fit together. -/
theorem callAll_consistent (calls : List Call) :
    (new.callAll calls).tables.Consistent ∧ (new.callAll calls).tables.problems = [] := by
  have hsound := sound_new.callAll calls
  have hconsistent := Tables.consistent_of_linked hsound.linked hsound.stored
  exact ⟨hconsistent, Tables.problems_eq_nil hconsistent⟩

end Store

end Kasten.Index
