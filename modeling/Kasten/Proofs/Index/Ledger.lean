import Kasten.Proofs.Index.Consistency

/-!
# The index as a ledger

Seen from outside, the index keeps for each zettel what the last record said of it. A ledger does
just that, without any table: a record replaces the one before, and forgetting a zettel takes it
out of the references of all others. The tables answer every call as the ledger does, and nothing
is left in them of the order in which they were filled.
-/

namespace Kasten.Index

/-! ## 1. The ledger -/

/-- What a record says of its zettel. A key without targets is as good as no key. -/
@[ext]
structure Content where
  dead : ZidSet
  forward : ZidSet
  typed : String → ZidSet
  words : TextSet
  urls : TextSet
  tags : String

namespace Content

def empty : Content := ⟨∅, ∅, fun _ => ∅, ∅, ∅, ""⟩

/-- Without the references to a zettel, unless they are dead. -/
def without (c : Content) (z : Zid) : Content :=
  { c with forward := c.forward.erase z, typed := fun key => (c.typed key).erase z }

def RefersTo (c : Content) (z : Zid) : Prop := z ∈ c.forward ∨ ∃ key, z ∈ c.typed key

theorem without_empty (z : Zid) : empty.without z = empty := by
  simp [without, empty]

theorem not_refersTo_empty (z : Zid) : ¬ empty.RefersTo z := by
  rintro (hforward | ⟨key, htyped⟩)
  · exact Std.ExtTreeSet.not_mem_empty hforward
  · exact Std.ExtTreeSet.not_mem_empty htyped

theorem without_of_not_refersTo {c : Content} {z : Zid} (h : ¬ c.RefersTo z) :
    c.without z = c := by
  rcases not_or.mp h with ⟨hforward, htyped⟩
  have herase : ∀ {s : ZidSet}, z ∉ s → s.erase z = s := by
    intro s hz
    apply Std.ExtTreeSet.ext_mem
    intro t
    rw [Std.ExtTreeSet.mem_erase, ne_eq, Std.compare_eq_iff_eq]
    apply and_iff_right_of_imp
    rintro ht rfl
    exact hz ht
  exact Content.ext rfl (herase hforward) (funext fun key => herase fun hz => htyped ⟨key, hz⟩)
    rfl rfl rfl

end Content

def Record.content (r : Record) : Content :=
  ⟨r.dead, r.forward, fun key => r.typed.getD key ∅, r.words, r.urls, r.tagText⟩

abbrev Ledger := Zid → Content

namespace Ledger

def empty : Ledger := fun _ => Content.empty

def call (m : Ledger) : Call → Ledger
  | .update r => Function.update m r.zid r.content
  | .delete z => fun a => if a = z then Content.empty else (m a).without z

def callAll (m : Ledger) (calls : List Call) : Ledger := calls.foldl call m

theorem callAll_append (m : Ledger) (calls calls' : List Call) :
    m.callAll (calls ++ calls') = (m.callAll calls).callAll calls' :=
  List.foldl_append

theorem callAll_updates_of_not_mem {records : List Record} {z : Zid}
    (hz : z ∉ records.map Record.zid) (m : Ledger) :
    m.callAll (records.map .update) z = m z := by
  induction records generalizing m with
  | nil => rfl
  | cons r rest ih =>
    rw [List.map_cons, List.mem_cons, not_or] at hz
    exact (ih hz.2 (m.call (.update r))).trans (Function.update_of_ne hz.1 _ _)

/-- Of records of different zettel each is kept. -/
theorem callAll_updates_of_mem {records : List Record} (hnodup : (records.map Record.zid).Nodup)
    {r : Record} (hr : r ∈ records) (m : Ledger) :
    m.callAll (records.map .update) r.zid = r.content := by
  induction records generalizing m with
  | nil => exact absurd hr List.not_mem_nil
  | cons first rest ih =>
    rw [List.map_cons, List.nodup_cons] at hnodup
    rcases List.mem_cons.mp hr with rfl | hr
    · exact (callAll_updates_of_not_mem hnodup.1 _).trans (Function.update_self _ _ _)
    · exact ih hnodup.2 hr (m.call (.update first))

/-- What is known of a zettel goes back to a record of it among the calls, less the references to
zettel that were forgotten since. -/
def StemsFrom (m : Ledger) (calls : List Call) : Prop :=
  ∀ z, m z = Content.empty ∨ ∃ r, Call.update r ∈ calls ∧ r.zid = z ∧
    (∀ t ∈ (m z).forward, t ∈ r.forward) ∧
    ∀ key, ∀ t ∈ (m z).typed key, t ∈ r.typed.getD key ∅

theorem StemsFrom.call {m : Ledger} {calls : List Call} {c : Call} (h : m.StemsFrom calls)
    (hc : c ∈ calls) : (m.call c).StemsFrom calls := by
  intro z
  cases c with
  | update r =>
    by_cases hz : z = r.zid
    · have hcontent : m.call (.update r) z = r.content := hz ▸ Function.update_self _ _ _
      rw [hcontent]
      exact .inr ⟨r, hc, hz.symm, fun t ht => ht, fun key t ht => ht⟩
    · rw [show m.call (.update r) z = m z from Function.update_of_ne hz _ _]
      exact h z
  | delete gone =>
    by_cases hz : z = gone
    · exact .inl (if_pos hz)
    · rw [show m.call (.delete gone) z = (m z).without gone from if_neg hz]
      rcases h z with hnone | ⟨r, hr, hzid, hforward, htyped⟩
      · exact .inl (hnone ▸ Content.without_empty gone)
      · exact .inr ⟨r, hr, hzid, fun t ht => hforward t (Std.ExtTreeSet.mem_of_mem_erase ht),
          fun key t ht => htyped key t (Std.ExtTreeSet.mem_of_mem_erase ht)⟩

theorem stemsFrom_callAll (calls : List Call) : (empty.callAll calls).StemsFrom calls :=
  List.foldlRecOn (motive := fun m : Ledger => m.StemsFrom calls) calls call (fun _ => .inl rfl)
    fun _ hm _ hc => hm.call hc

theorem empty_call_delete (z : Zid) : empty.call (.delete z) = empty := by
  funext a
  show (if a = z then Content.empty else Content.empty.without z) = Content.empty
  split
  · rfl
  · exact Content.without_empty z

/-- The zettel to look at again. -/
def Answers (m : Ledger) : Call → Zid → Prop
  | .update r, a => a ≠ r.zid ∧ r.zid ∈ (m a).dead
  | .delete z, a => a ≠ z ∧ (m a).RefersTo z

/-- A zettel of which nothing is known is never to be looked at again. -/
theorem not_answers_of_empty {m : Ledger} {a : Zid} (h : m a = Content.empty) (c : Call) :
    ¬ m.Answers c a := by
  cases c with
  | update r =>
    rintro ⟨-, hdead⟩
    rw [h] at hdead
    exact Std.ExtTreeSet.not_mem_empty hdead
  | delete z =>
    rintro ⟨-, hrefers⟩
    rw [h] at hrefers
    exact Content.not_refersTo_empty z hrefers

/-- Only the zettel itself and those that the answer names lose anything. -/
theorem call_delete_of_not_answers {m : Ledger} {z a : Zid} (haz : a ≠ z)
    (ha : ¬ m.Answers (.delete z) a) : m.call (.delete z) a = m a := by
  have hrefers : ¬ (m a).RefersTo z := fun hrefers => ha ⟨haz, hrefers⟩
  exact (if_neg haz).trans (Content.without_of_not_refersTo hrefers)

end Ledger

/-! ## 2. What the tables show of a ledger -/

/-- The own half of everything is what the ledger has. -/
structure View.Shows (v : View) (m : Ledger) : Prop where
  dead (z : Zid) : v.dead z = (m z).dead.slice
  forward (z : Zid) : v.forward z = (m z).forward.slice
  typed (z : Zid) (key : String) : (v.refs z key).forward = ((m z).typed key).slice
  words (z : Zid) : v.words z = (m z).words.toList
  urls (z : Zid) : v.urls z = (m z).urls.toList
  tags (z : Zid) : v.tags z = (m z).tags

theorem slice_empty : ZidSet.slice ∅ = ∅ :=
  congrArg ZidSlice.mk (Std.ExtTreeSet.toList_eq_nil_iff.mpr rfl)

theorem slice_erase (s : ZidSet) (z : Zid) : ZidSet.slice (s.erase z) = s.slice.erase z := by
  apply (ZidSet.ascending_slice _).ext ((ZidSet.ascending_slice s).erase z)
  intro a
  rw [ZidSet.mem_slice, Std.ExtTreeSet.mem_erase, ZidSlice.mem_erase, ZidSet.mem_slice, ne_eq,
    Std.compare_eq_iff_eq, eq_comm]

theorem toList_empty : (∅ : TextSet).toList = [] := Std.ExtTreeSet.toList_eq_nil_iff.mpr rfl

/-- A part of a record in the place of the part before. -/
theorem update_shows {β : Type} (part : Content → β) {f : Zid → β} {m : Ledger} (r : Record)
    {a : Zid} (h : f a = part (m a)) :
    Function.update f r.zid (part r.content) a = part (m.call (.update r) a) := by
  show _ = part (Function.update m r.zid r.content a)
  rw [Function.update_apply, Function.update_apply]
  split
  · rfl
  · exact h

/-- Nothing in the place of a part of what was there. -/
theorem delete_shows {β : Type} (part : Content → β) {f : Zid → β} {m : Ledger} (z : Zid)
    {a : Zid} (h : f a = part (m a)) (hpart : part ((m a).without z) = part (m a)) :
    Function.update f z (part Content.empty) a = part (m.call (.delete z) a) := by
  show _ = part (if a = z then Content.empty else (m a).without z)
  rw [Function.update_apply]
  split
  · rfl
  · rw [h, hpart]

/-- A part without the zettel that is forgotten. -/
theorem withdrawn_shows (part : Content → ZidSet) {m : Ledger} {z a : Zid} {s : ZidSlice}
    (h : s = (part (m a)).slice) (hempty : part Content.empty = ∅)
    (hpart : part ((m a).without z) = (part (m a)).erase z) :
    (if a = z then ∅ else s.erase z) = (part (m.call (.delete z) a)).slice := by
  show _ = (part (if a = z then Content.empty else (m a).without z)).slice
  split
  · rw [hempty, slice_empty]
  · rw [hpart, slice_erase, h]

namespace View.Shows

variable {v : View} {m : Ledger}

theorem empty : Tables.empty.view.Shows Ledger.empty := by
  rw [Tables.view_empty]
  exact ⟨fun _ => slice_empty.symm, fun _ => slice_empty.symm, fun _ _ => slice_empty.symm,
    fun _ => toList_empty.symm, fun _ => toList_empty.symm, fun _ => rfl⟩

theorem update (h : v.Shows m) (r : Record) : (v.update r).Shows (m.call (.update r)) where
  dead z := update_shows (fun c => c.dead.slice) r (h.dead z)
  forward z := update_shows (fun c => c.forward.slice) r (h.forward z)
  typed z key := by
    rw [View.update_typed_forward]
    exact update_shows (fun c => (c.typed key).slice) r (h.typed z key)
  words z := update_shows (fun c => c.words.toList) r (h.words z)
  urls z := update_shows (fun c => c.urls.toList) r (h.urls z)
  tags z := update_shows (fun c => c.tags) r (h.tags z)

theorem delete (h : v.Shows m) (z : Zid) : (v.delete z).Shows (m.call (.delete z)) where
  dead a := by
    have hdead := delete_shows (fun c => c.dead.slice) z (h.dead a) rfl
    rwa [show Content.empty.dead.slice = ∅ from slice_empty] at hdead
  forward a := withdrawn_shows (fun c => c.forward) (h.forward a) rfl rfl
  typed a key := by
    rw [View.delete_typed_forward]
    exact withdrawn_shows (fun c => c.typed key) (h.typed a key) rfl rfl
  words a := by
    have hwords := delete_shows (fun c => c.words.toList) z (h.words a) rfl
    rwa [show Content.empty.words.toList = [] from toList_empty] at hwords
  urls a := by
    have hurls := delete_shows (fun c => c.urls.toList) z (h.urls a) rfl
    rwa [show Content.empty.urls.toList = [] from toList_empty] at hurls
  tags a := delete_shows (fun c => c.tags) z (h.tags a) rfl

end View.Shows

/-! ## 3. Nothing else is in the tables -/

/-- Rows that are in order and have the same members are the same. -/
theorem rows_ext {κ : Type} {f g : κ → ZidSlice} (hf : ∀ k, (f k).Ascending)
    (hg : ∀ k, (g k).Ascending) (h : ∀ k z, z ∈ f k ↔ z ∈ g k) : f = g :=
  funext fun k => (hf k).ext (hg k) (h k)

/-- The other halves follow from the own ones. -/
theorem View.Linked.ext_of_shows {v w : View} (hv : v.Linked) (hw : w.Linked) {m : Ledger}
    (hvm : v.Shows m) (hwm : w.Shows m) : v = w := by
  have hdead : v.dead = w.dead := funext fun z => (hvm.dead z).trans (hwm.dead z).symm
  have hforward : v.forward = w.forward := funext fun z => (hvm.forward z).trans (hwm.forward z).symm
  have htyped : ∀ z key, (v.refs z key).forward = (w.refs z key).forward := fun z key =>
    (hvm.typed z key).trans (hwm.typed z key).symm
  have hwords : v.words = w.words := funext fun z => (hvm.words z).trans (hwm.words z).symm
  have hurls : v.urls = w.urls := funext fun z => (hvm.urls z).trans (hwm.urls z).symm
  have htags : v.tags = w.tags := funext fun z => (hvm.tags z).trans (hwm.tags z).symm
  -- The other halves have the same members on both sides, and are in order.
  refine View.ext hdead hforward ?_ ?_ hwords hurls htags ?_ ?_ ?_
  · apply rows_ext hv.backward_ascending hw.backward_ascending
    intro a z
    rw [← hv.forward_iff, ← hw.forward_iff, hforward]
  · funext a key
    have hback : (v.refs a key).backward = (w.refs a key).backward := by
      apply (hv.typed_ascending a key .backward).ext (hw.typed_ascending a key .backward)
      intro z
      show z ∈ (v.refs a key).backward ↔ z ∈ (w.refs a key).backward
      rw [← hv.typed_iff, ← hw.typed_iff, htyped]
    exact Refs.ext (htyped a key) hback
  · apply rows_ext hv.sources_ascending hw.sources_ascending
    intro a z
    rw [← hv.dead_iff, ← hw.dead_iff, hdead]
  · apply rows_ext hv.holders_ascending hw.holders_ascending
    intro a z
    rw [← hv.words_iff, ← hw.words_iff, hwords]
  · apply rows_ext hv.urlHolders_ascending hw.urlHolders_ascending
    intro a z
    rw [← hv.urls_iff, ← hw.urls_iff, hurls]

/-- As nothing empty is stored, tables that show the same are the same. -/
theorem Tables.Stored.ext_of_view {t u : Tables} (ht : t.Stored []) (hu : u.Stored [])
    (h : t.view = u.view) : t = u := by
  have hnode : ∀ z, t.node z = u.node z := by
    intro z
    have htyped : (t.node z).typed = (u.node z).typed := by
      apply (ht.typed z).ext (hu.typed z)
      intro key
      exact congrFun (congrFun (congrArg View.refs h) z) key
    exact Node.ext (congrFun (congrArg View.dead h) z) (congrFun (congrArg View.forward h) z)
      (congrFun (congrArg View.backward h) z) htyped (congrFun (congrArg View.words h) z)
      (congrFun (congrArg View.urls h) z) (congrFun (congrArg View.tags h) z)
  have hnodes : t.nodes = u.nodes := ht.omits_nodes.ext hu.omits_nodes hnode
  have hdead : t.dead = u.dead := ht.dead.ext hu.dead (congrFun (congrArg View.sources h))
  have hwords : t.words = u.words := ht.words.ext hu.words (congrFun (congrArg View.holders h))
  have hurls : t.urls = u.urls := ht.urls.ext hu.urls (congrFun (congrArg View.urlHolders h))
  exact Tables.ext hnodes hdead hwords hurls

/-! ## 4. All histories -/

namespace Store

/-- A store that is sound and shows a ledger. -/
structure Keeps (s : Store) (m : Ledger) : Prop where
  sound : s.Sound
  shows : s.tables.view.Shows m

theorem keeps_new : new.Keeps Ledger.empty := ⟨sound_new, View.Shows.empty⟩

variable {s : Store} {m : Ledger}

theorem Keeps.call (h : s.Keeps m) (c : Call) : (s.call c).2.Keeps (m.call c) := by
  refine ⟨h.sound.call c, ?_⟩
  cases c with
  | update r =>
    show (s.tables.update r).2.view.Shows _
    rw [Tables.view_update s.tables r h.sound.linked]
    exact h.shows.update r
  | delete z =>
    show (s.tables.delete z).2.view.Shows _
    rw [Tables.view_delete s.tables z h.sound.linked]
    exact h.shows.delete z

theorem Keeps.callAll (h : s.Keeps m) (calls : List Call) :
    (s.callAll calls).Keeps (m.callAll calls) := by
  unfold Store.callAll Ledger.callAll
  induction calls generalizing s m with
  | nil => exact h
  | cons c rest ih => exact ih (h.call c)

theorem Keeps.answer (h : s.Keeps m) (c : Call) (a : Zid) :
    a ∈ (s.call c).1 ↔ m.Answers c a := by
  cases c with
  | update r =>
    show a ∈ (s.tables.update r).1 ↔ a ≠ r.zid ∧ r.zid ∈ (m a).dead
    rw [Tables.mem_update_waiting, ← h.sound.linked.dead_iff, h.shows.dead, ZidSet.mem_slice]
  | delete z =>
    show a ∈ (s.tables.delete z).1 ↔ a ≠ z ∧ (z ∈ (m a).forward ∨ ∃ key, z ∈ (m a).typed key)
    simp only [Tables.mem_delete_loose s.tables z h.sound.linked, h.shows.forward, h.shows.typed,
      ZidSet.mem_slice]

/-- No trace of the history is left but the ledger. -/
theorem Keeps.ext {s' : Store} (h : s.Keeps m) (h' : s'.Keeps m) : s.tables = s'.tables :=
  h.sound.stored.ext_of_view h'.sound.stored
    (h.sound.linked.ext_of_shows h'.sound.linked h.shows h'.shows)

/-- Of a zettel without a node nothing is known. -/
theorem Keeps.eq_empty (h : s.Keeps m) {z : Zid} (hz : s.tables.nodes[z]? = none) :
    m z = Content.empty := by
  have hnode : s.tables.node z = Node.empty := getD_of_getElem?_none hz _
  have hslice : ∀ {zs : ZidSet}, zs.slice = ∅ → zs = ∅ := fun {zs} hzs =>
    Std.ExtTreeSet.toList_eq_nil_iff.mp (congrArg ZidSlice.ids hzs)
  have hdead := (h.shows.dead z).symm.trans (congrArg Node.dead hnode)
  have hforward := (h.shows.forward z).symm.trans (congrArg Node.forward hnode)
  have htyped : ∀ key, (m z).typed key = ∅ := fun key =>
    hslice ((h.shows.typed z key).symm.trans
      (congrArg Refs.forward ((congrArg (fun n => Node.refs n key) hnode).trans
        (Node.refs_empty key))))
  have hwords := (h.shows.words z).symm.trans (congrArg Node.words hnode)
  have hurls := (h.shows.urls z).symm.trans (congrArg Node.urls hnode)
  have htags := (h.shows.tags z).symm.trans (congrArg Node.tags hnode)
  exact Content.ext (hslice hdead) (hslice hforward) (funext htyped)
    (Std.ExtTreeSet.toList_eq_nil_iff.mp hwords) (Std.ExtTreeSet.toList_eq_nil_iff.mp hurls) htags

section Halves

variable (h : s.Keeps m) {a z : Zid} {key : String}

include h

theorem Keeps.mem_forward : z ∈ (s.tables.node a).forward ↔ z ∈ (m a).forward := by
  show z ∈ s.tables.view.forward a ↔ _
  rw [h.shows.forward, ZidSet.mem_slice]

/-- The half that is kept for a reference where it leads to. -/
theorem Keeps.mem_backward : a ∈ (s.tables.node z).backward ↔ z ∈ (m a).forward :=
  (h.sound.linked.forward_iff a z).symm.trans h.mem_forward

theorem Keeps.mem_typed_backward :
    a ∈ ((s.tables.node z).refs key).backward ↔ z ∈ (m a).typed key := by
  refine (h.sound.linked.typed_iff key a z).symm.trans ?_
  rw [h.shows.typed, ZidSet.mem_slice]

/-- What is referred to has a node. -/
theorem Keeps.exists_backward (ha : z ∈ (m a).forward) :
    ∃ n, s.tables.nodes[z]? = some n ∧ a ∈ n.backward := by
  have hback := h.mem_backward.mpr ha
  unfold Tables.node at hback
  cases hz : s.tables.nodes[z]? with
  | none =>
    rw [getD_of_getElem?_none hz] at hback
    exact absurd hback (ZidSlice.not_mem_empty a)
  | some n =>
    rw [getD_of_getElem? hz] at hback
    exact ⟨n, rfl, hback⟩

end Halves

theorem keeps_after (calls : List Call) : (new.callAll calls).Keeps (Ledger.empty.callAll calls) :=
  keeps_new.callAll calls

theorem tables_eq_of_ledger_eq {calls calls' : List Call}
    (h : Ledger.empty.callAll calls = Ledger.empty.callAll calls') :
    (new.callAll calls).tables = (new.callAll calls').tables := by
  have hkeeps := keeps_after calls'
  rw [← h] at hkeeps
  exact (keeps_after calls).ext hkeeps

/-- The tables are a ledger in all that they answer and in all that they hold. -/
theorem callAll_refines_ledger (calls : List Call) :
    (∀ c a, a ∈ ((new.callAll calls).call c).1 ↔ (Ledger.empty.callAll calls).Answers c a) ∧
    (new.callAll calls).tables.view.Shows (Ledger.empty.callAll calls) ∧
    (∀ calls', Ledger.empty.callAll calls = Ledger.empty.callAll calls' →
      (new.callAll calls).tables.dump = (new.callAll calls').tables.dump) ∧
    (∀ r, (new.callAll (calls ++ [.update r, .update r])).tables =
      (new.callAll (calls ++ [.update r])).tables) ∧
    ∀ r r', r.zid ≠ r'.zid →
      (new.callAll (calls ++ [.update r, .update r'])).tables =
        (new.callAll (calls ++ [.update r', .update r])).tables := by
  refine ⟨(keeps_after calls).answer, (keeps_after calls).shows, ?_, ?_, ?_⟩
  · intro calls' h
    rw [tables_eq_of_ledger_eq h]
  · intro r
    apply tables_eq_of_ledger_eq
    rw [Ledger.callAll_append, Ledger.callAll_append]
    exact Function.update_idem _ _ _
  · intro r r' hne
    apply tables_eq_of_ledger_eq
    rw [Ledger.callAll_append, Ledger.callAll_append]
    exact Function.update_comm hne _ _ _

/-- Two records that refer to one another. -/
theorem callAll_refines_ledger_pair :
    (⟨1⟩ : Zid) ≠ ⟨2⟩ ∧
      (new.callAll ([] ++ [.update ((Record.new ⟨1⟩).addForward ⟨2⟩),
        .update ((Record.new ⟨2⟩).addDead ⟨1⟩)])).tables =
      (new.callAll ([] ++ [.update ((Record.new ⟨2⟩).addDead ⟨1⟩),
        .update ((Record.new ⟨1⟩).addForward ⟨2⟩)])).tables ∧
      (new.callAll []).tables.dump = (new.callAll [.delete ⟨1⟩]).tables.dump := by
  refine ⟨by decide, ?_, ?_⟩
  · exact (callAll_refines_ledger []).2.2.2.2 ((Record.new ⟨1⟩).addForward ⟨2⟩)
      ((Record.new ⟨2⟩).addDead ⟨1⟩) (by decide)
  · refine (callAll_refines_ledger []).2.2.1 [.delete ⟨1⟩] ?_
    exact (Ledger.empty_call_delete ⟨1⟩).symm

end Store

end Kasten.Index
