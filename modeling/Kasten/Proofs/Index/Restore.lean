import Mathlib.Data.List.Sort
import Kasten.Proofs.Index.Ledger

/-!
# Forgetting a zettel and taking it in again

What the tables show of a zettel is enough to make its record again. Forgetting a zettel damages
the references of other zettel as well, but only of those that the answer names; with their records
and its own, as they were before, the tables come back, whatever the order.
-/

namespace Kasten.Index

theorem slice_ofZids {s : ZidSlice} (h : s.Ascending) : (ZidSet.ofZids s.ids).slice = s := by
  apply (ZidSet.ascending_slice _).ext h
  intro z
  rw [ZidSet.mem_slice, ZidSet.mem_ofZids]
  exact Iff.rfl

theorem slice_injective {s s' : ZidSet} (h : s.slice = s'.slice) : s = s' := by
  apply Std.ExtTreeSet.ext_mem
  intro z
  rw [← ZidSet.mem_slice, h, ZidSet.mem_slice]

theorem mem_addTexts {s : TextSet} {texts : List String} {w : String} :
    w ∈ addTexts s texts ↔ w ∈ s ∨ w ∈ texts := by
  unfold addTexts
  induction texts generalizing s with
  | nil => simp
  | cons text rest ih =>
    rw [List.foldl_cons, ih, Std.ExtTreeSet.mem_insert, Std.compare_eq_iff_eq, List.mem_cons]
    constructor
    · rintro ((rfl | hw) | hw)
      · exact Or.inr (Or.inl rfl)
      · exact Or.inl hw
      · exact Or.inr (Or.inr hw)
    · rintro (hw | rfl | hw)
      · exact Or.inl (Or.inr hw)
      · exact Or.inl (Or.inl rfl)
      · exact Or.inr hw

theorem toList_addTexts {texts : List String} (h : texts.Pairwise (· < ·)) :
    (addTexts ∅ texts).toList = texts := by
  apply List.Pairwise.eq_of_mem_iff (sorted_toList _) h
  intro w
  rw [Std.ExtTreeSet.mem_toList, mem_addTexts]
  simp

theorem texts_injective {s s' : TextSet} (h : s.toList = s'.toList) : s = s' := by
  apply Std.ExtTreeSet.ext_mem
  intro w
  rw [← Std.ExtTreeSet.mem_toList, h, Std.ExtTreeSet.mem_toList]

namespace Tables

/-! ## 1. Records read from the tables -/

/-- What the tables show of a zettel is what the record says. A key without targets is as good as
no key. -/
structure Holds (t : Tables) (r : Record) : Prop where
  dead : (t.node r.zid).dead = r.dead.slice
  forward : (t.node r.zid).forward = r.forward.slice
  typed (key : String) : ((t.node r.zid).refs key).forward = (r.typed.getD key ∅).slice
  words : (t.node r.zid).words = r.words.toList
  urls : (t.node r.zid).urls = r.urls.toList
  tags : (t.node r.zid).tags = r.tagText

/-- The tables keep the tags as one text, so that is the only tag here. -/
def recordOf (t : Tables) (z : Zid) : Record :=
  let n := t.node z
  { zid := z
    dead := ZidSet.ofZids n.dead.ids
    forward := ZidSet.ofZids n.forward.ids
    typed := n.typed.map fun _ refs => ZidSet.ofZids refs.forward.ids
    words := addTexts ∅ n.words
    urls := addTexts ∅ n.urls
    tags := addTexts ∅ (if n.tags = "" then [] else [n.tags]) }

theorem holds_recordOf {t : Tables} (h : t.view.Linked) (z : Zid) : t.Holds (t.recordOf z) where
  dead := (slice_ofZids (h.dead_ascending z)).symm
  forward := (slice_ofZids (h.forward_ascending z)).symm
  typed key := by
    show ((t.node z).typed.getD key Refs.empty).forward =
      ZidSet.slice (((t.node z).typed.map fun _ refs => ZidSet.ofZids refs.forward.ids).getD key ∅)
    have hrow := h.typed_ascending z key .forward
    change ((t.node z).typed.getD key Refs.empty).forward.Ascending at hrow
    rw [Std.ExtTreeMap.getD_eq_getD_getElem?] at hrow
    rw [Std.ExtTreeMap.getD_eq_getD_getElem?, Std.ExtTreeMap.getD_eq_getD_getElem?,
      Std.ExtTreeMap.getElem?_map]
    cases hkey : (t.node z).typed[key]? with
    | none => exact slice_empty.symm
    | some refs =>
      rw [hkey] at hrow
      exact (slice_ofZids hrow).symm
  words := (toList_addTexts (h.words_sorted z)).symm
  urls := (toList_addTexts (h.urls_sorted z)).symm
  tags := by
    show (t.node z).tags = " ".intercalate
      (addTexts ∅ (if (t.node z).tags = "" then [] else [(t.node z).tags])).toList
    rw [toList_addTexts (by split <;> simp)]
    split
    next hempty => exact hempty
    next => exact (String.intercalate_singleton).symm

end Tables

/-! ## 2. Taking in records again -/

theorem Store.Keeps.holds_iff {s : Store} {m : Ledger} (h : s.Keeps m) {r : Record} :
    s.tables.Holds r ↔ r.content = m r.zid := by
  constructor
  · intro hr
    exact Content.ext (slice_injective (hr.dead.symm.trans (h.shows.dead r.zid)))
      (slice_injective (hr.forward.symm.trans (h.shows.forward r.zid)))
      (funext fun key => slice_injective ((hr.typed key).symm.trans (h.shows.typed r.zid key)))
      (texts_injective (hr.words.symm.trans (h.shows.words r.zid)))
      (texts_injective (hr.urls.symm.trans (h.shows.urls r.zid)))
      (hr.tags.symm.trans (h.shows.tags r.zid))
  · intro hr
    have hshows := h.shows
    exact ⟨(hshows.dead r.zid).trans (by rw [← hr]; rfl),
      (hshows.forward r.zid).trans (by rw [← hr]; rfl),
      fun key => (hshows.typed r.zid key).trans (by rw [← hr]; rfl),
      (hshows.words r.zid).trans (by rw [← hr]; rfl),
      (hshows.urls r.zid).trans (by rw [← hr]; rfl),
      (hshows.tags r.zid).trans (by rw [← hr]; rfl)⟩

/-- Records that say what a ledger has put that ledger in the place of another, zettel by zettel. -/
theorem Ledger.callAll_updates_eq {records : List Record} {m : Ledger}
    (hm : ∀ r ∈ records, r.content = m r.zid) (m' : Ledger) (z : Zid) :
    m'.callAll (records.map .update) z = if z ∈ records.map Record.zid then m z else m' z := by
  induction records generalizing m' with
  | nil => rfl
  | cons r rest ih =>
    have hrest := ih (fun r' hr' => hm r' (List.mem_cons_of_mem r hr')) (m'.call (.update r))
    refine hrest.trans ?_
    rw [List.map_cons]
    -- The last record of a zettel counts, but they all say the same.
    by_cases hz : z ∈ rest.map Record.zid
    · rw [if_pos hz, if_pos (List.mem_cons_of_mem r.zid hz)]
    · rw [if_neg hz]
      show Function.update m' r.zid r.content z = _
      by_cases hzr : z = r.zid
      · rw [hzr, Function.update_self, if_pos List.mem_cons_self]
        exact hm r List.mem_cons_self
      · rw [Function.update_of_ne hzr, if_neg (not_or.mpr ⟨hzr, hz⟩ ∘ List.mem_cons.mp)]

namespace Store

/-- The records as they were before bring back what the ledger had. -/
theorem Keeps.restore {s : Store} {m : Ledger} (h : s.Keeps m) {z : Zid} {records : List Record}
    (hzids : ∀ a, a ∈ records.map Record.zid ↔ a = z ∨ a ∈ (s.call (.delete z)).1)
    (hholds : ∀ r ∈ records, s.tables.Holds r) :
    (((s.call (.delete z)).2.callAll (records.map .update)).tables) = s.tables := by
  -- Who is not named in the answer has lost nothing.
  have hledger : (m.call (.delete z)).callAll (records.map .update) = m := by
    funext a
    rw [Ledger.callAll_updates_eq fun r hr => h.holds_iff.mp (hholds r hr)]
    split
    next => rfl
    next hnot =>
      rw [hzids, not_or, h.answer] at hnot
      exact Ledger.call_delete_of_not_answers hnot.1 hnot.2
  have hkeeps := (h.call (.delete z)).callAll (records.map .update)
  rw [hledger] at hkeeps
  exact hkeeps.ext h

/-- Forgetting a zettel is undone by the records that it and the zettel of the answer had before. -/
theorem tables_restored (calls : List Call) (z : Zid) (records : List Record)
    (hzids : ∀ a, a ∈ records.map Record.zid ↔
      a = z ∨ a ∈ ((new.callAll calls).call (.delete z)).1)
    (hholds : ∀ r ∈ records, (new.callAll calls).tables.Holds r) :
    (((new.callAll calls).call (.delete z)).2.callAll (records.map .update)).tables =
        (new.callAll calls).tables ∧
      (((new.callAll calls).call (.delete z)).2.callAll (records.map .update)).tables.dump =
        (new.callAll calls).tables.dump ∧
      ∀ order : List Zid, order.Perm (z :: ((new.callAll calls).call (.delete z)).1.toList) →
        (((new.callAll calls).call (.delete z)).2.callAll
          (order.map fun a => .update ((new.callAll calls).tables.recordOf a))).tables =
            (new.callAll calls).tables := by
  have hkeeps := keeps_after calls
  have htables := hkeeps.restore hzids hholds
  refine ⟨htables, congrArg Tables.dump htables, ?_⟩
  intro order horder
  have hrecords : order.map (fun a => Call.update ((new.callAll calls).tables.recordOf a)) =
      (order.map (new.callAll calls).tables.recordOf).map .update := by
    rw [List.map_map]
    rfl
  rw [hrecords]
  refine hkeeps.restore ?_ ?_
  · intro a
    have hzid : (order.map (new.callAll calls).tables.recordOf).map Record.zid = order := by
      rw [List.map_map]
      exact List.map_id order
    rw [hzid, horder.mem_iff, List.mem_cons, Std.ExtTreeSet.mem_toList]
  · intro r hr
    rcases List.mem_map.mp hr with ⟨a, -, rfl⟩
    exact Tables.holds_recordOf hkeeps.sound.linked a

/-- A zettel, and one that refers to it. -/
theorem tables_restored_pair :
    let first := (Record.new ⟨1⟩).addForward ⟨2⟩
    let second := (Record.new ⟨2⟩).addDead ⟨9⟩
    let before := new.callAll [.update first, .update second]
    ⟨1⟩ ∈ (before.call (.delete ⟨2⟩)).1 ∧ before.tables.Holds first ∧ before.tables.Holds second ∧
      ((before.call (.delete ⟨2⟩)).2.callAll [.update first, .update second]).tables =
        before.tables := by
  intro first second before
  have hkeeps : before.Keeps (Ledger.empty.callAll [.update first, .update second]) :=
    keeps_after _
  have hfirst : before.tables.Holds first := hkeeps.holds_iff.mpr rfl
  have hsecond : before.tables.Holds second := hkeeps.holds_iff.mpr rfl
  have hanswer : ∀ a, a ∈ (before.call (.delete ⟨2⟩)).1 ↔ a = ⟨1⟩ := by
    intro a
    rw [hkeeps.answer]
    constructor
    · rintro ⟨ha, hrefers⟩
      by_contra hne
      -- Of all others nothing is known.
      refine Ledger.not_answers_of_empty ?_ (.delete ⟨2⟩) ⟨ha, hrefers⟩
      exact (Function.update_of_ne ha _ _).trans (Function.update_of_ne hne _ _)
    · rintro rfl
      exact ⟨by decide, Or.inl (Std.ExtTreeSet.mem_insert_self)⟩
  refine ⟨(hanswer _).mpr rfl, hfirst, hsecond, ?_⟩
  refine (tables_restored [.update first, .update second] ⟨2⟩ [first, second] ?_ ?_).1
  · intro a
    refine Iff.trans ?_ (or_congr_right (hanswer a)).symm
    show a ∈ [⟨1⟩, ⟨2⟩] ↔ _
    simp [or_comm]
  · intro r hr
    rcases List.mem_cons.mp hr with rfl | hr
    · exact hfirst
    · rw [List.mem_singleton.mp hr]
      exact hsecond

end Store

end Kasten.Index
