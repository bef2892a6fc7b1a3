import Kasten.Proofs.Index.Update

/-!
# Forgetting a zettel

What is known of a zettel goes away, and with it the other half of each of its references: it is a
member of no row afterwards. Zettel that refer to it lose these references too, and are answered,
so that they can be looked at again.
-/

namespace Kasten.Index

/-- Nothing is known of the zettel, and it is a member of nothing. -/
def View.delete (v : View) (z : Zid) : View :=
  { dead := Function.update v.dead z ∅
    forward := fun a => if a = z then ∅ else (v.forward a).erase z
    backward := fun a => if a = z then ∅ else (v.backward a).erase z
    refs := fun a key =>
      if a = z then Refs.empty
      else ⟨(v.refs a key).forward.erase z, (v.refs a key).backward.erase z⟩
    words := Function.update v.words z []
    urls := Function.update v.urls z []
    tags := Function.update v.tags z ""
    sources := fun a => (v.sources a).erase z
    holders := fun w => (v.holders w).erase z
    urlHolders := fun w => (v.urlHolders w).erase z }

/-- What forgetting a zettel makes of the references of the others under a key. -/
def withdraw (z : Zid) (_ : Zid) (_ : String) (r : Refs) : Refs :=
  ⟨r.forward.erase z, r.backward.erase z⟩

namespace Tables

/-! ## 1. The parts -/

theorem mem_filter_ne {s : ZidSlice} {z a : Zid} :
    a ∈ s.ids.filter (· ≠ z) ↔ a ≠ z ∧ a ∈ s :=
  ZidSlice.mem_erase

theorem mem_of_mem_update {f : Zid → ZidSlice} {z a b : Zid}
    (h : b ∈ Function.update f z ∅ a) : a ≠ z ∧ b ∈ f a := by
  rw [Function.update_apply] at h
  split at h
  · exact absurd h (ZidSlice.not_mem_empty b)
  next ha => exact ⟨ha, h⟩

theorem erase_update_empty (f : Zid → ZidSlice) (z a : Zid) :
    (Function.update f z ∅ a).erase z = if a = z then ∅ else (f a).erase z := by
  rw [Function.update_apply]
  split <;> rfl

theorem view_eraseNode (t : Tables) (z : Zid) :
    ({ t with nodes := t.nodes.erase z } : Tables).view = t.view.setNode z Node.empty :=
  view_of_node (fun a => getD_erase_eq t.nodes z a Node.empty) rfl rfl rfl

theorem view_forgetTyped (t : Tables) (touched : List Zid) (loose : ZidSet) (z : Zid)
    {key : String} {refs : Refs} (hfwd : refs.forward.Ascending) (hback : refs.backward.Ascending)
    (hz : ∀ a, z ∈ (t.view.refs a key).backward → a ≠ z ∧ a ∈ refs.forward)
    (hz' : ∀ a, z ∈ (t.view.refs a key).forward → a ≠ z ∧ a ∈ refs.backward) :
    (forgetTyped z (t, touched, loose) (key, refs)).1.view = t.view.mapRefs [key] (withdraw z) := by
  have hb := (Column.typed .backward key).view_unlink view
    (fun t a => view_dropTypedBackward t key z a) (hfwd.nodup.filter (· ≠ z)) t
    fun a ha => mem_filter_ne.mpr (hz a ha)
  have hf := (Column.typed .forward key).view_unlink view
    (fun t a => view_dropTypedForward t key z a) (hback.nodup.filter (· ≠ z))
    ((refs.forward.ids.filter (· ≠ z)).foldl (fun t a => dropTypedBackward key t z a) t)
    fun a ha => mem_filter_ne.mpr (hz' a (by
      rw [hb] at ha
      simp only [Column.typed, if_true, Refs.at, Refs.setAt] at ha
      exact ha))
  unfold forgetTyped
  rw [hb] at hf
  refine hf.trans (View.ext rfl rfl rfl ?_ rfl rfl rfl rfl rfl rfl)
  funext a k
  by_cases hk : k = key
  · subst hk
    simp [Column.typed, View.mapRefs, withdraw, Refs.setAt, Refs.at]
  · simp [Column.typed, View.mapRefs, hk]

/-! ## 2. Forgetting as a whole -/

/-- Where the zettel has no references under a key there is nothing to withdraw. -/
theorem withdraw_of_unknown {v : View} (hv : v.Linked) {z : Zid} {key : String}
    (hz : v.refs z key = Refs.empty) (a : Zid) :
    withdraw z a key (v.refs a key) = v.refs a key := by
  have hout := hv.not_mem_refs hz a
  unfold withdraw
  rw [ZidSlice.erase_of_not_mem hout.1, ZidSlice.erase_of_not_mem hout.2]

/-- Of a zettel that is not known, no other zettel holds a half of a reference. -/
theorem view_delete_of_unknown {t : Tables} (hv : t.view.Linked) {z : Zid}
    (hz : t.node z = Node.empty) : t.view.delete z = t.view := by
  have hdead : t.view.dead z = ∅ := congrArg Node.dead hz
  have hforward : t.view.forward z = ∅ := congrArg Node.forward hz
  have hbackward : t.view.backward z = ∅ := congrArg Node.backward hz
  have hrefs : t.view.refs z = fun _ => Refs.empty := by
    funext key
    exact (congrArg (fun n => Node.refs n key) hz).trans (Node.refs_empty key)
  have hwords : t.view.words z = [] := congrArg Node.words hz
  have hurls : t.view.urls z = [] := congrArg Node.urls hz
  refine View.ext ?_ ?_ ?_ ?_ ?_ ?_ ?_ ?_ ?_ ?_
  · exact Function.update_eq_self_iff.mpr hdead.symm
  · funext a
    show (if a = z then ∅ else (t.view.forward a).erase z) = t.view.forward a
    split
    next h => rw [h, hforward]
    next =>
      apply ZidSlice.erase_of_not_mem
      rw [hv.forward_iff, hbackward]
      exact ZidSlice.not_mem_empty a
  · funext a
    show (if a = z then ∅ else (t.view.backward a).erase z) = t.view.backward a
    split
    next h => rw [h, hbackward]
    next =>
      apply ZidSlice.erase_of_not_mem
      rw [← hv.forward_iff, hforward]
      exact ZidSlice.not_mem_empty a
  · funext a key
    show (if a = z then Refs.empty else withdraw z a key (t.view.refs a key)) = t.view.refs a key
    split
    next h => rw [h, hrefs]
    next => exact withdraw_of_unknown hv (congrFun hrefs key) a
  · exact Function.update_eq_self_iff.mpr hwords.symm
  · exact Function.update_eq_self_iff.mpr hurls.symm
  · exact Function.update_eq_self_iff.mpr (congrArg Node.tags hz).symm
  · funext a
    apply ZidSlice.erase_of_not_mem
    rw [← hv.dead_iff, hdead]
    exact ZidSlice.not_mem_empty a
  · funext w
    apply ZidSlice.erase_of_not_mem
    rw [← hv.words_iff, hwords]
    exact List.not_mem_nil
  · funext w
    apply ZidSlice.erase_of_not_mem
    rw [← hv.urls_iff, hurls]
    exact List.not_mem_nil

section Retract

variable {t : Tables} (hv : t.view.Linked) (z : Zid) {s : Tables × List Zid × ZidSet}

include hv

/-- One key, where the own references of the zettel are gone already. -/
theorem view_forgetTyped_of_linked {p : String × Refs} (hp : p ∈ (t.node z).typed.toList)
    (hs : ∀ a, s.1.view.refs a p.1 = Function.update t.view.refs z (fun _ => Refs.empty) a p.1) :
    (forgetTyped z s p).1.view = s.1.view.mapRefs [p.1] (withdraw z) := by
  have hrefs : t.view.refs z p.1 = p.2 :=
    getD_of_getElem? (Std.ExtTreeMap.mem_toList_iff_getElem?_eq_some.mp hp) _
  have hfwd := hv.typed_ascending z p.1 .forward
  have hback := hv.typed_ascending z p.1 .backward
  rw [hrefs] at hfwd hback
  have hown : s.1.view.refs z p.1 = Refs.empty := by
    rw [hs, Function.update_self]
  have hother : ∀ a, a ≠ z → s.1.view.refs a p.1 = t.view.refs a p.1 := by
    intro a ha
    rw [hs, Function.update_of_ne ha]
  apply view_forgetTyped s.1 s.2.1 s.2.2 z hfwd hback
  · intro a ha
    by_cases haz : a = z
    · rw [haz, hown] at ha
      exact absurd ha (ZidSlice.not_mem_empty z)
    · rw [hother a haz, ← hv.typed_iff, hrefs] at ha
      exact ⟨haz, ha⟩
  · intro a ha
    by_cases haz : a = z
    · rw [haz, hown] at ha
      exact absurd ha (ZidSlice.not_mem_empty z)
    · rw [hother a haz, hv.typed_iff, hrefs] at ha
      exact ⟨haz, ha⟩

/-- The pass over the keys of the zettel that is forgotten sees to all keys. -/
theorem view_foldl_forgetTyped
    (hs : s.1.view.refs = Function.update t.view.refs z fun _ => Refs.empty) :
    ((t.node z).typed.toList.foldl (forgetTyped z) s).1.view =
      { s.1.view with refs := (t.view.delete z).refs } := by
  have hfold := view_foldl_mapRefs (f := withdraw z) s.1.view (forgetTyped z)
    (fun s' p hp hs' => view_forgetTyped_of_linked hv z hp fun a => by rw [hs', hs])
    (nodup_keys (t.node z).typed) s fun _ _ _ => rfl
  rw [hfold]
  refine View.ext rfl rfl rfl ?_ rfl rfl rfl rfl rfl rfl
  funext a key
  show (if key ∈ (t.node z).typed.toList.map Prod.fst then
      withdraw z a key (s.1.view.refs a key) else s.1.view.refs a key) =
    if a = z then Refs.empty else withdraw z a key (t.view.refs a key)
  rw [hs]
  by_cases ha : a = z
  · rw [if_pos ha, ha, Function.update_self]
    split <;> rfl
  · rw [if_neg ha, Function.update_of_ne ha]
    split
    next => rfl
    next hkey =>
      rw [mem_keys] at hkey
      have hrefs : t.view.refs z key = Refs.empty :=
        getD_of_getElem?_none (not_not.mp hkey) Refs.empty
      exact (withdraw_of_unknown hv hrefs a).symm

end Retract

theorem view_delete (t : Tables) (z : Zid) (hv : t.view.Linked) :
    (t.delete z).2.view = t.view.delete z := by
  cases hz : t.nodes[z]? with
  | none =>
    rw [view_delete_of_unknown hv (getD_of_getElem?_none hz _)]
    unfold delete
    rw [hz]
  | some n =>
    have hn : t.node z = n := getD_of_getElem? hz _
    let t0 : Tables := { t with nodes := t.nodes.erase z }
    let t1 := n.dead.ids.foldl (fun t target => t.dropDeadSource z target) t0
    let targets := n.forward.ids.filter (· ≠ z)
    let sources := n.backward.ids.filter (· ≠ z)
    let t2 := targets.foldl (fun t target => t.dropBackward z target) t1
    let t3 := sources.foldl (fun t source => t.dropForward z source) t2
    let s4 := n.typed.toList.foldl (forgetTyped z) (t3, targets ++ sources, ZidSet.ofZids sources)
    let t5 : Tables := { s4.1 with
      words := relist z [] n.words s4.1.words, urls := relist z [] n.urls s4.1.urls }
    subst hn
    have h0 : t0.view = t.view.setNode z Node.empty := t.view_eraseNode z
    have h1 : t1.view = _ := Column.sources.view_unlink view (fun t a => t.view_dropDeadSource z a)
      (hv.dead_ascending z).nodup t0 (by
        rw [h0]
        exact fun a ha => (hv.dead_iff z a).mpr ha)
    have h2 : t2.view = _ := Column.backward.view_unlink view (fun t a => t.view_dropBackward z a)
      ((hv.forward_ascending z).nodup.filter (· ≠ z)) t1 (by
        rw [h1, h0]
        intro a ha
        rcases mem_of_mem_update ha with ⟨haz, ha⟩
        exact mem_filter_ne.mpr ⟨haz, (hv.forward_iff z a).mpr ha⟩)
    have h3 : t3.view = _ := Column.forward.view_unlink view (fun t a => t.view_dropForward z a)
      ((hv.backward_ascending z).nodup.filter (· ≠ z)) t2 (by
        rw [h2, h1, h0]
        intro a ha
        rcases mem_of_mem_update ha with ⟨haz, ha⟩
        exact mem_filter_ne.mpr ⟨haz, (hv.forward_iff a z).mp ha⟩)
    have h4 : s4.1.view = _ := view_foldl_forgetTyped hv z (by
      rw [h3, h2, h1, h0]
      exact congrArg (Function.update t.view.refs z) (funext Node.refs_empty))
    have h5 : t5.view = _ := s4.1.view_relist z List.nodup_nil
      (nodup_of_sorted (hv.words_sorted z)) List.nodup_nil (nodup_of_sorted (hv.urls_sorted z))
      (by rw [h4, h3, h2, h1, h0]; exact hv.holders_ascending)
      (by rw [h4, h3, h2, h1, h0]; exact fun w => (hv.words_iff z w).symm)
      (by rw [h4, h3, h2, h1, h0]; exact hv.urlHolders_ascending)
      (by rw [h4, h3, h2, h1, h0]; exact fun w => (hv.urls_iff z w).symm)
    have hreap : (t.delete z).2.view = t5.view := by
      unfold delete
      rw [hz]
      exact t5.view_reapAll s4.2.1
    -- Only the own rows of the zettel are left to compare: emptied first, erased from later.
    rw [hreap, h5, h4, h3, h2, h1, h0]
    refine View.ext rfl ?_ ?_ rfl rfl rfl rfl rfl rfl rfl
    · exact funext (erase_update_empty t.view.forward z)
    · exact funext (erase_update_empty t.view.backward z)

/-! ## 3. The zettel to look at again -/

theorem mem_forgetTyped_loose (z a : Zid) (l : List (String × Refs))
    (s : Tables × List Zid × ZidSet) :
    a ∈ (l.foldl (forgetTyped z) s).2.2 ↔
      a ∈ s.2.2 ∨ a ≠ z ∧ ∃ p ∈ l, a ∈ p.2.backward := by
  induction l generalizing s with
  | nil => simp
  | cons p rest ih =>
    have hp : a ∈ (forgetTyped z s p).2.2 ↔ (a ≠ z ∧ a ∈ p.2.backward) ∨ a ∈ s.2.2 :=
      ZidSet.mem_addAll.trans (or_congr_left mem_filter_ne)
    rw [List.foldl_cons, ih, hp]
    simp only [List.mem_cons, exists_eq_or_imp]
    tauto

/-- The keys that are stored are those with references. -/
theorem exists_mem_backward (t : Tables) (z a : Zid) :
    (∃ p ∈ (t.node z).typed.toList, a ∈ p.2.backward) ↔
      ∃ key, a ∈ (t.view.refs z key).backward := by
  constructor
  · rintro ⟨p, hp, ha⟩
    have hget := Std.ExtTreeMap.mem_toList_iff_getElem?_eq_some.mp hp
    refine ⟨p.1, ?_⟩
    show a ∈ ((t.node z).typed.getD p.1 Refs.empty).backward
    rwa [getD_of_getElem? hget]
  · rintro ⟨key, ha⟩
    change a ∈ ((t.node z).typed.getD key Refs.empty).backward at ha
    cases hget : (t.node z).typed[key]? with
    | none =>
      rw [getD_of_getElem?_none hget] at ha
      exact absurd ha (ZidSlice.not_mem_empty a)
    | some refs =>
      rw [getD_of_getElem? hget] at ha
      exact ⟨(key, refs), Std.ExtTreeMap.mem_toList_iff_getElem?_eq_some.mpr hget, ha⟩

/-- Exactly the others that referred to the zettel are answered. -/
theorem mem_delete_loose (t : Tables) (z : Zid) (hv : t.view.Linked) (a : Zid) :
    a ∈ (t.delete z).1 ↔
      a ≠ z ∧ (z ∈ t.view.forward a ∨ ∃ key, z ∈ (t.view.refs a key).forward) := by
  simp only [hv.forward_iff, hv.typed_iff]
  unfold delete
  cases hz : t.nodes[z]? with
  | none =>
    have hn : t.node z = Node.empty := getD_of_getElem?_none hz _
    have hback : t.view.backward z = ∅ := congrArg Node.backward hn
    have hrefs : ∀ key, t.view.refs z key = Refs.empty := fun key =>
      (congrArg (fun n => Node.refs n key) hn).trans (Node.refs_empty key)
    simp only [hback, hrefs]
    constructor
    · exact fun h => absurd h Std.ExtTreeSet.not_mem_empty
    · rintro ⟨-, h | ⟨-, h⟩⟩ <;> exact absurd h (ZidSlice.not_mem_empty a)
  | some n =>
    have hn : t.node z = n := getD_of_getElem? hz _
    subst hn
    apply (mem_forgetTyped_loose z a (t.node z).typed.toList _).trans
    rw [ZidSet.mem_ofZids, mem_filter_ne, exists_mem_backward]
    show _ ↔ a ≠ z ∧ (a ∈ (t.node z).backward ∨ _)
    tauto

end Tables

end Kasten.Index
