import Kasten.Proofs.Index.Column
import Kasten.Proofs.Index.Stored

/-!
# Taking in a record

The record is compared with what is known of its zettel, and only the difference is patched into
the tables. Where the two halves of all references agree before, the outcome is the one that
needs no comparison: `View.update` puts the record in place and makes its zettel a member of
exactly the rows that the record names.
-/

namespace Kasten.Index

/-! ## 1. Views whose halves agree -/

/-- Both halves of every reference and of every list are there, and everything is in order. -/
structure View.Linked (v : View) : Prop where
  forward_iff (z a : Zid) : a ∈ v.forward z ↔ z ∈ v.backward a
  typed_iff (key : String) (z a : Zid) : a ∈ (v.refs z key).forward ↔ z ∈ (v.refs a key).backward
  dead_iff (z a : Zid) : a ∈ v.dead z ↔ z ∈ v.sources a
  words_iff (z : Zid) (w : String) : w ∈ v.words z ↔ z ∈ v.holders w
  urls_iff (z : Zid) (w : String) : w ∈ v.urls z ↔ z ∈ v.urlHolders w
  dead_ascending (z : Zid) : (v.dead z).Ascending
  forward_ascending (z : Zid) : (v.forward z).Ascending
  backward_ascending (z : Zid) : (v.backward z).Ascending
  typed_ascending (z : Zid) (key : String) (e : End) : ((v.refs z key).at e).Ascending
  sources_ascending (z : Zid) : (v.sources z).Ascending
  holders_ascending (w : String) : (v.holders w).Ascending
  urlHolders_ascending (w : String) : (v.urlHolders w).Ascending
  words_sorted (z : Zid) : (v.words z).Pairwise (· < ·)
  urls_sorted (z : Zid) : (v.urls z).Pairwise (· < ·)

/-- A zettel without references under a key is a member of nothing there. -/
theorem View.Linked.not_mem_refs {v : View} (hv : v.Linked) {z : Zid} {key : String}
    (hz : v.refs z key = Refs.empty) (a : Zid) :
    z ∉ (v.refs a key).forward ∧ z ∉ (v.refs a key).backward := by
  constructor
  · rw [hv.typed_iff, hz]
    exact ZidSlice.not_mem_empty a
  · rw [← hv.typed_iff, hz]
    exact ZidSlice.not_mem_empty a

theorem nodup_of_sorted {l : List String} (h : l.Pairwise (· < ·)) : l.Nodup := by
  apply h.imp
  rintro a _ hab rfl
  exact String.lt_irrefl a hab

/-! ## 2. References key by key -/

/-- Changes the references under some of the keys. -/
def View.mapRefs (v : View) (keys : List String) (f : Zid → String → Refs → Refs) : View :=
  { v with refs := fun a k => if k ∈ keys then f a k (v.refs a k) else v.refs a k }

/-- Steps that each see to one key see to all of them, as none looks at the others. -/
theorem view_foldl_mapRefs {τ β : Type} {f : Zid → String → Refs → Refs} (v : View)
    (step : Tables × τ → String × β → Tables × τ) {l : List (String × β)}
    (hstep : ∀ s p, p ∈ l → (∀ a, s.1.view.refs a p.1 = v.refs a p.1) →
      (step s p).1.view = s.1.view.mapRefs [p.1] f)
    (hl : (l.map Prod.fst).Nodup) (s : Tables × τ)
    (hs : ∀ p ∈ l, ∀ a, s.1.view.refs a p.1 = v.refs a p.1) :
    (l.foldl step s).1.view = s.1.view.mapRefs (l.map Prod.fst) f := by
  induction l generalizing s with
  | nil => simp [View.mapRefs]
  | cons p rest ih =>
    rw [List.map_cons, List.nodup_cons] at hl
    have hp := hstep s p List.mem_cons_self (hs p List.mem_cons_self)
    rw [List.foldl_cons, ih (fun s q hq => hstep s q (List.mem_cons_of_mem p hq)) hl.2, hp]
    · refine View.ext rfl rfl rfl ?_ rfl rfl rfl rfl rfl rfl
      funext a k
      by_cases hk : k = p.1
      · subst hk
        simp [View.mapRefs, hl.1]
      · simp only [View.mapRefs, List.map_cons, List.mem_cons, List.not_mem_nil, hk, false_or,
          if_false]
    · -- The keys still to come are not the one just seen to.
      intro q hq a
      have hne : q.1 ≠ p.1 := by
        intro he
        rw [← he] at hl
        exact hl.1 (List.mem_map_of_mem hq)
      rw [hp]
      simpa [View.mapRefs, hne] using hs q (List.mem_cons_of_mem p hq) a

/-- What replacing the references of a zettel under a key makes of the references there. -/
def retarget (z : Zid) (new : String → ZidSlice) (a : Zid) (key : String) (r : Refs) : Refs :=
  ⟨if a = z then new key else r.forward, r.backward.place z (decide (a ∈ (new key).ids))⟩

namespace Tables

/-! ## 3. The parts of an update -/

theorem mem_diff_ids {new old : ZidSlice} (hn : new.Ascending) (ho : old.Ascending) :
    (∀ a, a ∈ (new.diff old).1.ids ↔ a ∈ new.ids ∧ a ∉ old.ids) ∧
      ∀ a, a ∈ (new.diff old).2.ids ↔ a ∈ old.ids ∧ a ∉ new.ids :=
  ⟨fun a => (ZidSlice.mem_diff hn ho a).1, fun a => (ZidSlice.mem_diff hn ho a).2⟩

theorem view_relinkDead (t : Tables) (z : Zid) {new old : ZidSlice} (hn : new.Ascending)
    (ho : old.Ascending) (hasc : ∀ a, (t.view.sources a).Ascending)
    (hz : ∀ a, z ∈ t.view.sources a ↔ a ∈ old.ids) :
    (t.relinkDead z new old).view =
      { t.view with
        dead := Function.update t.view.dead z new
        sources := fun a => (t.view.sources a).place z (decide (a ∈ new.ids)) } := by
  rcases mem_diff_ids hn ho with ⟨hadded, hremoved⟩
  have hcol := Column.sources.view_relink view (fun t a => t.view_addDeadSource z a)
    (fun t a => t.view_dropDeadSource z a) (hn.diff ho).1.nodup (hn.diff ho).2.nodup hadded hremoved
    t hasc hz
  unfold relinkDead
  rw [view_edit, setNode_dead, hcol]
  rfl

theorem view_relinkForward (t : Tables) (z : Zid) {new old : ZidSlice} (hn : new.Ascending)
    (ho : old.Ascending) (hasc : ∀ a, (t.view.backward a).Ascending)
    (hz : ∀ a, z ∈ t.view.backward a ↔ a ∈ old.ids) :
    (t.relinkForward z new old).1.view =
      { t.view with
        forward := Function.update t.view.forward z new
        backward := fun a => (t.view.backward a).place z (decide (a ∈ new.ids)) } := by
  rcases mem_diff_ids hn ho with ⟨hadded, hremoved⟩
  have hset : (t.edit z fun n => { n with forward := new }).view =
      { t.view with forward := Function.update t.view.forward z new } :=
    (t.view_edit z _).trans (t.setNode_forward z new)
  have hcol := Column.backward.view_relink view (fun t a => t.view_addBackward z a)
    (fun t a => t.view_dropBackward z a) (hn.diff ho).1.nodup (hn.diff ho).2.nodup hadded hremoved
    (t.edit z fun n => { n with forward := new }) (by rw [hset]; exact hasc) (by rw [hset]; exact hz)
  unfold relinkForward
  rw [hset] at hcol
  exact hcol

/-- Setting the own references under a key. -/
theorem view_edit_typed (t : Tables) (z : Zid) (key : String) (new : ZidSlice) :
    (t.edit z fun n => n.editTyped key fun r => { r with forward := new }).view =
      (Column.typed .forward key).patch t.view z fun _ => new := by
  rw [view_edit, setNode_typed _ _ _ rfl]
  refine (Column.patch_typed _ _ _ _ _ _ ?_).symm
  intro k
  exact (t.node z).refs_editTyped key k _

theorem view_edit_typedOld (t : Tables) (z : Zid) (key : String) :
    (t.edit z fun n => n.editTypedOld key fun r => { r with forward := ∅ }).view =
      (Column.typed .forward key).patch t.view z fun _ => ∅ := by
  rw [view_edit, setNode_typed _ _ _ (Node.editTypedOld_only _ _ _)]
  refine (Column.patch_typed _ _ _ _ _ _ ?_).symm
  intro k
  exact (t.node z).refs_editTypedOld key k rfl

/-- Both halves of the references under a key, set one after the other. -/
theorem patch_set_typed (v : View) (z : Zid) {key : String} {s : ZidSlice}
    {new : String → ZidSlice} (hnew : new key = s) :
    (Column.typed .forward key).patch
        ((Column.typed .backward key).set v fun a =>
          ((Column.typed .backward key).get v a).place z (decide (a ∈ s.ids))) z (fun _ => s) =
      v.mapRefs [key] (retarget z new) := by
  subst hnew
  refine View.ext rfl rfl rfl ?_ rfl rfl rfl rfl rfl rfl
  funext a k
  by_cases hk : k = key
  · subst hk
    by_cases ha : a = z
    · subst ha
      simp [Column.patch, Column.typed, View.mapRefs, retarget, Refs.setAt, Refs.at]
    · simp [Column.patch, Column.typed, View.mapRefs, retarget, Refs.setAt, Refs.at, ha]
  · simp [Column.patch, Column.typed, View.mapRefs, hk]

theorem view_relinkTyped (t : Tables) (touched : List Zid) (z : Zid) {old : Node}
    (new : String → ZidSlice) {key : String} {targets : ZidSet} (hnew : new key = targets.slice)
    (ho : (old.refs key).forward.Ascending) (hasc : ∀ a, (t.view.refs a key).backward.Ascending)
    (hz : ∀ a, z ∈ (t.view.refs a key).backward ↔ a ∈ (old.refs key).forward) :
    (relinkTyped z old (t, touched) (key, targets)).1.view =
      t.view.mapRefs [key] (retarget z new) := by
  have hn := ZidSet.ascending_slice targets
  rcases mem_diff_ids hn ho with ⟨hadded, hremoved⟩
  have hcol := (Column.typed .backward key).view_relink view
    (fun t a => view_addTypedBackward t key z a) (fun t a => view_dropTypedBackward t key z a)
    (hn.diff ho).1.nodup (hn.diff ho).2.nodup hadded hremoved t hasc hz
  rw [← patch_set_typed t.view z hnew, ← hcol]
  exact view_edit_typed _ z key targets.slice

theorem view_unlinkTyped (t : Tables) (touched : List Zid) (z : Zid) (new : String → ZidSlice)
    {key : String} {refs : Refs} (hnew : new key = ∅) (ho : refs.forward.Ascending)
    (hz : ∀ a, z ∈ (t.view.refs a key).backward → a ∈ refs.forward) :
    (unlinkTyped z (t, touched) (key, refs)).1.view = t.view.mapRefs [key] (retarget z new) := by
  have hcol := (Column.typed .backward key).view_unlink view
    (fun t a => view_dropTypedBackward t key z a) ho.nodup t hz
  have hplace : (fun a => ((Column.typed .backward key).get t.view a).erase z) = fun a =>
      ((Column.typed .backward key).get t.view a).place z (decide (a ∈ (∅ : ZidSlice).ids)) := rfl
  rw [hplace] at hcol
  rw [← patch_set_typed t.view z hnew, ← hcol]
  exact view_edit_typedOld _ z key

/-! ## 4. The whole update -/

theorem view_relist (t : Tables) (z : Zid) {words oldWords urls oldUrls : List String}
    (hw : words.Nodup) (how : oldWords.Nodup) (hu : urls.Nodup) (hou : oldUrls.Nodup)
    (hascw : ∀ w, (t.view.holders w).Ascending) (hzw : ∀ w, z ∈ t.view.holders w ↔ w ∈ oldWords)
    (hascu : ∀ w, (t.view.urlHolders w).Ascending)
    (hzu : ∀ w, z ∈ t.view.urlHolders w ↔ w ∈ oldUrls) :
    ({ t with
        words := relist z words oldWords t.words
        urls := relist z urls oldUrls t.urls } : Tables).view =
      { t.view with
        holders := fun w => (t.view.holders w).place z (decide (w ∈ words))
        urlHolders := fun w => (t.view.urlHolders w).place z (decide (w ∈ urls)) } :=
  View.ext rfl rfl rfl rfl rfl rfl rfl rfl (row_relist z hw how t.words hascw hzw)
    (row_relist z hu hou t.urls hascu hzu)

end Tables

/-- The record in the place of what was known of its zettel. -/
def View.update (v : View) (r : Record) : View :=
  { dead := Function.update v.dead r.zid r.dead.slice
    forward := Function.update v.forward r.zid r.forward.slice
    backward := fun a => (v.backward a).place r.zid (decide (a ∈ r.forward.slice.ids))
    refs := fun a key => retarget r.zid (fun key => (r.typed.getD key ∅).slice) a key (v.refs a key)
    words := Function.update v.words r.zid r.words.toList
    urls := Function.update v.urls r.zid r.urls.toList
    tags := Function.update v.tags r.zid r.tagText
    sources := fun a => (v.sources a).place r.zid (decide (a ∈ r.dead.slice.ids))
    holders := fun w => (v.holders w).place r.zid (decide (w ∈ r.words.toList))
    urlHolders := fun w => (v.urlHolders w).place r.zid (decide (w ∈ r.urls.toList)) }

theorem sorted_toList (s : TextSet) : s.toList.Pairwise (· < ·) := by
  refine List.Pairwise.imp ?_ (Std.ExtTreeSet.ordered_toList (t := s))
  intro a b h
  exact compareOfLessAndEq_eq_lt.mp h

namespace Tables

/-- A key that neither the zettel nor its record knows has nothing to change. -/
theorem retarget_of_unknown {v : View} (hv : v.Linked) {z : Zid} {new : String → ZidSlice}
    {key : String} (hold : v.refs z key = Refs.empty) (hnew : new key = ∅) (a : Zid) :
    retarget z new a key (v.refs a key) = v.refs a key := by
  have hback : z ∉ (v.refs a key).backward := (hv.not_mem_refs hold a).2
  have hplace : (v.refs a key).backward.place z (decide (a ∈ (new key).ids)) =
      (v.refs a key).backward := by
    rw [hnew]
    exact ZidSlice.erase_of_not_mem hback
  have hfwd : (if a = z then new key else (v.refs a key).forward) = (v.refs a key).forward := by
    split
    next h => rw [h, hold, hnew]; rfl
    next => rfl
  unfold retarget
  rw [hplace, hfwd]

/-- The references of a zettel under the keys that its new record does not have. -/
def gone (old : Node) (r : Record) : List (String × Refs) :=
  old.typed.toList.filter fun (key, _) => !r.typed.contains key

theorem mem_gone {old : Node} {r : Record} {p : String × Refs} :
    p ∈ gone old r ↔ old.typed[p.1]? = some p.2 ∧ r.typed[p.1]? = none := by
  unfold gone
  rw [List.mem_filter, Std.ExtTreeMap.mem_toList_iff_getElem?_eq_some]
  show _ ∧ (!r.typed.contains p.1) = true ↔ _
  rw [Std.ExtTreeMap.contains_eq_isSome_getElem?, Bool.not_eq_true', Option.isSome_eq_false_iff,
    Option.isNone_iff_eq_none]

theorem mem_gone_keys {old : Node} {r : Record} {key : String} :
    key ∈ (gone old r).map Prod.fst ↔ old.typed[key]? ≠ none ∧ r.typed[key]? = none := by
  rw [List.mem_map]
  constructor
  · rintro ⟨p, hp, rfl⟩
    rcases mem_gone.mp hp with ⟨hold, hnew⟩
    exact ⟨by rw [hold]; exact Option.some_ne_none _, hnew⟩
  · rintro ⟨hold, hnew⟩
    rcases Option.ne_none_iff_exists'.mp hold with ⟨refs, hrefs⟩
    exact ⟨(key, refs), mem_gone.mpr ⟨hrefs, hnew⟩, rfl⟩

theorem mem_keys {β : Type} {m : Std.ExtTreeMap String β} {key : String} :
    key ∈ m.toList.map Prod.fst ↔ m[key]? ≠ none := by
  rw [List.mem_map]
  constructor
  · rintro ⟨p, hp, rfl⟩
    rw [Std.ExtTreeMap.mem_toList_iff_getElem?_eq_some.mp hp]
    exact Option.some_ne_none _
  · intro h
    rcases Option.ne_none_iff_exists'.mp h with ⟨b, hb⟩
    exact ⟨(key, b), Std.ExtTreeMap.mem_toList_iff_getElem?_eq_some.mpr hb, rfl⟩

section Retype

variable {t : Tables} (hv : t.view.Linked) (r : Record) (s : Tables × List Zid)
  (hs : s.1.view.refs = t.view.refs)

include hv hs

/-- The pass over the keys that are gone. -/
theorem view_foldl_unlinkTyped :
    ((gone (t.node r.zid) r).foldl (unlinkTyped r.zid) s).1.view =
      s.1.view.mapRefs ((gone (t.node r.zid) r).map Prod.fst)
        (retarget r.zid fun key => (r.typed.getD key ∅).slice) := by
  have hnodup : ((gone (t.node r.zid) r).map Prod.fst).Nodup :=
    (nodup_keys (t.node r.zid).typed).sublist (List.filter_sublist.map _)
  apply view_foldl_mapRefs t.view (unlinkTyped r.zid) _ hnodup s fun p _ a => by rw [hs]
  intro s p hp hs
  rcases mem_gone.mp hp with ⟨hold, hnone⟩
  have hrefs : t.view.refs r.zid p.1 = p.2 := getD_of_getElem? hold _
  have hnew : (r.typed.getD p.1 ∅).slice = ∅ :=
    congrArg ZidSet.slice (getD_of_getElem?_none hnone ∅)
  have hasc := hv.typed_ascending r.zid p.1 .forward
  rw [hrefs] at hasc
  apply view_unlinkTyped s.1 s.2 r.zid _ hnew hasc
  intro a ha
  rw [hs] at ha
  rw [← hrefs]
  exact (hv.typed_iff p.1 r.zid a).mpr ha

/-- The keys of the record are not among those that are gone. -/
theorem refs_foldl_unlinkTyped {p : String × ZidSet} (hp : p ∈ r.typed.toList) (a : Zid) :
    ((gone (t.node r.zid) r).foldl (unlinkTyped r.zid) s).1.view.refs a p.1 =
      t.view.refs a p.1 := by
  have hnot : p.1 ∉ (gone (t.node r.zid) r).map Prod.fst := by
    rw [mem_gone_keys, Std.ExtTreeMap.mem_toList_iff_getElem?_eq_some.mp hp]
    exact fun h => Option.some_ne_none _ h.2
  rw [view_foldl_unlinkTyped hv r s hs]
  simp only [View.mapRefs, hnot, if_false, hs]

omit hs in
/-- The pass over the keys that are there. -/
theorem view_foldl_relinkTyped
    (hkept : ∀ p ∈ r.typed.toList, ∀ a, s.1.view.refs a p.1 = t.view.refs a p.1) :
    (r.typed.toList.foldl (relinkTyped r.zid (t.node r.zid)) s).1.view =
      s.1.view.mapRefs (r.typed.toList.map Prod.fst)
        (retarget r.zid fun key => (r.typed.getD key ∅).slice) := by
  apply view_foldl_mapRefs t.view (relinkTyped r.zid (t.node r.zid)) _ (nodup_keys r.typed) s hkept
  intro s p hp hs
  have hnew : (r.typed.getD p.1 ∅).slice = p.2.slice := congrArg ZidSet.slice
    (getD_of_getElem? (Std.ExtTreeMap.mem_toList_iff_getElem?_eq_some.mp hp) ∅)
  apply view_relinkTyped s.1 s.2 r.zid _ hnew (hv.typed_ascending r.zid p.1 .forward)
  · intro a
    rw [hs]
    exact hv.typed_ascending a p.1 .backward
  · intro a
    rw [hs]
    exact (hv.typed_iff p.1 r.zid a).symm

/-- Both passes together see to all keys. -/
theorem view_retype :
    (r.typed.toList.foldl (relinkTyped r.zid (t.node r.zid))
        ((gone (t.node r.zid) r).foldl (unlinkTyped r.zid) s)).1.view =
      { s.1.view with
        refs := fun a key =>
          retarget r.zid (fun key => (r.typed.getD key ∅).slice) a key (t.view.refs a key) } := by
  rw [view_foldl_relinkTyped hv r _ fun p hp a => refs_foldl_unlinkTyped hv r s hs hp a,
    view_foldl_unlinkTyped hv r s hs]
  refine View.ext rfl rfl rfl ?_ rfl rfl rfl rfl rfl rfl
  funext a key
  simp only [View.mapRefs, hs, mem_keys, mem_gone_keys]
  by_cases hnew : r.typed[key]? = none
  · by_cases hold : (t.node r.zid).typed[key]? = none
    · -- Neither pass comes to this key.
      have hnone : t.view.refs r.zid key = Refs.empty := getD_of_getElem?_none hold Refs.empty
      have hempty : (r.typed.getD key ∅).slice = ∅ :=
        congrArg ZidSet.slice (getD_of_getElem?_none hnew ∅)
      have hunknown : retarget r.zid (fun key => (r.typed.getD key ∅).slice) a key
          (t.view.refs a key) = t.view.refs a key := retarget_of_unknown hv hnone hempty a
      simp only [hnew, hold, ne_eq, not_true, false_and, if_false]
      exact hunknown.symm
    · simp only [hnew, hold, ne_eq, not_true, not_false_eq_true, and_self, if_true, if_false]
  · simp only [hnew, ne_eq, not_false_eq_true, and_false, if_true, if_false]

end Retype

theorem view_update (t : Tables) (r : Record) (hv : t.view.Linked) :
    (t.update r).2.view = t.view.update r := by
  let z := r.zid
  let old := t.node z
  let t1 := t.relinkDead z r.dead.slice old.dead
  let s2 := t1.relinkForward z r.forward.slice old.forward
  let s3 := r.typed.toList.foldl (relinkTyped z old) ((gone old r).foldl (unlinkTyped z) s2)
  let t4 : Tables := { s3.1 with
    words := relist z r.words.toList old.words s3.1.words
    urls := relist z r.urls.toList old.urls s3.1.urls }
  let t5 := t4.edit z fun n =>
    { n with words := r.words.toList, urls := r.urls.toList, tags := r.tagText }
  -- Each step is the step of a view, given that the steps before have left its own part alone.
  have h1 : t1.view = _ := t.view_relinkDead z (ZidSet.ascending_slice _) (hv.dead_ascending z)
    hv.sources_ascending fun a => (hv.dead_iff z a).symm
  have h2 : s2.1.view = _ := t1.view_relinkForward z (ZidSet.ascending_slice _)
    (hv.forward_ascending z) (by rw [h1]; exact hv.backward_ascending)
    (by rw [h1]; exact fun a => (hv.forward_iff z a).symm)
  have h3 : s3.1.view = _ := view_retype hv r s2 (by rw [h2, h1])
  have h4 : t4.view = _ := s3.1.view_relist z (nodup_of_sorted (sorted_toList r.words))
    (nodup_of_sorted (hv.words_sorted z)) (nodup_of_sorted (sorted_toList r.urls))
    (nodup_of_sorted (hv.urls_sorted z)) (by rw [h3, h2, h1]; exact hv.holders_ascending)
    (by rw [h3, h2, h1]; exact fun w => (hv.words_iff z w).symm)
    (by rw [h3, h2, h1]; exact hv.urlHolders_ascending)
    (by rw [h3, h2, h1]; exact fun w => (hv.urls_iff z w).symm)
  have h5 : t5.view = _ := (t4.view_edit z _).trans (t4.setNode_lists z _ _ _)
  have hreap : (t.update r).2.view = t5.view := by
    show ((t5.reap z).reapAll s3.2).view = t5.view
    rw [view_reapAll, view_reap]
  -- Read from the last step back to the first, this is the view of the update.
  rw [hreap, h5, h4, h3, h2, h1]
  rfl

/-- Exactly the others with a dead reference to the zettel are answered. -/
theorem mem_update_waiting (t : Tables) (r : Record) (a : Zid) :
    a ∈ (t.update r).1 ↔ a ≠ r.zid ∧ a ∈ t.view.sources r.zid := by
  show a ∈ (ZidSet.ofZids (t.dead.getD r.zid ∅).ids).erase r.zid ↔ _
  rw [Std.ExtTreeSet.mem_erase, ZidSet.mem_ofZids, ne_eq, Std.compare_eq_iff_eq, eq_comm]
  exact Iff.rfl

end Tables

end Kasten.Index
