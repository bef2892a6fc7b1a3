import Mathlib.Data.List.Basic
import Kasten.Proofs.Index.Ledger
import Kasten.Proofs.Index.Record
import Kasten.Proofs.Meta.Header
import Kasten.Proofs.Meta.Set

/-!
# Enriched metadata

Enriching sets a few pairs, all of them under computed keys. What they are depends only on what
is stored in files, and that is just what they are not part of. So nothing is seen of them in a
file or in the index, and enriching anew gives the same metadata again.
-/

namespace Kasten

/-! ## 1. Keys and values -/

namespace Text

theorem joinSpaces_eq (ws : List (List Char)) : joinSpaces ws = [' '].intercalate ws := by
  induction ws with
  | nil => rfl
  | cons w rest ih =>
    cases rest with
    | nil => simp [joinSpaces, List.intercalate]
    | cons w' rest =>
      rw [joinSpaces, ih]
      · simp [List.intercalate]
      · exact List.cons_ne_nil w' rest

end Text

/-- Some key is for references that are reported under this one. -/
def Key.IsInverse (key : String) : Prop := ∃ k, (Key.describe k).inverse = some key

/-- Inverse keys are computed, and are none of those for references of every kind. -/
theorem Key.IsInverse.isComputed {key : String} (h : Key.IsInverse key) :
    Key.isComputed key = true ∧ key ≠ Key.back := by
  have hregistered : ∀ p ∈ Key.registered, ∀ key ∈ p.2.inverse,
      Key.isComputed key = true ∧ key ≠ Key.back := by
    decide
  rcases h with ⟨k, hk⟩
  unfold Key.describe at hk
  split at hk
  next description hlookup =>
    rcases List.lookup_eq_some_iff.mp hlookup with ⟨before, after, hlist, -⟩
    have hmem : (k, description) ∈ Key.registered := hlist ▸ List.mem_append_cons_self
    exact hregistered _ hmem key hk
  next => cases hk

theorem ZidSlice.squeeze_text (s : ZidSlice) : Meta.squeeze s.text = s.text := by
  have hlist : s.text.toList = Text.joinSpaces (s.ids.map Zid.digits) := by
    unfold ZidSlice.text
    rw [String.toList_intercalate, Text.joinSpaces_eq, List.map_map]
    exact congrArg [' '].intercalate (List.map_congr_left fun z _ => String.toList_ofList)
  have hwords : ∀ w ∈ s.ids.map Zid.digits, Text.IsWord w := by
    intro w hw
    rcases List.mem_map.mp hw with ⟨z, -, rfl⟩
    exact z.isWord_digits
  unfold Meta.squeeze Text.squeeze
  rw [hlist, Text.words_joinSpaces hwords, ← hlist, String.ofList_toList]

/-! ## 2. What is added -/

namespace Index

namespace Tables

/-- The pair for a slice, unless it is empty. -/
def slicePairs (key : String) (s : ZidSlice) : List (String × String) :=
  if s.isEmpty then [] else [(key, s.text)]

def tagPairs (m : Meta) (tags : String) : List (String × String) :=
  if tags = "" then (m.get? Key.tags).toList.map fun own => (Key.allTags, own)
  else [(Key.contentTags, tags), (Key.allTags, allTags m tags)]

/-- The pairs for references, but for those of zettel without any other tie. -/
def tiePairs (n : Node) : List (String × String) :=
  slicePairs Key.dead n.dead ++ slicePairs Key.backward n.backward ++
    slicePairs Key.forward n.forward ++
    n.typed.toList.flatMap fun (key, refs) => slicePairs key refs.backward

/-- All that enriching sets, in this order. -/
def additions (m : Meta) (n : Node) : List (String × String) :=
  tiePairs n ++ slicePairs Key.back (loneBack m n) ++ tagPairs m n.tags

variable {m m' : Meta} {n : Node} {z : Zid}

theorem setSlice_eq (m : Meta) (key : String) (s : ZidSlice) :
    setSlice m key s = m.setAll (slicePairs key s) := by
  unfold setSlice slicePairs
  split <;> rfl

theorem addTags_eq (m : Meta) (tags : String) : addTags m tags = m.setAll (tagPairs m tags) := by
  unfold addTags tagPairs
  split
  next =>
    cases m.get? Key.tags with
    | none => rfl
    | some own =>
      show m.set Key.allTags own = List.foldl _ m [(Key.allTags, own)]
      rw [List.foldl_cons, List.foldl_nil]
  next =>
    unfold Meta.setAll
    rw [List.foldl_cons, List.foldl_cons, List.foldl_nil]

theorem foldl_setSlice_eq (m : Meta) (pairs : List (String × Refs)) :
    pairs.foldl (fun m (key, refs) => setSlice m key refs.backward) m =
      m.setAll (pairs.flatMap fun (key, refs) => slicePairs key refs.backward) := by
  induction pairs generalizing m with
  | nil => rfl
  | cons pair rest ih =>
    rcases pair with ⟨key, refs⟩
    rw [List.foldl_cons, List.flatMap_cons, Meta.setAll_append, ih]
    dsimp only
    rw [setSlice_eq]

/-- References are kept under inverse keys only. -/
def KeysInverse (n : Node) : Prop :=
  ∀ (key : String) (refs : Refs), n.typed[key]? = some refs → Key.IsInverse key

theorem mem_slicePairs {key : String} {s : ZidSlice} {p : String × String}
    (h : p ∈ slicePairs key s) : p.1 = key := by
  unfold slicePairs at h
  split at h
  next => exact absurd h List.not_mem_nil
  next => rw [List.mem_singleton.mp h]

theorem mem_tagPairs {tags : String} {p : String × String} (h : p ∈ tagPairs m tags) :
    p.1 = Key.contentTags ∨ p.1 = Key.allTags := by
  unfold tagPairs at h
  split at h
  next =>
    rcases List.mem_map.mp h with ⟨own, -, rfl⟩
    exact .inr rfl
  next =>
    rcases List.mem_cons.mp h with rfl | h
    · exact .inl rfl
    · rw [List.mem_singleton.mp h]
      exact .inr rfl

theorem mem_tiePairs (hn : KeysInverse n) {p : String × String} (h : p ∈ tiePairs n) :
    Key.isComputed p.1 = true ∧ p.1 ≠ Key.back := by
  unfold tiePairs at h
  simp only [List.mem_append, List.mem_flatMap] at h
  rcases h with ((h | h) | h) | ⟨⟨key, refs⟩, hmem, h⟩
  · rw [mem_slicePairs h]
    decide
  · rw [mem_slicePairs h]
    decide
  · rw [mem_slicePairs h]
    decide
  · rw [mem_slicePairs h]
    exact (hn key refs (Std.ExtTreeMap.mem_toList_iff_getElem?_eq_some.mp hmem)).isComputed

theorem isComputed_of_mem_additions (hn : KeysInverse n) {p : String × String}
    (h : p ∈ additions m n) : Key.isComputed p.1 = true := by
  unfold additions at h
  simp only [List.mem_append] at h
  rcases h with (h | h) | h
  · exact (mem_tiePairs hn h).1
  · rw [mem_slicePairs h]
    decide
  · rcases mem_tagPairs h with hkey | hkey
    · rw [hkey]
      decide
    · rw [hkey]
      decide

theorem tagPairs_congr (h : m.StoredAlike m') (tags : String) :
    tagPairs m tags = tagPairs m' tags := by
  unfold tagPairs allTags
  rw [h.get?_eq (by decide), h.getList_eq (by decide)]

theorem namedIn_congr (h : m.StoredAlike m') : namedIn m = namedIn m' := by
  unfold namedIn
  rw [h.userPairs_eq]
  refine congrArg (fun zids => ZidSlice.ofList zids.flatten) (List.map_congr_left fun p hp => ?_)
  have hkey := Meta.isComputed_of_mem_userPairs hp
  rcases p with ⟨key, value⟩
  dsimp only
  rw [h.getZids_eq hkey]

/-- What is added depends only on what is stored. -/
theorem additions_congr (h : m.StoredAlike m') (n : Node) : additions m n = additions m' n := by
  unfold additions loneBack
  rw [tagPairs_congr h, namedIn_congr h]

theorem storedAlike_additions (hn : KeysInverse n) (m : Meta) :
    (m.setAll (additions m n)).StoredAlike m :=
  Meta.storedAlike_setAll fun _ hp => isComputed_of_mem_additions hn hp

/-- The tags are looked up when the other pairs are set already, which makes no difference. -/
theorem enrichWith_eq (hn : KeysInverse n) (m : Meta) :
    enrichWith m n = m.setAll (additions m n) := by
  have hfirst : (m.setAll (tiePairs n ++ slicePairs Key.back (loneBack m n))).StoredAlike m := by
    apply Meta.storedAlike_setAll
    intro p hp
    exact isComputed_of_mem_additions (m := m) hn (List.mem_append_left _ hp)
  unfold enrichWith additions
  rw [Meta.setAll_append, ← tagPairs_congr hfirst, ← addTags_eq]
  unfold tiePairs
  simp only [Meta.setAll_append, ← setSlice_eq, ← foldl_setSlice_eq]

/-- Enriching is over and done with after the first time. -/
theorem enrichWith_enrichWith (hn : KeysInverse n) (m : Meta) :
    enrichWith (enrichWith m n) n = enrichWith m n := by
  rw [enrichWith_eq hn, enrichWith_eq hn, additions_congr (storedAlike_additions hn m),
    Meta.setAll_setAll]

theorem storedAlike_enrichWith (hn : KeysInverse n) (m : Meta) :
    (enrichWith m n).StoredAlike m := by
  rw [enrichWith_eq hn]
  exact storedAlike_additions hn m

theorem zid_enrichWith (hn : KeysInverse n) (m : Meta) : (enrichWith m n).zid = m.zid := by
  rw [enrichWith_eq hn, Meta.zid_setAll]

theorem yamlSep_enrichWith (hn : KeysInverse n) (m : Meta) :
    (enrichWith m n).yamlSep = m.yamlSep := by
  rw [enrichWith_eq hn, Meta.yamlSep_setAll]

/-! ## 3. References back -/

theorem mem_namedIn : z ∈ namedIn m ↔
    ∃ p ∈ m.userPairs, Record.holdsZids p.1 ∧ z ∈ m.getZids p.1 := by
  unfold namedIn Record.holdsZids
  rw [ZidSlice.mem_ofList, List.mem_flatMap]
  refine exists_congr fun p => and_congr_right fun _ => ?_
  rcases p with ⟨key, value⟩
  dsimp only
  cases (Key.describe key).type <;> simp

theorem mem_foldl_without {pairs : List (String × Refs)} {s : ZidSlice} :
    z ∈ pairs.foldl (fun back (_, refs) => back.without refs.backward) s ↔
      z ∈ s ∧ ∀ p ∈ pairs, z ∉ p.2.backward := by
  induction pairs generalizing s with
  | nil => simp
  | cons pair rest ih =>
    rw [List.foldl_cons, ih, ZidSlice.mem_without, List.forall_mem_cons, and_assoc]

theorem mem_loneBack : z ∈ loneBack m n ↔ z ∈ n.backward ∧
    (¬ ∃ p ∈ m.userPairs, Record.holdsZids p.1 ∧ z ∈ m.getZids p.1) ∧ z ∉ n.forward ∧
    ∀ (key : String) (refs : Refs), n.typed[key]? = some refs → z ∉ refs.backward := by
  unfold loneBack
  rw [mem_foldl_without, ZidSlice.mem_without, ZidSlice.mem_without, mem_namedIn, and_assoc, and_assoc]
  simp only [Prod.forall, Std.ExtTreeMap.mem_toList_iff_getElem?_eq_some]

theorem ascending_loneBack (h : n.backward.Ascending) : (loneBack m n).Ascending :=
  List.foldlRecOn (motive := ZidSlice.Ascending) _ _
    ((h.without _).without _) fun _ hs p _ => hs.without p.2.backward

theorem get?_back_enrichWith (hn : KeysInverse n) (m : Meta) :
    (enrichWith m n).get? Key.back =
      if (loneBack m n).isEmpty then m.get? Key.back else some (loneBack m n).text := by
  have hties : ∀ p ∈ tiePairs n, p.1 ≠ Key.back := fun p hp => (mem_tiePairs hn hp).2
  have htags : ∀ p ∈ tagPairs m n.tags, p.1 ≠ Key.back := by
    intro p hp
    rcases mem_tagPairs hp with hkey | hkey
    · rw [hkey]
      decide
    · rw [hkey]
      decide
  have hget : ∀ m : Meta, m.get? Key.back = m.pairs[Key.back]? := fun m => if_neg (by decide)
  rw [enrichWith_eq hn, additions, hget, hget, Meta.setAll_append,
    Meta.getElem?_setAll_of_not_mem htags, Meta.setAll_append, ← setSlice_eq]
  unfold setSlice
  split
  next => exact Meta.getElem?_setAll_of_not_mem hties
  next =>
    rw [Meta.getElem?_set ⟨by decide, by decide⟩, if_pos rfl, ZidSlice.squeeze_text]

end Tables

/-! ## 4. Stores of zettel -/

theorem Record.ofZettel_congr {m m' : Meta} (h : m.StoredAlike m') (hzid : m.zid = m'.zid)
    (scan : Scanner) (isThere : Zid → Bool) (content : Bytes) :
    ofZettel scan isThere ⟨m, content⟩ = ofZettel scan isThere ⟨m', content⟩ := by
  have hsyntax : m.getD Key.syntaxName Meta.defaultSyntax =
      m'.getD Key.syntaxName Meta.defaultSyntax :=
    congrArg (Option.getD · Meta.defaultSyntax) (h.get?_eq (by decide))
  have hpairs : m.userPairs.foldl (addPair scan isThere m) (new m.zid, ScanResult.empty) =
      m'.userPairs.foldl (addPair scan isThere m') (new m'.zid, ScanResult.empty) := by
    rw [← h.userPairs_eq, ← hzid]
    refine List.foldl_ext _ _ _ fun s p hp => ?_
    have hkey := Meta.isComputed_of_mem_userPairs hp
    rcases p with ⟨key, value⟩
    unfold addPair
    dsimp only
    rw [h.getZids_eq hkey]
  unfold ofZettel scanContent Zettel.zid
  dsimp only
  rw [hpairs, hsyntax]

theorem writeFile_congr {m m' : Meta} (h : m.StoredAlike m') (hzid : m.zid = m'.zid)
    (hsep : m.yamlSep = m'.yamlSep) (content : Bytes) :
    Header.writeFile m content = Header.writeFile m' content := by
  unfold Header.writeFile Header.write
  rw [h.userPairs_eq, hzid, hsep]

/-- A zettel is looked at, or forgotten. -/
def Call.IsOfZettel : Call → Prop
  | .update r => ∃ scan isThere z, r = Record.ofZettel scan isThere z
  | .delete _ => True

theorem Record.isInverse_of_mem {scan : Scanner} {isThere : Zid → Bool} {z : Zettel} {key : String}
    {t : Zid} (h : t ∈ (ofZettel scan isThere z).typed.getD key ∅) : Key.IsInverse key := by
  rcases (mem_slot_ofZettel scan isThere z t (.typed key)).mp h with ⟨inverse, hmentions, hslot⟩
  have hinverse : inverse = some key := by
    unfold Slot.of at hslot
    split at hslot
    next =>
      cases inverse with
      | none => cases hslot
      | some key' =>
        cases hslot
        rfl
    next => cases hslot
  rcases hmentions with ⟨p, -, -, hp, -⟩ | ⟨hnone, -⟩
  · exact ⟨p.1, hp.trans hinverse⟩
  · rw [hinverse] at hnone
    cases hnone

namespace Store

variable {calls : List Call}

theorem isInverse_of_mem_ledger (hcalls : ∀ c ∈ calls, c.IsOfZettel) {z t : Zid} {key : String}
    (h : t ∈ (Ledger.empty.callAll calls z).typed key) : Key.IsInverse key := by
  rcases Ledger.stemsFrom_callAll calls z with hnone | ⟨r, hr, -, -, htyped⟩
  · rw [hnone] at h
    exact absurd h Std.ExtTreeSet.not_mem_empty
  · rcases hcalls _ hr with ⟨scan, isThere, zettel, rfl⟩
    exact Record.isInverse_of_mem (htyped key t h)

/-- Each half of a reference under a key goes back to a record that has the key. -/
theorem keysInverse_of_node (hcalls : ∀ c ∈ calls, c.IsOfZettel) {z : Zid} {n : Node}
    (hz : (new.callAll calls).tables.nodes[z]? = some n) : Tables.KeysInverse n := by
  have hkeeps := keeps_after calls
  have hnode : (new.callAll calls).tables.node z = n := getD_of_getElem? hz _
  intro key refs hkey
  have hrefs : (new.callAll calls).tables.view.refs z key = refs := by
    show ((new.callAll calls).tables.node z).refs key = refs
    rw [hnode]
    exact getD_of_getElem? hkey _
  by_cases hforward : refs.forward = ∅
  · by_cases hbackward : refs.backward = ∅
    · have hempty : refs = Refs.empty := Refs.ext hforward hbackward
      exact absurd (hempty ▸ hkey) (hnode ▸ hkeeps.sound.stored.typed z key)
    · rcases not_forall_not.mp (mt (ZidSlice.eq_empty_iff _).mpr hbackward) with ⟨a, ha⟩
      rw [← hrefs] at ha
      exact isInverse_of_mem_ledger hcalls (hkeeps.mem_typed_backward.mp ha)
  · rcases not_forall_not.mp (mt (ZidSlice.eq_empty_iff _).mpr hforward) with ⟨t, ht⟩
    rw [← hrefs, hkeeps.shows.typed, ZidSet.mem_slice] at ht
    exact isInverse_of_mem_ledger hcalls ht

theorem tables_enrich (s : Store) (m : Meta) : (s.enrich m).2.tables = s.tables := by
  unfold enrich
  split
  · rfl
  · dsimp only
    split <;> rfl

theorem enrich_of_none {s : Store} {m : Meta} (h : s.tables.nodes[m.zid]? = none) :
    (s.enrich m).1 = m := by
  unfold enrich
  rw [h]

theorem enrich_of_some {s : Store} {m : Meta} {n : Node} (h : s.tables.nodes[m.zid]? = some n) :
    (s.enrich m).1 = Tables.enrichWith m n := by
  unfold enrich
  rw [h]

/-- Enriching leaves no trace in files and in the index, and happens once for all. A zettel is
reported as referring back when it refers to this one while the stored metadata of this one does
not name it, this one does not refer to it, and no other report names it. -/
theorem enrich_is_invisible (calls : List Call) (hcalls : ∀ c ∈ calls, c.IsOfZettel) (m : Meta) :
    let s := new.callAll calls
    let m' := (s.enrich m).1
    m'.zid = m.zid ∧ m'.yamlSep = m.yamlSep ∧ m'.userPairs = m.userPairs ∧
    (∀ content, Header.writeFile m' content = Header.writeFile m content) ∧
    (∀ scan isThere content,
      Record.ofZettel scan isThere ⟨m', content⟩ = Record.ofZettel scan isThere ⟨m, content⟩) ∧
    ((s.enrich m).2.enrich m').1 = m' ∧
    ∀ n, s.tables.nodes[m.zid]? = some n → ∃ back : ZidSlice,
      back.Ascending ∧
      (∀ z, z ∈ back ↔ z ∈ n.backward ∧
        (¬ ∃ p ∈ m.userPairs, Record.holdsZids p.1 ∧ z ∈ m.getZids p.1) ∧ z ∉ n.forward ∧
        ∀ (key : String) (refs : Refs), n.typed[key]? = some refs → z ∉ refs.backward) ∧
      m'.get? Key.back = if back.isEmpty then m.get? Key.back else some back.text := by
  intro s m'
  have halike : m'.StoredAlike m ∧ m'.zid = m.zid ∧ m'.yamlSep = m.yamlSep ∧
      ((s.enrich m).2.enrich m').1 = m' := by
    cases hz : s.tables.nodes[m.zid]? with
    | none =>
      have hm' : m' = m := enrich_of_none hz
      rw [hm']
      refine ⟨fun _ _ => rfl, rfl, rfl, enrich_of_none ?_⟩
      rw [tables_enrich, hz]
    | some n =>
      have hn := keysInverse_of_node hcalls hz
      have hm' : m' = Tables.enrichWith m n := enrich_of_some hz
      rw [hm']
      refine ⟨Tables.storedAlike_enrichWith hn m, Tables.zid_enrichWith hn m,
        Tables.yamlSep_enrichWith hn m, ?_⟩
      rw [enrich_of_some (n := n), Tables.enrichWith_enrichWith hn]
      rw [tables_enrich, Tables.zid_enrichWith hn, hz]
  rcases halike with ⟨halike, hzid, hsep, htwice⟩
  refine ⟨hzid, hsep, halike.userPairs_eq, writeFile_congr halike hzid hsep,
    fun scan isThere content => Record.ofZettel_congr halike hzid scan isThere content, htwice, ?_⟩
  intro n hz
  have hn := keysInverse_of_node hcalls hz
  have hnode : s.tables.node m.zid = n := getD_of_getElem? hz _
  have hascending : n.backward.Ascending :=
    hnode ▸ (keeps_after calls).sound.linked.backward_ascending m.zid
  refine ⟨Tables.loneBack m n, Tables.ascending_loneBack hascending,
    fun z => Tables.mem_loneBack, ?_⟩
  rw [show m' = Tables.enrichWith m n from enrich_of_some hz]
  exact Tables.get?_back_enrichWith hn m

/-- One zettel names another in its metadata. -/
theorem enrich_is_invisible_of_reference :
    let z : Zettel :=
      ⟨Meta.made ⟨20200101000001⟩ [.set "related-zid" "20200101000002"] false, []⟩
    let r := Record.ofZettel (fun _ _ => ScanResult.empty) (fun _ => true) z
    let m := Meta.made ⟨20200101000002⟩ [.set Key.title "Named"] false
    let m' := ((new.callAll [.update r]).enrich m).1
    (∀ c ∈ [Call.update r], c.IsOfZettel) ∧ m'.userPairs = [(Key.title, "Named")] ∧
      (((new.callAll [.update r]).enrich m).2.enrich m').1 = m' ∧
      m'.get? Key.back = some "20200101000001" := by
  intro z r m m'
  have hcalls : ∀ c ∈ [Call.update r], c.IsOfZettel := by
    intro c hc
    rw [List.mem_singleton.mp hc]
    exact ⟨_, _, z, rfl⟩
  have hforward : r.forward = ZidSet.ofZids [⟨20200101000002⟩] := by decide +kernel
  have htyped : r.typed = ∅ := by decide +kernel
  have hpairs : m.userPairs = [(Key.title, "Named")] := by decide +kernel
  have hkeeps := keeps_after [.update r]
  -- Only the first zettel has a record, and it refers to the second under no inverse key.
  have hledger : ∀ a, Ledger.empty.callAll [.update r] a =
      if a = ⟨20200101000001⟩ then r.content else Content.empty :=
    fun a => Function.update_apply ..
  have hrefers : ∀ a, ⟨20200101000002⟩ ∈ (Ledger.empty.callAll [.update r] a).forward ↔
      a = ⟨20200101000001⟩ := by
    intro a
    rw [hledger]
    split
    next ha =>
      show _ ∈ r.forward ↔ _
      rw [hforward, ZidSet.mem_ofZids]
      exact iff_of_true List.mem_cons_self ha
    next ha => exact iff_of_false Std.ExtTreeSet.not_mem_empty ha
  rcases hkeeps.exists_backward ((hrefers _).mpr rfl) with ⟨n, hz, hback⟩
  rcases enrich_is_invisible [.update r] hcalls m with ⟨-, -, huser, -, -, htwice, hreport⟩
  rcases hreport n hz with ⟨back, hascending, hmem, hget⟩
  have honly : back = ⟨[⟨20200101000001⟩]⟩ := by
    refine hascending.ext (by decide) fun a => Iff.trans ?_ List.mem_singleton.symm
    have hnode : (new.callAll [.update r]).tables.node ⟨20200101000002⟩ = n := getD_of_getElem? hz _
    rw [hmem, ← hnode, hkeeps.mem_backward, hrefers, hkeeps.mem_forward, hledger, hpairs]
    refine and_iff_left_of_imp ?_
    rintro rfl
    refine ⟨?_, Std.ExtTreeSet.not_mem_empty, ?_⟩
    · rintro ⟨p, hp, hzids, -⟩
      rw [List.mem_singleton.mp hp] at hzids
      exact absurd hzids (by unfold Record.holdsZids; decide)
    · intro key refs hkey hin
      have hrefs : (new.callAll [.update r]).tables.view.refs ⟨20200101000002⟩ key = refs :=
        getD_of_getElem? hkey _
      rw [← hrefs] at hin
      have hin' := hkeeps.mem_typed_backward.mp hin
      rw [hledger, if_pos rfl] at hin'
      change _ ∈ r.typed.getD key ∅ at hin'
      rw [htyped, Std.ExtTreeMap.getD_empty] at hin'
      exact Std.ExtTreeSet.not_mem_empty hin'
  refine ⟨hcalls, huser.trans hpairs, htwice, hget.trans ?_⟩
  rw [honly]
  decide +kernel

end Store

end Index

end Kasten
