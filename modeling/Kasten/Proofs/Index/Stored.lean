import Kasten.Proofs.Index.View

/-!
# What the tables store

A node of which nothing is known, a key without references and an empty row are never left in the
tables. While a record is taken in, nodes may be empty for a time; every change leaves such nodes
only among those that are reaped at the end.
-/

namespace Kasten.Index.Tables

/-- Nothing empty is stored, but for nodes among the loose ones. -/
structure Stored (t : Tables) (loose : List Zid) : Prop where
  nodes (z : Zid) : t.nodes[z]? = some Node.empty → z ∈ loose
  typed (z : Zid) : Omits (t.node z).typed Refs.empty
  dead : Omits t.dead ∅
  words : Omits t.words ∅
  urls : Omits t.urls ∅

theorem stored_empty : empty.Stored [] where
  nodes z h := absurd h (omits_empty Node.empty z)
  typed _ := omits_empty _
  dead := omits_empty _
  words := omits_empty _
  urls := omits_empty _

namespace Stored

variable {t : Tables} {loose : List Zid}

theorem mono (h : t.Stored loose) (more : List Zid) (hsub : ∀ z ∈ loose, z ∈ more) :
    t.Stored more :=
  { h with nodes := fun z hz => hsub z (h.nodes z hz) }

theorem omits_nodes (h : t.Stored []) : Omits t.nodes Node.empty :=
  fun z hz => List.not_mem_nil (h.nodes z hz)

theorem foldl {κ : Type} (h : t.Stored loose) (step : Tables → κ → Tables) (l : List κ)
    (hstep : ∀ t a, a ∈ l → t.Stored loose → (step t a).Stored loose) :
    (l.foldl step t).Stored loose :=
  List.foldlRecOn l step h fun t ht a ha => hstep t a ha ht

/-- Steps that keep a list of what may be empty beside the tables. -/
theorem foldl_loose {τ κ : Type} (may : τ → List Zid) (step : Tables × τ → κ → Tables × τ)
    (hstep : ∀ s a, s.1.Stored (may s.2) → (step s a).1.Stored (may (step s a).2))
    {s : Tables × τ} (h : s.1.Stored (may s.2)) (l : List κ) :
    (l.foldl step s).1.Stored (may (l.foldl step s).2) := by
  induction l generalizing s with
  | nil => exact h
  | cons a rest ih => exact ih (hstep s a h)

/-! ## 1. Changing nodes -/

theorem edit (h : t.Stored loose) (z : Zid) (f : Node → Node)
    (hf : Omits (f (t.node z)).typed Refs.empty) (hz : z ∈ loose ∨ f (t.node z) ≠ Node.empty) :
    (t.edit z f).Stored loose := by
  refine ⟨?_, ?_, h.dead, h.words, h.urls⟩
  · intro a ha
    change (t.nodes.insert z (f (t.node z)))[a]? = _ at ha
    rw [Std.ExtTreeMap.getElem?_insert] at ha
    split at ha
    next heq =>
      rw [Std.compare_eq_iff_eq] at heq
      subst heq
      exact hz.resolve_right fun hne => hne (Option.some.inj ha)
    next => exact h.nodes a ha
  · intro a
    rw [node_edit]
    split
    · exact hf
    · exact h.typed a

theorem editOld (h : t.Stored loose) {z : Zid} {f : Node → Node}
    (hf : Omits (f (t.node z)).typed Refs.empty) (hz : z ∈ loose) :
    (t.editOld z f).Stored loose := by
  unfold Tables.editOld
  cases hn : t.nodes[z]? with
  | none => exact h
  | some n =>
    have he : f n = f (t.node z) := by
      rw [Tables.node, getD_of_getElem? hn]
    show ({ t with nodes := t.nodes.insert z (f n) } : Tables).Stored loose
    rw [he]
    exact h.edit z f hf (Or.inl hz)

theorem reap (z : Zid) (h : t.Stored (z :: loose)) : (t.reap z).Stored loose := by
  rcases t.reap_frame z with ⟨hd, hw, hu⟩
  refine ⟨?_, fun a => by rw [node_reap]; exact h.typed a, by rw [hd]; exact h.dead,
    by rw [hw]; exact h.words, by rw [hu]; exact h.urls⟩
  intro a ha
  have hne : ¬ (z = a ∧ t.nodes[a]? = some Node.empty) := by
    rintro ⟨rfl, hz⟩
    rw [Tables.reap, hz] at ha
    simp [(Node.isEmpty_iff Node.empty).mpr rfl] at ha
  have hold : t.nodes[a]? = some Node.empty := by
    unfold Tables.reap at ha
    cases hz : t.nodes[z]? with
    | none => simpa [hz] using ha
    | some n =>
      rw [hz] at ha
      by_cases hn : n.isEmpty = true
      · simp only [hn, if_true, Std.ExtTreeMap.getElem?_erase] at ha
        split at ha
        · exact absurd ha.symm (Option.some_ne_none _)
        · exact ha
      · simpa [hn] using ha
  rcases List.mem_cons.mp (h.nodes a hold) with rfl | hin
  · exact absurd ⟨rfl, hold⟩ hne
  · exact hin

theorem reapAll (h : t.Stored loose) : (t.reapAll loose).Stored [] := by
  unfold Tables.reapAll
  induction loose generalizing t with
  | nil => exact h
  | cons z rest ih => exact ih (h.reap z)

/-! ## 2. Taking references in and out -/

theorem addBackward (h : t.Stored loose) (source target : Zid) :
    (t.addBackward source target).Stored loose := by
  refine h.edit target _ (h.typed target) (Or.inr ?_)
  intro he
  have hb : (t.node target).backward.insert source = ∅ := congrArg Node.backward he
  exact (ZidSlice.eq_empty_iff _).mp hb source (ZidSlice.mem_insert.mpr (Or.inl rfl))

theorem dropBackward (h : t.Stored loose) (source : Zid) {target : Zid} (ht : target ∈ loose) :
    (t.dropBackward source target).Stored loose :=
  h.editOld (h.typed target) ht

theorem dropForward (h : t.Stored loose) (target : Zid) {source : Zid} (hs : source ∈ loose) :
    (t.dropForward target source).Stored loose :=
  h.editOld (h.typed source) hs

theorem addTypedBackward (h : t.Stored loose) (key : String) (source target : Zid) :
    (addTypedBackward key t source target).Stored loose := by
  refine h.edit target _ (Node.omits_editTyped (h.typed target) key _) (Or.inr ?_)
  intro he
  have hr := congrArg (fun n => (n.refs key).backward) he
  simp only [Node.refs_editTyped, if_true, Node.refs_empty] at hr
  exact (ZidSlice.eq_empty_iff _).mp hr source (ZidSlice.mem_insert.mpr (Or.inl rfl))

theorem dropTypedBackward (h : t.Stored loose) (key : String) (source : Zid) {target : Zid}
    (ht : target ∈ loose) : (dropTypedBackward key t source target).Stored loose :=
  h.editOld (Node.omits_editTypedOld (h.typed target) key _) ht

theorem dropTypedForward (h : t.Stored loose) (key : String) (target : Zid) {source : Zid}
    (hs : source ∈ loose) : (dropTypedForward key t target source).Stored loose :=
  h.editOld (Node.omits_editTypedOld (h.typed source) key _) hs

theorem addDeadSource (h : t.Stored loose) (source target : Zid) :
    (t.addDeadSource source target).Stored loose :=
  { h with dead := omits_addMember h.dead target source }

theorem dropDeadSource (h : t.Stored loose) (source target : Zid) :
    (t.dropDeadSource source target).Stored loose := by
  rw [dropDeadSource_eq]
  exact { h with dead := omits_dropMember h.dead target source }

end Stored

theorem omits_relist {table : Inverted} (h : Omits table ∅) (z : Zid) (new old : List String) :
    Omits (relist z new old table) ∅ := by
  have hadded : Omits ((new.filter fun w => !old.contains w).foldl (addHolder z) table) ∅ :=
    List.foldlRecOn (motive := fun m => Omits m ∅) _ _ h fun _ hm w _ => omits_addMember hm w z
  exact List.foldlRecOn (motive := fun m => Omits m ∅) _ _ hadded
    fun _ hm w _ => omits_dropMember hm w z

theorem Stored.relist {t : Tables} {loose : List Zid} (h : t.Stored loose) (z : Zid)
    (words oldWords urls oldUrls : List String) :
    ({ t with
      words := Tables.relist z words oldWords t.words
      urls := Tables.relist z urls oldUrls t.urls } : Tables).Stored loose :=
  { h with
    words := omits_relist h.words z words oldWords
    urls := omits_relist h.urls z urls oldUrls }

end Kasten.Index.Tables
