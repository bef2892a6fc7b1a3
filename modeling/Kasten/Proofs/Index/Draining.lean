import Kasten.Proofs.Index.Load

/-!
# Working until nothing is left

As each step leaves less to do, the worker comes to an end, and the bound that it is given is large
enough. A full scan of the box then has healed whatever was in the index.
-/

namespace Kasten.Index

open Indexer

variable {U : Finset Zid} {x : Indexer} {shelf : Shelf} {g : Agenda} {m : Ledger}

/-! ## 1. Runs -/

theorem Anteroom.isEmpty_of_dequeue {a : Anteroom} (h : a.dequeue.1 = none) : a.isEmpty = true := by
  have hwork : roomsWork a.rooms = [] := by
    rw [← List.head?_eq_none_iff, ← (takeFirst_work a.rooms).1]
    exact h
  apply List.all_eq_true.mpr
  intro room hroom
  have hroomWork : room.work = [] := List.flatMap_eq_nil_iff.mp hwork room hroom
  rw [Room.work, List.map_eq_nil_iff, Std.ExtTreeMap.toList_eq_nil_iff] at hroomWork
  exact Std.ExtTreeMap.isEmpty_iff.mpr hroomWork

theorem isEmpty_of_work_eq_none {now : Nat} (h : x.work Shelf.source now shelf = none) :
    x.anteroom.isEmpty = true := by
  unfold Indexer.work at h
  rcases hd : x.anteroom.dequeue with ⟨_ | next, anteroom⟩
  · exact Anteroom.isEmpty_of_dequeue (by rw [hd])
  · rw [hd] at h
    exact absurd h (Option.some_ne_none _)

/-- As many steps as there is load are enough. -/
theorem Draining.drain (h : Draining U x shelf g m) (hshelf : shelf.Valid) (now : Nat) {n : Nat}
    (hn : load U shelf g m ≤ n) :
    (Indexer.drain Shelf.source now n x shelf).1.anteroom.isEmpty = true := by
  -- By induction over the steps; the load bounds how many are still needed.
  induction n generalizing x g m with
  | zero =>
    cases hwork : x.work Shelf.source now shelf with
    | none => exact isEmpty_of_work_eq_none hwork
    | some next =>
      rcases h.work hshelf now hwork with ⟨-, g', m', -, hload⟩
      omega
  | succ n ih =>
    unfold Indexer.drain
    cases hwork : x.work Shelf.source now shelf with
    | none => exact isEmpty_of_work_eq_none hwork
    | some next =>
      rcases next with ⟨x', shelf'⟩
      rcases h.work hshelf now hwork with ⟨rfl, g', m', hnext, hload⟩
      exact ih hnext (by omega)

/-! ## 2. The first steps -/

/-- Either a full scan is asked for before all else, or none is. -/
structure Agenda.Proper (g : Agenda) : Prop where
  first : g.first = [(.reload, Zid.invalid)] ∨ ∀ entry ∈ g.first, entry.1 ≠ .reload
  plain (z : Zid) : g.pending z ≠ some .reload

theorem Agenda.proper_nothing : Agenda.nothing.Proper :=
  ⟨Or.inr fun _ h => absurd h List.not_mem_nil, fun _ => (Option.some_ne_none _).symm⟩

theorem Agenda.plain_scanned (gone there : List Zid) :
    ∀ entry ∈ scanned gone .delete ++ scanned there .update, entry.1 ≠ .reload := by
  rintro ⟨action, z⟩ hentry
  rw [List.mem_append, Anteroom.mem_scanned, Anteroom.mem_scanned] at hentry
  rcases hentry with ⟨rfl, -⟩ | ⟨rfl, -⟩
  · exact (by decide : Action.delete ≠ .reload)
  · exact (by decide : Action.update ≠ .reload)

theorem Agenda.Proper.note (h : g.Proper) (answer : Option (Action × Zid)) (q : Anteroom.Ask) :
    (g.note answer q).Proper := by
  cases q with
  | enqueue z action =>
    show (g.enqueue z action).Proper
    refine ⟨by rw [g.first_enqueue]; exact h.first, ?_⟩
    intro y hy
    unfold Agenda.enqueue at hy
    split at hy
    next haccepted =>
      change Function.update g.pending z (some action) y = some .reload at hy
      rw [Function.update_apply] at hy
      split at hy
      · exact haccepted.2 (Option.some.inj hy)
      · exact h.plain y hy
    next => exact h.plain y hy
  | reload gone there => exact ⟨Or.inr (plain_scanned gone there), h.plain⟩
  | reset => exact ⟨Or.inl rfl, fun _ => (Option.some_ne_none _).symm⟩
  | dequeue =>
    refine ⟨Or.inr ?_, ?_⟩
    · intro entry hentry
      change entry ∈ (g.deliver answer).first at hentry
      rw [Agenda.first_deliver] at hentry
      -- Of a full scan that was first nothing is left.
      rcases h.first with hfirst | hfirst
      · rw [hfirst] at hentry
        exact absurd hentry List.not_mem_nil
      · exact hfirst entry (List.mem_of_mem_tail hentry)
    · intro y hy
      rcases g.pending_deliver answer y with hsame | hnone
      · exact h.plain y (hsame ▸ hy)
      · exact absurd (hnone.symm.trans hy) (Option.some_ne_none _).symm

theorem Agenda.Proper.noteAll (h : g.Proper) (a : Anteroom) (asks : List Anteroom.Ask) :
    (g.noteAll a asks).Proper := by
  induction asks generalizing g a with
  | nil => exact h
  | cons q rest ih => exact ih (h.note _ q) _

/-- All that there is to begin with. -/
def concerned (x : Indexer) (shelf : Shelf) : Finset Zid :=
  (x.anteroom.ordinaryWork.map Prod.snd).toFinset ∪ x.store.tables.indexed.toFinset ∪
    shelf.keys.toFinset

theorem card_concerned_le (x : Indexer) (shelf : Shelf) :
    (concerned x shelf).card ≤
      x.anteroom.ordinaryWork.length + x.store.tables.nodes.size + shelf.size := by
  -- Unions and lists without repetitions are at most as large as their parts together.
  have h1 := Finset.card_union_le ((x.anteroom.ordinaryWork.map Prod.snd).toFinset ∪
    x.store.tables.indexed.toFinset) shelf.keys.toFinset
  have h2 := Finset.card_union_le (x.anteroom.ordinaryWork.map Prod.snd).toFinset
    x.store.tables.indexed.toFinset
  have h3 := List.toFinset_card_le (x.anteroom.ordinaryWork.map Prod.snd)
  have h4 := List.toFinset_card_le x.store.tables.indexed
  have h5 := List.toFinset_card_le shelf.keys
  rw [List.length_map] at h3
  rw [Tables.indexed, Std.ExtTreeMap.length_keys] at h4
  rw [Std.ExtTreeMap.length_keys] at h5
  unfold concerned
  rw [Tables.indexed] at *
  omega

theorem within_concerned (hcarries : x.anteroom.Carries g) (hkeeps : x.store.Keeps m)
    (hplain : ∀ z, g.pending z ≠ some .reload) {first : List (Action × Zid)}
    (hfirst : ∀ entry ∈ first, entry.1 ≠ .reload) :
    Within (concerned x shelf) shelf ⟨first, g.pending⟩ m := by
  refine ⟨hfirst, ?_, hplain, ?_, ?_⟩
  · intro z hz
    rcases Option.ne_none_iff_exists'.mp hz with ⟨action, haction⟩
    have hmem := List.mem_map_of_mem (f := Prod.snd) ((hcarries.pending action z).mpr haction)
    exact Finset.mem_union_left _ (Finset.mem_union_left _ (List.mem_toFinset.mpr hmem))
  · intro z hz
    have hmem : z ∈ x.store.tables.indexed := by
      rw [Tables.indexed, System.mem_keys_iff]
      exact fun hnone => hz (hkeeps.eq_empty hnone)
    exact Finset.mem_union_left _ (Finset.mem_union_right _ (List.mem_toFinset.mpr hmem))
  · intro z hz
    have hmem := (System.mem_keys_iff shelf z).mpr hz
    exact Finset.mem_union_right _ (List.mem_toFinset.mpr hmem)

theorem card_doomed_le (hcarries : x.anteroom.Carries g) (U : Finset Zid)
    (first : List (Action × Zid)) :
    (doomed U ⟨first, g.pending⟩).card ≤ x.anteroom.ordinaryWork.length := by
  have hsubset : doomed U ⟨first, g.pending⟩ ⊆
      (x.anteroom.ordinaryWork.map Prod.snd).toFinset := by
    intro z hz
    rcases Finset.mem_filter.mp hz with ⟨-, hdelete⟩
    rw [List.mem_toFinset]
    exact List.mem_map_of_mem (f := Prod.snd) ((hcarries.pending .delete z).mpr hdelete)
  refine (Finset.card_le_card hsubset).trans ?_
  rw [← List.length_map (f := Prod.snd)]
  exact List.toFinset_card_le _

theorem length_scanned_le (zids : List Zid) (action : Action) :
    (scanned zids action).length ≤ zids.length := by
  have hnodup : ((scanned zids action).map Prod.snd).Nodup :=
    (Anteroom.ascending_scanned zids action).imp Zid.ne_of_lt
  have hsubset : (scanned zids action).map Prod.snd ⊆ zids := by
    intro z hz
    rcases List.mem_map.mp hz with ⟨⟨act, y⟩, hmem, rfl⟩
    exact (Anteroom.mem_scanned.mp hmem).2.2
  have hle := (List.subperm_of_subset hnodup hsubset).length_le
  rwa [List.length_map] at hle

theorem load_le {U : Finset Zid} {g : Agenda} {t : Nat}
    (hfirst : g.first.length + (doomed U g).card ≤ t) (hU : U.card ≤ t) :
    load U shelf g m ≤ t * (t + 1) + t := by
  have htroubled := card_troubled_le U shelf g m
  have hmul := Nat.mul_le_mul hfirst (Nat.add_le_add_right hU 1)
  unfold load
  omega

theorem Anteroom.Carries.size_eq {a : Anteroom} (h : a.Carries g) :
    a.size = g.first.length + a.ordinaryWork.length := by
  rw [a.size_eq, work_eq h.tidy, List.length_append, h.first]

/-- The bound is more than the square of all that there is. -/
theorem lt_bound (x : Indexer) (there : Nat) {t : Nat}
    (ht : t ≤ x.anteroom.size + x.store.tables.nodes.size + there) :
    t * (t + 1) + t < x.bound there := by
  let count := x.anteroom.size + x.store.tables.nodes.size + there + 2
  have hcount : t + 1 ≤ count := by
    show t + 1 ≤ x.anteroom.size + x.store.tables.nodes.size + there + 2
    omega
  have hsquare : (t + 1) * (t + 1) ≤ count * count := Nat.mul_le_mul hcount hcount
  have hexpand : (t + 1) * (t + 1) = t * (t + 1) + (t + 1) := Nat.succ_mul t (t + 1)
  have hbound : x.bound there = 2 * (count * count) := Nat.mul_assoc 2 count count
  omega

theorem drain_of_plain (hcarries : x.anteroom.Carries g) (hkeeps : x.store.Keeps m)
    (hshelf : shelf.Valid) (hplain : ∀ z, g.pending z ≠ some .reload)
    (hfirst : ∀ entry ∈ g.first, entry.1 ≠ .reload) (now : Nat) :
    (Indexer.drain Shelf.source now (x.bound shelf.size) x shelf).1.anteroom.isEmpty = true := by
  have hdraining : Draining (concerned x shelf) x shelf g m :=
    ⟨hcarries, hkeeps, within_concerned hcarries hkeeps hplain hfirst⟩
  have hsize := hcarries.size_eq
  have hdoomed : (doomed (concerned x shelf) g).card ≤ _ :=
    card_doomed_le hcarries (concerned x shelf) g.first
  have hcard := card_concerned_le x shelf
  have hload : load (concerned x shelf) shelf g m ≤ _ :=
    load_le (t := x.anteroom.size + x.store.tables.nodes.size + shelf.size) (by omega) (by omega)
  have hbound := lt_bound x shelf.size (Nat.le_refl _)
  exact hdraining.drain hshelf now (by omega)

theorem work_of_reload {anteroom : Anteroom}
    (hd : x.anteroom.dequeue = (some (.reload, Zid.invalid), anteroom)) (now : Nat) :
    x.work Shelf.source now shelf =
      some (Indexer.reload { x with anteroom } (.ok shelf.keys), shelf) := by
  unfold Indexer.work
  rw [hd]
  rfl

/-- A full scan asks for no more than there is in the index and in the box. -/
theorem length_reload_le (t : Tables) (shelf : Shelf) :
    (scanned (t.indexed.filter fun z => !shelf.keys.contains z) .delete ++
      scanned shelf.keys .update).length ≤ t.nodes.size + shelf.size := by
  have hgone := (length_scanned_le (t.indexed.filter fun z => !shelf.keys.contains z)
    .delete).trans (List.length_filter_le _ _)
  have hthere := length_scanned_le shelf.keys .update
  rw [Tables.indexed, Std.ExtTreeMap.length_keys] at hgone
  rw [Std.ExtTreeMap.length_keys] at hthere
  rw [List.length_append]
  exact Nat.add_le_add hgone hthere

/-- The full scan comes first, and after it no other one. -/
theorem drain_of_reload (hcarries : x.anteroom.Carries g) (hkeeps : x.store.Keeps m)
    (hshelf : shelf.Valid) (hplain : ∀ z, g.pending z ≠ some .reload)
    (hfirst : g.first = [(.reload, Zid.invalid)]) (now : Nat) :
    (Indexer.drain Shelf.source now (x.bound shelf.size) x shelf).1.anteroom.isEmpty = true := by
  rcases hcarries.dequeue with ⟨hnext, hleft⟩
  have hreload := hnext.eq_of_first hfirst
  rcases hd : x.anteroom.dequeue with ⟨next, anteroom⟩
  rw [hd] at hreload hleft
  change next = some (.reload, Zid.invalid) at hreload
  subst hreload
  change anteroom.Carries (g.deliver (some (.reload, Zid.invalid))) at hleft
  rw [Agenda.deliver_first hfirst] at hleft
  let gone := x.store.tables.indexed.filter fun z => !shelf.keys.contains z
  let first := scanned gone .delete ++ scanned shelf.keys .update
  let x' := Indexer.reload { x with anteroom } (.ok shelf.keys)
  have hdraining : Draining (concerned x shelf) x' shelf ⟨first, g.pending⟩ m :=
    ⟨hleft.reload gone shelf.keys, hkeeps,
      within_concerned hcarries hkeeps hplain (Agenda.plain_scanned gone shelf.keys)⟩
  -- One step is spent on the scan; the bound leaves enough for what it asks for.
  have hsize := hcarries.size_eq
  rw [hfirst, List.length_singleton] at hsize
  have hdoomed := card_doomed_le hcarries (concerned x shelf) first
  have hcard := card_concerned_le x shelf
  have hlength : first.length ≤ _ := length_reload_le x.store.tables shelf
  have hload : load (concerned x shelf) shelf ⟨first, g.pending⟩ m ≤ _ :=
    load_le (t := x.anteroom.ordinaryWork.length + x.store.tables.nodes.size + shelf.size)
      (by show first.length + _ ≤ _; omega) (by omega)
  have hbound := lt_bound x shelf.size
    (t := x.anteroom.ordinaryWork.length + x.store.tables.nodes.size + shelf.size) (by omega)
  obtain ⟨n, hn⟩ : ∃ n, x.bound shelf.size = n + 1 := ⟨x.bound shelf.size - 1, by omega⟩
  rw [hn, Indexer.drain, work_of_reload hd]
  exact hdraining.drain hshelf now (by omega)

/-! ## 3. What a full scan heals -/

theorem steps_of_drain (now n : Nat) (x : Indexer) (shelf : Shelf) :
    Relation.ReflTransGen System.Step ⟨shelf, x, none⟩
      ⟨(Indexer.drain Shelf.source now n x shelf).2,
        (Indexer.drain Shelf.source now n x shelf).1, none⟩ := by
  induction n generalizing x shelf with
  | zero => exact .refl
  | succ n ih =>
    unfold Indexer.drain
    cases hwork : x.work Shelf.source now shelf with
    | none => exact .refl
    | some next =>
      exact (System.steps_of_work (s := ⟨shelf, x, none⟩) rfl now hwork).trans (ih next.1 next.2)

theorem shelf_drain (now n : Nat) (x : Indexer) (shelf : Shelf) :
    (Indexer.drain Shelf.source now n x shelf).2 = shelf := by
  induction n generalizing x with
  | zero => rfl
  | succ n ih =>
    unfold Indexer.drain Indexer.work
    rcases x.anteroom.dequeue with ⟨_ | ⟨action, z⟩, anteroom⟩
    · rfl
    · -- None of the actions has anything to do with the box but reading it.
      cases action <;> exact ih _

theorem finish_inbox (now : Nat) (has : Zid → Bool) (x : Indexer) (inbox : List Change) (z : Zid)
    (result : Except StoreError Zettel) :
    Indexer.finish { x with inbox } now has z result = { x.finish now has z result with inbox } := by
  unfold Indexer.finish
  split
  · rfl
  · rfl
  · split
    · unfold Indexer.putOff
      dsimp only
      split
      · rfl
      · rfl
    · rfl

/-- The worker pays no regard to what has not been taken in yet. -/
theorem act_inbox {σ : Type} (source : Source σ) (now : Nat) (x : Indexer) (inbox : List Change)
    (s : σ) (next : Action × Zid) :
    act source now { x with inbox } s next =
      ({ (act source now x s next).1 with inbox }, (act source now x s next).2) := by
  rcases next with ⟨action, z⟩
  cases action with
  | reload =>
    unfold act
    rcases source.list s with ⟨_ | there, s'⟩
    · rfl
    · rfl
  | delete => rfl
  | update =>
    unfold act
    dsimp only
    rw [finish_inbox]

theorem drain_inbox {σ : Type} (source : Source σ) (now n : Nat) (x : Indexer)
    (inbox : List Change) (s : σ) :
    Indexer.drain source now n { x with inbox } s =
      ({ (Indexer.drain source now n x s).1 with inbox }, (Indexer.drain source now n x s).2) := by
  induction n generalizing x s with
  | zero => rfl
  | succ n ih =>
    unfold Indexer.drain Indexer.work
    dsimp only
    rcases x.anteroom.dequeue with ⟨_ | next, anteroom⟩
    · rfl
    · dsimp only
      rw [act_inbox source now { x with anteroom } inbox s next]
      exact ih _ _

theorem System.scan_of_steps {s t : System} (h : Relation.ReflTransGen Step s t) :
    t.indexer.scan = s.indexer.scan := by
  induction h with
  | refl => rfl
  | tail _ hstep ih => exact hstep.scan_eq.trans ih

/-- Once a full scan is asked for, each zettel is due, whatever the index has of it. -/
theorem System.invariant_reset (hkeeps : x.store.Keeps m) (hshelf : shelf.Valid)
    (hinvalid : ∀ z : Zid, z.isValid = false → m z = Content.empty) {a : Anteroom}
    (hreset : x.anteroom = a.reset) (hinbox : x.inbox = []) :
    Invariant ⟨shelf, x, none⟩ m := by
  have hword : ∀ z, System.word ⟨shelf, x, none⟩ z = some .reload := by
    intro z
    show (inboxWord x.inbox z).or (x.anteroom.word z) = _
    rw [hinbox, hreset, Anteroom.word_reset]
    rfl
  refine ⟨hkeeps, ?_, hshelf, ?_, ?_, ?_⟩
  · show x.anteroom.Tidy
    rw [hreset]
    exact Anteroom.tidy_reset a
  · intro z
    cases hz : z.isValid with
    | true =>
      refine Or.inl ⟨hz, Or.inl ?_⟩
      rw [hword]
      exact Option.some_ne_none _
    | false =>
      refine Or.inr ⟨fun _ => hinvalid z hz, ?_⟩
      intro zettel hzettel
      exact absurd ((hshelf.eq_none hz).symm.trans hzettel) (Option.some_ne_none zettel).symm
  · intro z _ hdelete
    rw [hword] at hdelete
    exact absurd (Option.some.inj hdelete) (by decide)
  · intro z result hheld
    exact absurd hheld.symm (Option.some_ne_none _)

/-- With nothing due, the index is the one of a new indexer. -/
theorem System.Invariant.tables_eq {s : System} (h : s.Invariant m) (hdone : ∀ z, ¬ s.Due z)
    {order : List Zettel} (horder : order.Perm (s.shelf.toList.map Prod.snd)) :
    s.indexer.store.tables = (Store.new.callAll (order.map fun zettel =>
      .update (Record.ofZettel s.indexer.scan s.shelf.contains zettel))).tables := by
  have hkeeps := Store.keeps_after ((s.records order).map .update)
  rw [h.ledger_eq hdone horder] at hkeeps
  have hcalls : (s.records order).map Call.update = order.map fun zettel =>
      .update (Record.ofZettel s.indexer.scan s.shelf.contains zettel) := by
    unfold records
    rw [List.map_map]
    rfl
  rw [← hcalls]
  exact h.keeps.ext hkeeps

/-! ## 4. Working until nothing is left -/

def Call.zid : Call → Zid
  | .update r => r.zid
  | .delete z => z

/-- Of a zettel that was never indexed nothing is known. -/
theorem Ledger.callAll_of_not_mem {calls : List Call} {z : Zid} (hm : m z = Content.empty)
    (hz : ∀ c ∈ calls, c.zid ≠ z) : m.callAll calls z = Content.empty := by
  unfold callAll
  induction calls generalizing m with
  | nil => exact hm
  | cons c rest ih =>
    refine ih ?_ fun c' hc' => hz c' (List.mem_cons_of_mem c hc')
    have hne := hz c List.mem_cons_self
    cases c with
    | update r => exact (Function.update_of_ne hne.symm _ _).trans hm
    | delete y =>
      show (if z = y then Content.empty else (m z).without y) = Content.empty
      rw [hm, Content.without_empty]
      split <;> rfl

theorem Store.keeps_of_tables_eq {s : Store} {calls : List Call}
    (h : s.tables = (Store.new.callAll calls).tables) : s.Keeps (Ledger.empty.callAll calls) := by
  have hafter := Store.keeps_after calls
  exact ⟨⟨h ▸ hafter.sound.linked, h ▸ hafter.sound.stored⟩, h ▸ hafter.shows⟩

namespace Indexer

/-- As long as the box stays the same the worker comes to an end, within the bound; and a full scan
makes the index the one of a new indexer, whatever it was. -/
theorem drain_heals (shelf : Shelf) (hshelf : shelf.Valid) (x : Indexer) (calls : List Call)
    (hcalls : ∀ c ∈ calls, c.zid.isValid = true)
    (hstore : x.store.tables = (Store.new.callAll calls).tables) (maxLoad : Nat)
    (asks : List Anteroom.Ask) (hasks : x.anteroom = (Anteroom.new maxLoad).askAll asks)
    (now : Nat) :
    let done := drain Shelf.source now (x.bound shelf.size) x shelf
    done.1.anteroom.isEmpty = true ∧ done.2 = shelf ∧
      ∀ a : Anteroom, x.anteroom = a.reset →
        ∀ order : List Zettel, order.Perm (shelf.toList.map Prod.snd) →
          done.1.store.tables.dump = (Store.new.callAll (order.map fun zettel =>
            .update (Record.ofZettel x.scan shelf.contains zettel))).tables.dump := by
  intro done
  have hkeeps := Store.keeps_of_tables_eq hstore
  have hcarries := (Anteroom.carries_new maxLoad).askAll asks
  rw [← hasks] at hcarries
  -- A full scan can be waiting in one place only, in front of all else.
  have hproper := Agenda.proper_nothing.noteAll (Anteroom.new maxLoad) asks
  have hempty : done.1.anteroom.isEmpty = true := by
    rcases hproper.first with hfirst | hfirst
    · exact drain_of_reload hcarries hkeeps hshelf hproper.plain hfirst now
    · exact drain_of_plain hcarries hkeeps hshelf hproper.plain hfirst now
  -- What has not been taken in yet is left out of the picture.
  have hsteps := steps_of_drain now (x.bound shelf.size) { x with inbox := [] } shelf
  rw [drain_inbox] at hsteps
  change Relation.ReflTransGen System.Step _ ⟨done.2, { done.1 with inbox := [] }, none⟩ at hsteps
  have hscan := System.scan_of_steps hsteps
  have hsame : done.2 = shelf := shelf_drain now (x.bound shelf.size) x shelf
  rw [hsame] at hsteps
  refine ⟨hempty, hsame, ?_⟩
  intro a hreset order horder
  have hinvalid : ∀ z : Zid, z.isValid = false →
      Ledger.empty.callAll calls z = Content.empty := by
    intro z hz
    apply Ledger.callAll_of_not_mem rfl
    rintro c hc rfl
    exact absurd ((hcalls c hc).symm.trans hz) (by decide)
  have hinvariant := System.invariant_reset (x := { x with inbox := [] }) hkeeps hshelf hinvalid
    hreset rfl
  rcases hinvariant.steps hsteps with ⟨m', hm'⟩
  -- The rooms are empty and the worker holds nothing, so the index is up to date.
  have hdone : ∀ z, ¬ System.Due ⟨shelf, { done.1 with inbox := [] }, none⟩ z := by
    rintro z ⟨-, hword | ⟨result, hheld⟩⟩
    · exact hword (Anteroom.word_of_isEmpty hempty z)
    · exact absurd hheld.symm (Option.some_ne_none _)
  have htables := hm'.tables_eq hdone horder
  rw [hscan] at htables
  exact congrArg Tables.dump htables

set_option maxRecDepth 20000 in
/-- The index has one zettel as it was before the other one came, lacks that one, and still has a
third one that is gone. -/
theorem drain_heals_stale_index :
    let shelf : Shelf := ((∅ : Shelf).insert ⟨1⟩ System.first).insert ⟨2⟩ System.second
    let stale : List Call :=
      [.update (Record.ofZettel System.wholeText (fun _ => false) System.first),
        .update ((Record.new ⟨4⟩).addForward ⟨1⟩)]
    let x : Indexer := { Indexer.new .default System.wholeText with
      store := Store.new.callAll stale
      anteroom := (Anteroom.new 100).reset }
    shelf.Valid ∧ (∀ c ∈ stale, c.zid.isValid = true) ∧
      (drain Shelf.source 0 (x.bound shelf.size) x shelf).1.anteroom.isEmpty = true ∧
      (drain Shelf.source 0 (x.bound shelf.size) x shelf).1.store.tables.dump =
        (Store.new.callAll ((shelf.toList.map Prod.snd).map fun zettel =>
          .update (Record.ofZettel x.scan shelf.contains zettel))).tables.dump ∧
      (drain Shelf.source 0 (x.bound shelf.size) x shelf).1.store.tables.dump =
        System.liveEnds := by
  intro shelf stale x
  have hone : System.first.zid.isValid = true := by decide
  have htwo : System.second.zid.isValid = true := by decide
  have hshelf : shelf.Valid := (Shelf.valid_empty.insert hone).insert htwo
  have hcalls : ∀ c ∈ stale, c.zid.isValid = true := by
    refine List.forall_mem_cons.mpr ⟨?_, List.forall_mem_singleton.mpr (by decide)⟩
    show (Record.ofZettel System.wholeText (fun _ => false) System.first).zid.isValid = true
    rw [Record.zid_ofZettel]
    decide
  have hfresh : (Store.new.callAll ((shelf.toList.map Prod.snd).map fun zettel =>
      .update (Record.ofZettel x.scan shelf.contains zettel))).tables.dump = System.liveEnds := by
    cbv
  have hheals := drain_heals shelf hshelf x stale hcalls rfl 100 [.reset] rfl 0
  have hdump := hheals.2.2 (Anteroom.new 100) rfl _ (.refl _)
  exact ⟨hshelf, hcalls, hheals.1, hdump, hdump.trans hfresh⟩

end Indexer

end Kasten.Index
