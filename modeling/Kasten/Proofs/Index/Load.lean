import Mathlib.Data.Finset.Card
import Kasten.Proofs.Index.Delivery
import Kasten.Proofs.Index.Interleaving

/-!
# How much there is to do

Doing one action may ask for many others, so the queue of the indexer may well grow. But a zettel is
asked for only while one of its references stands under the wrong head, and looking at the zettel
puts all its references right. So the number of zettel that are asked for or have a wrong reference
falls with each update. A deletion may leave wrong references behind, but the worker never asks for
a deletion.
-/

namespace Kasten.Index

/-! ## 1. Wrong references -/

/-- A reference is kept as dead though the box has what it leads to, or the other way round. -/
def Ledger.Wrong (m : Ledger) (shelf : Shelf) (y : Zid) : Prop :=
  ∃ t, t ∈ (m y).dead ∧ shelf[t]? ≠ none ∨ (m y).RefersTo t ∧ shelf[t]? = none

/-- What becomes of a zettel that is looked at. -/
def Shelf.call (shelf : Shelf) (scan : Scanner) (z : Zid) : Call :=
  match shelf[z]? with
  | some zettel => .update (Record.ofZettel scan shelf.contains zettel)
  | none => .delete z

theorem Shelf.call_eq (shelf : Shelf) (scan : Scanner) (z : Zid) :
    shelf[z]? = none ∧ shelf.call scan z = .delete z ∨
      ∃ zettel, shelf[z]? = some zettel ∧
        shelf.call scan z = .update (Record.ofZettel scan shelf.contains zettel) := by
  unfold Shelf.call
  cases shelf[z]? with
  | none => exact Or.inl ⟨rfl, rfl⟩
  | some zettel => exact Or.inr ⟨zettel, rfl, rfl⟩

theorem Shelf.Valid.zid_ofZettel {shelf : Shelf} (h : shelf.Valid) (scan : Scanner) {z : Zid}
    {zettel : Zettel} (hz : shelf[z]? = some zettel) :
    (Record.ofZettel scan shelf.contains zettel).zid = z :=
  (Record.zid_ofZettel scan _ zettel).trans (h z zettel hz).2

/-- A new record has all its references under the right heads. -/
theorem Record.not_wrong (shelf : Shelf) (scan : Scanner) (zettel : Zettel) (t : Zid) :
    ¬ (t ∈ (ofZettel scan shelf.contains zettel).content.dead ∧ shelf[t]? ≠ none ∨
      (ofZettel scan shelf.contains zettel).content.RefersTo t ∧ shelf[t]? = none) := by
  have hcontains : shelf.contains t = (shelf[t]?).isSome :=
    Std.ExtTreeMap.contains_eq_isSome_getElem?
  -- Where a reference is put was decided by the same question to the box.
  have hslot : ∀ k, t ∈ (ofZettel scan shelf.contains zettel).slot k →
      (k = .dead ↔ shelf[t]? = none) := by
    intro k hk
    rw [mem_slot_ofZettel] at hk
    rcases hk with ⟨inverse, -, rfl⟩
    unfold Slot.of
    rw [hcontains]
    cases shelf[t]? with
    | none => simp
    | some other => cases inverse <;> simp
  rintro (⟨hdead, hthere⟩ | ⟨hforward | ⟨key, htyped⟩, hgone⟩)
  · exact hthere ((hslot .dead hdead).mp rfl)
  · exact absurd ((hslot .forward hforward).mpr hgone) (by decide)
  · exact absurd ((hslot (.typed key) htyped).mpr hgone) (by simp)

section Wrong

variable {m : Ledger} {shelf : Shelf} {scan : Scanner} {y z : Zid}

theorem Ledger.wrong_delete (h : (m.call (.delete z)).Wrong shelf y) :
    y ≠ z ∧ m.Wrong shelf y := by
  rcases h with ⟨t, ht⟩
  change t ∈ (if y = z then Content.empty else (m y).without z).dead ∧ _ ∨
    (if y = z then Content.empty else (m y).without z).RefersTo t ∧ _ at ht
  split at ht
  · rcases ht with ⟨hdead, -⟩ | ⟨hforward | ⟨key, htyped⟩, -⟩
    · exact absurd hdead Std.ExtTreeSet.not_mem_empty
    · exact absurd hforward Std.ExtTreeSet.not_mem_empty
    · exact absurd htyped Std.ExtTreeSet.not_mem_empty
  next hyz =>
    refine ⟨hyz, t, ?_⟩
    rcases ht with hdead | ⟨hforward | ⟨key, htyped⟩, hgone⟩
    · exact Or.inl hdead
    · exact Or.inr ⟨Or.inl (Std.ExtTreeSet.mem_of_mem_erase hforward), hgone⟩
    · exact Or.inr ⟨Or.inr ⟨key, Std.ExtTreeSet.mem_of_mem_erase htyped⟩, hgone⟩

/-- Looking at a zettel puts its references right and spoils no others. -/
theorem Ledger.wrong_call (hshelf : shelf.Valid) (h : (m.call (shelf.call scan z)).Wrong shelf y) :
    y ≠ z ∧ m.Wrong shelf y := by
  rcases shelf.call_eq scan z with ⟨-, hcall⟩ | ⟨zettel, hzettel, hcall⟩
  · rw [hcall] at h
    exact wrong_delete h
  · have hzid := hshelf.zid_ofZettel scan hzettel
    rw [hcall] at h
    rcases h with ⟨t, ht⟩
    by_cases hyz : y = z
    · have hown : m.call (.update (Record.ofZettel scan shelf.contains zettel)) y =
          (Record.ofZettel scan shelf.contains zettel).content := by
        rw [hyz, ← hzid]
        exact Function.update_self _ _ m
      rw [hown] at ht
      exact absurd ht (Record.not_wrong shelf scan zettel t)
    · have hother : m.call (.update (Record.ofZettel scan shelf.contains zettel)) y = m y :=
        Function.update_of_ne (hzid ▸ hyz) _ _
      rw [hother] at ht
      exact ⟨hyz, t, ht⟩

/-- Only zettel with a wrong reference are asked for. -/
theorem Ledger.wrong_of_answers (hshelf : shelf.Valid) (h : m.Answers (shelf.call scan z) y) :
    y ≠ z ∧ m.Wrong shelf y := by
  rcases shelf.call_eq scan z with ⟨hgone, hcall⟩ | ⟨zettel, hzettel, hcall⟩
  · rw [hcall] at h
    exact ⟨h.1, z, Or.inr ⟨h.2, hgone⟩⟩
  · have hzid := hshelf.zid_ofZettel scan hzettel
    rw [hcall] at h
    change y ≠ Record.zid _ ∧ Record.zid _ ∈ _ at h
    rw [hzid] at h
    refine ⟨h.1, z, Or.inl ⟨h.2, ?_⟩⟩
    rw [hzettel]
    exact Option.some_ne_none zettel

end Wrong

/-! ## 2. Asking for more -/

namespace Agenda

def enqueueAll (g : Agenda) (zids : List Zid) : Agenda :=
  zids.foldl (fun g z => g.enqueue z .update) g

theorem first_enqueueAll (g : Agenda) (zids : List Zid) :
    (g.enqueueAll zids).first = g.first := by
  unfold enqueueAll
  induction zids generalizing g with
  | nil => rfl
  | cons z rest ih => exact (ih (g.enqueue z .update)).trans (g.first_enqueue z .update)

/-- Nothing is asked for but updates, and only of the zettel given. -/
theorem pending_enqueueAll (g : Agenda) (zids : List Zid) (y : Zid) :
    (g.enqueueAll zids).pending y = g.pending y ∨
      y ∈ zids ∧ (g.enqueueAll zids).pending y = some .update := by
  unfold enqueueAll
  -- By induction over the zettel; a later one may ask for the same again.
  induction zids generalizing g with
  | nil => exact Or.inl rfl
  | cons z rest ih =>
    rcases ih (g.enqueue z .update) with hrest | ⟨hy, hrest⟩
    · rw [List.foldl_cons, hrest]
      unfold enqueue
      split
      next =>
        show Function.update g.pending z (some .update) y = _ ∨ _ ∧ _
        by_cases hyz : y = z
        · refine Or.inr ⟨hyz ▸ List.mem_cons_self, ?_⟩
          rw [hyz]
          exact Function.update_self z _ g.pending
        · exact Or.inl (Function.update_of_ne hyz _ _)
      next => exact Or.inl rfl
    · exact Or.inr ⟨List.mem_cons_of_mem z hy, hrest⟩

end Agenda

theorem Anteroom.Carries.enqueueAll {a : Anteroom} {g : Agenda} (h : a.Carries g)
    (zids : List Zid) :
    (zids.foldl (fun a z => a.enqueue z .update) a).Carries (g.enqueueAll zids) := by
  unfold Agenda.enqueueAll
  induction zids generalizing a g with
  | nil => exact h
  | cons z rest ih => exact ih (h.enqueue z .update)

/-! ## 3. How much is left to do -/

/-- All that waits, is known or is in the box stays within a finite set, and no full scan is asked
for. -/
structure Within (U : Finset Zid) (shelf : Shelf) (g : Agenda) (m : Ledger) : Prop where
  first : ∀ entry ∈ g.first, entry.1 ≠ .reload
  pending (z : Zid) : g.pending z ≠ none → z ∈ U
  plain (z : Zid) : g.pending z ≠ some .reload
  known (z : Zid) : m z ≠ Content.empty → z ∈ U
  there (z : Zid) : shelf[z]? ≠ none → z ∈ U

open Classical in
/-- The zettel that wait or have a wrong reference. -/
noncomputable def troubled (U : Finset Zid) (shelf : Shelf) (g : Agenda) (m : Ledger) :
    Finset Zid :=
  U.filter fun z => g.pending z ≠ none ∨ m.Wrong shelf z

/-- The zettel that wait to be forgotten. -/
def doomed (U : Finset Zid) (g : Agenda) : Finset Zid :=
  U.filter fun z => g.pending z = some .delete

/-- What a full scan has left to do and what waits to be forgotten weigh as much as all else. -/
noncomputable def load (U : Finset Zid) (shelf : Shelf) (g : Agenda) (m : Ledger) : Nat :=
  (g.first.length + (doomed U g).card) * (U.card + 1) + (troubled U shelf g m).card

theorem card_troubled_le (U : Finset Zid) (shelf : Shelf) (g : Agenda) (m : Ledger) :
    (troubled U shelf g m).card ≤ U.card := by
  classical
  exact Finset.card_filter_le _ _

theorem load_lt_of_weight {U : Finset Zid} {shelf : Shelf} {g g' : Agenda} {m m' : Ledger}
    (h : g'.first.length + (doomed U g').card < g.first.length + (doomed U g).card) :
    load U shelf g' m' < load U shelf g m := by
  -- One less of the weighty things makes up for all zettel that there are.
  have htroubled := card_troubled_le U shelf g' m'
  have hmul := Nat.mul_le_mul_right (U.card + 1) (Nat.succ_le_of_lt h)
  rw [Nat.succ_mul] at hmul
  unfold load
  omega

theorem load_lt_of_troubled {U : Finset Zid} {shelf : Shelf} {g g' : Agenda} {m m' : Ledger}
    (h : g'.first.length + (doomed U g').card ≤ g.first.length + (doomed U g).card)
    (htroubled : (troubled U shelf g' m').card < (troubled U shelf g m).card) :
    load U shelf g' m' < load U shelf g m := by
  have hmul := Nat.mul_le_mul_right (U.card + 1) h
  unfold load
  omega

/-! ## 4. One step of the worker -/

open Indexer

variable {U : Finset Zid} {x : Indexer} {shelf : Shelf} {g : Agenda} {m : Ledger}

structure Draining (U : Finset Zid) (x : Indexer) (shelf : Shelf) (g : Agenda) (m : Ledger) :
    Prop where
  carries : x.anteroom.Carries g
  keeps : x.store.Keeps m
  within : Within U shelf g m

/-- What the worker does with a zettel, be it to look at it or to forget it. -/
inductive Takes (shelf : Shelf) (scan : Scanner) (z : Zid) : Action → Call → Prop where
  | update : Takes shelf scan z .update (shelf.call scan z)
  | delete : Takes shelf scan z .delete (.delete z)

theorem act_eq (now : Nat) (x : Indexer) (shelf : Shelf) {action : Action} (z : Zid)
    (ha : action ≠ .reload) : ∃ c, Takes shelf x.scan z action c ∧
      act Shelf.source now x shelf (action, z) = (System.settle x z c, shelf) := by
  cases action with
  | reload => exact absurd rfl ha
  | delete => exact ⟨_, .delete, rfl⟩
  | update =>
    refine ⟨_, .update, ?_⟩
    show (x.finish now shelf.contains z (shelf.read z), shelf) = _
    rcases shelf.call_eq x.scan z with ⟨hnone, hcall⟩ | ⟨zettel, hzettel, hcall⟩
    · rw [hcall, Shelf.read, hnone]
      rfl
    · rw [hcall, Shelf.read, hzettel]
      rfl

theorem Takes.known {scan : Scanner} {z : Zid} {action : Action} {c : Call}
    (h : Takes shelf scan z action c) (hshelf : shelf.Valid) (hw : Within U shelf g m) {y : Zid}
    (hy : m.call c y ≠ Content.empty) : y ∈ U := by
  have hdelete : ∀ {y}, m.call (.delete z) y ≠ Content.empty → y ∈ U := by
    intro y hy
    apply hw.known
    intro hempty
    apply hy
    show (if y = z then Content.empty else (m y).without z) = Content.empty
    rw [hempty]
    split
    · rfl
    · exact Content.without_empty z
  cases h with
  | delete => exact hdelete hy
  | update =>
    rcases shelf.call_eq scan z with ⟨-, hcall⟩ | ⟨zettel, hzettel, hcall⟩
    · rw [hcall] at hy
      exact hdelete hy
    · have hzid := hshelf.zid_ofZettel scan hzettel
      by_cases hyz : y = z
      · apply hw.there
        rw [hyz, hzettel]
        exact Option.some_ne_none zettel
      · have hother : m.call (.update (Record.ofZettel scan shelf.contains zettel)) y = m y :=
          Function.update_of_ne (hzid ▸ hyz) _ _
        rw [hcall, hother] at hy
        exact hw.known y hy

theorem Within.deliver (h : Within U shelf g m) (next : Option (Action × Zid)) :
    Within U shelf (g.deliver next) m := by
  refine ⟨?_, ?_, ?_, h.known, h.there⟩
  · intro entry hentry
    rw [g.first_deliver next] at hentry
    exact h.first entry (List.mem_of_mem_tail hentry)
  · intro z hz
    rcases g.pending_deliver next z with hsame | hnone
    · exact h.pending z (hsame ▸ hz)
    · exact absurd hnone hz
  · intro z hz
    rcases g.pending_deliver next z with hsame | hnone
    · exact h.plain z (hsame ▸ hz)
    · exact absurd (hnone.symm.trans hz) (Option.some_ne_none _).symm

theorem Draining.dequeue (h : Draining U x shelf g m) :
    g.Next x.anteroom.dequeue.1 ∧
      Draining U { x with anteroom := x.anteroom.dequeue.2 } shelf
        (g.deliver x.anteroom.dequeue.1) m :=
  ⟨h.carries.dequeue.1, h.carries.dequeue.2, h.keeps, h.within.deliver _⟩

/-- What the agenda is once a zettel was taken. -/
def agendaAfter (x : Indexer) (g : Agenda) (c : Call) : Agenda :=
  g.enqueueAll (x.store.call c).1.toList

theorem pending_after (h : x.store.Keeps m) (g : Agenda) (c : Call) (y : Zid) :
    (agendaAfter x g c).pending y = g.pending y ∨
      m.Answers c y ∧ (agendaAfter x g c).pending y = some .update := by
  rcases g.pending_enqueueAll (x.store.call c).1.toList y with hsame | ⟨hmem, hupdate⟩
  · exact Or.inl hsame
  · rw [Std.ExtTreeSet.mem_toList, h.answer] at hmem
    exact Or.inr ⟨hmem, hupdate⟩

section Settle

variable {scan : Scanner} {z : Zid} {action : Action} {c : Call}

theorem Draining.settle (h : Draining U x shelf g m) (hshelf : shelf.Valid)
    (ht : Takes shelf scan z action c) :
    Draining U (System.settle x z c) shelf (agendaAfter x g c) (m.call c) := by
  refine ⟨h.carries.enqueueAll _, h.keeps.call c, ?_, ?_, ?_, ?_, h.within.there⟩
  · intro entry hentry
    rw [agendaAfter, g.first_enqueueAll] at hentry
    exact h.within.first entry hentry
  · intro y hy
    rcases pending_after h.keeps g c y with hsame | ⟨hanswer, -⟩
    · exact h.within.pending y (hsame ▸ hy)
    · -- Who refers to anything is known.
      apply h.within.known
      exact fun hempty => Ledger.not_answers_of_empty hempty c hanswer
  · intro y hy
    rcases pending_after h.keeps g c y with hsame | ⟨-, hupdate⟩
    · exact h.within.plain y (hsame ▸ hy)
    · exact absurd (Option.some.inj (hupdate.symm.trans hy)) (by decide)
  · exact fun y hy => ht.known hshelf h.within hy

/-- No deletion is asked for. -/
theorem doomed_after (h : x.store.Keeps m) (g : Agenda) (c : Call) :
    doomed U (agendaAfter x g c) ⊆ doomed U g := by
  intro y hy
  rcases Finset.mem_filter.mp hy with ⟨hU, hdelete⟩
  apply Finset.mem_filter.mpr
  rcases pending_after h g c y with hsame | ⟨-, hupdate⟩
  · exact ⟨hU, hsame.symm.trans hdelete⟩
  · exact absurd (Option.some.inj (hupdate.symm.trans hdelete)) (by decide)

end Settle

theorem doomed_deliver (U : Finset Zid) (g : Agenda) (next : Option (Action × Zid)) :
    doomed U (g.deliver next) ⊆ doomed U g := by
  intro y hy
  rcases Finset.mem_filter.mp hy with ⟨hU, hdelete⟩
  apply Finset.mem_filter.mpr
  rcases g.pending_deliver next y with hsame | hnone
  · exact ⟨hU, hsame.symm.trans hdelete⟩
  · exact absurd (hnone.symm.trans hdelete) (Option.some_ne_none _).symm

/-- A zettel that waited to be forgotten and has been taken does not wait any more. -/
theorem doomed_lt_of_delete (h : x.store.Keeps m) {z : Zid} (hU : z ∈ U) (hfirst : g.first = [])
    (hz : g.pending z = some .delete) (c : Call) :
    (doomed U (agendaAfter x (g.deliver (some (.delete, z))) c)).card < (doomed U g).card := by
  apply Finset.card_lt_card
  rw [Finset.ssubset_iff_of_subset ((doomed_after h _ c).trans (doomed_deliver U g _))]
  refine ⟨z, Finset.mem_filter.mpr ⟨hU, hz⟩, ?_⟩
  intro hmem
  have hleft := doomed_after h _ c hmem
  rw [Agenda.deliver_pending hfirst, doomed, Finset.mem_filter] at hleft
  change _ ∧ Function.update g.pending z none z = some .delete at hleft
  rw [Function.update_self] at hleft
  exact absurd hleft.2.symm (Option.some_ne_none _)

/-- A zettel that has been looked at does not wait, nor has it wrong references; and those that are
asked for had some before. -/
theorem troubled_lt_of_update (h : x.store.Keeps m) (hshelf : shelf.Valid) {z : Zid} (hU : z ∈ U)
    (hfirst : g.first = []) (hz : g.pending z = some .update) (scan : Scanner) :
    (troubled U shelf (agendaAfter x (g.deliver (some (.update, z))) (shelf.call scan z))
      (m.call (shelf.call scan z))).card < (troubled U shelf g m).card := by
  classical
  apply Finset.card_lt_card
  -- Nothing joins the troubled ones, and the zettel itself is one of them no more.
  have hne : ∀ y, y ∈ troubled U shelf (agendaAfter x (g.deliver (some (.update, z)))
      (shelf.call scan z)) (m.call (shelf.call scan z)) →
      y ≠ z ∧ y ∈ troubled U shelf g m := by
    intro y hy
    rcases Finset.mem_filter.mp hy with ⟨hyU, hy⟩
    have hwrong : y ≠ z ∧ m.Wrong shelf y → y ≠ z ∧ y ∈ troubled U shelf g m :=
      fun hw => ⟨hw.1, Finset.mem_filter.mpr ⟨hyU, Or.inr hw.2⟩⟩
    rcases hy with hpending | hy
    · rcases pending_after h (g.deliver (some (.update, z))) (shelf.call scan z) y with
        hsame | ⟨hanswer, -⟩
      · rw [hsame, Agenda.deliver_pending hfirst] at hpending
        change Function.update g.pending z none y ≠ none at hpending
        rw [Function.update_apply] at hpending
        split at hpending
        · exact absurd rfl hpending
        next hyz => exact ⟨hyz, Finset.mem_filter.mpr ⟨hyU, Or.inl hpending⟩⟩
      · exact hwrong (Ledger.wrong_of_answers hshelf hanswer)
    · exact hwrong (Ledger.wrong_call hshelf hy)
  rw [Finset.ssubset_iff_of_subset fun y hy => (hne y hy).2]
  refine ⟨z, ?_, fun hmem => (hne z hmem).1 rfl⟩
  apply Finset.mem_filter.mpr
  refine ⟨hU, Or.inl ?_⟩
  rw [hz]
  exact Option.some_ne_none _

/-- The worker has less to do after each step. -/
theorem Draining.work (h : Draining U x shelf g m) (hshelf : shelf.Valid) (now : Nat)
    {x' : Indexer} {shelf' : Shelf}
    (hwork : x.work Shelf.source now shelf = some (x', shelf')) :
    shelf' = shelf ∧ ∃ g' m', Draining U x' shelf g' m' ∧
      load U shelf g' m' < load U shelf g m := by
  have hdequeue := h.dequeue
  unfold Indexer.work at hwork
  rcases hd : x.anteroom.dequeue with ⟨_ | ⟨action, z⟩, anteroom⟩
  · rw [hd] at hwork
    exact absurd hwork.symm (Option.some_ne_none _)
  · rw [hd] at hwork hdequeue
    change g.Next (some (action, z)) ∧
      Draining U { x with anteroom } shelf (g.deliver (some (action, z))) m at hdequeue
    rcases hdequeue with ⟨hnext, hleft⟩
    -- No full scan is asked for, so a zettel is looked at or forgotten.
    have ha : action ≠ .reload := by
      cases hnext with
      | first hfirst => exact h.within.first _ (by rw [hfirst]; exact List.mem_cons_self)
      | pending _ hz =>
        rintro rfl
        exact h.within.plain z hz
    rcases act_eq now { x with anteroom } shelf z ha with ⟨c, htakes, hact⟩
    rcases Prod.mk.inj (hact.symm.trans (Option.some.inj hwork)) with ⟨rfl, rfl⟩
    refine ⟨rfl, _, _, hleft.settle hshelf htakes, ?_⟩
    have hlength : (agendaAfter { x with anteroom } (g.deliver (some (action, z))) c).first.length =
        g.first.length - 1 := by
      rw [agendaAfter, Agenda.first_enqueueAll, Agenda.first_deliver, List.length_tail]
    -- In each case something falls, and what weighs more does not rise.
    have hdoomed := Finset.card_le_card ((doomed_after hleft.keeps
      (g.deliver (some (action, z))) c).trans (doomed_deliver U g _))
    cases hnext with
    | first hfirst =>
      apply load_lt_of_weight
      rw [hlength, hfirst, List.length_cons]
      omega
    | pending hfirst hz =>
      have hU : z ∈ U := h.within.pending z (by rw [hz]; exact Option.some_ne_none action)
      cases htakes with
      | delete =>
        have hless := doomed_lt_of_delete hleft.keeps hU hfirst hz (.delete z)
        apply load_lt_of_weight
        omega
      | update =>
        refine load_lt_of_troubled ?_ (troubled_lt_of_update hleft.keeps hshelf hU hfirst hz x.scan)
        omega

end Kasten.Index
