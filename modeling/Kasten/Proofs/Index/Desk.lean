import Mathlib.Data.List.Perm.Subperm
import Kasten.Index.Indexer

/-!
# An indexer at work

The feeder, the worker and the timers of an indexer take their steps in any order, and so does
whoever starts it or asks for a full scan. The box answers as it likes, and not before the others
have gone on. What the indexer does in one go is one such sequence of steps.
-/

namespace Kasten.Index

/-! ## 1. Steps -/

/-- An indexer, and the zettel that its worker waits for while the box reads it. -/
structure Desk where
  indexer : Indexer
  reading : Option Zid

/-- What may happen next. The worker takes an action, gets an answer of the box, or was idle for
long and never made a full scan before; a timer puts off an action no longer. -/
inductive Deed where
  | start
  | receive (changes : List Change)
  | refresh
  | accept
  | work (listing : Except StoreError (List Zid))
  | answer (now : Nat) (has : Zid → Bool) (result : Except StoreError Zettel)
  | idle (listing : Except StoreError (List Zid))
  | fire (r : Retry)
  | wake
  | sleep (now : Nat)

/-- An action is put off no longer. -/
def Indexer.fire (x : Indexer) (r : Retry) : Indexer :=
  { x with
    retries := x.retries.erase r
    anteroom := x.anteroom.enqueue r.zid r.action
    isAwake := true }

namespace Desk

/-- Does the action that left the anteroom, but for the reading of a zettel. -/
def take (x : Indexer) (listing : Except StoreError (List Zid)) : Action × Zid → Desk
  | (.reload, _) => ⟨x.reload listing, none⟩
  | (.update, z) => ⟨x, some z⟩
  | (.delete, z) => ⟨x.forget z, none⟩

/-- Takes a step. One for which there is no occasion changes nothing. -/
def step (s : Desk) : Deed → Desk
  | .start => { s with indexer := s.indexer.start.toOption.getD s.indexer }
  | .receive changes => { s with indexer := s.indexer.receive changes }
  | .refresh => { s with indexer := s.indexer.refresh }
  | .accept =>
    match s.indexer.inbox with
    | [] => s
    | c :: rest => { s with indexer := Indexer.accept { s.indexer with inbox := rest } c }
  | .work listing =>
    match s.reading, s.indexer.anteroom.dequeue with
    | none, (some next, anteroom) => take { s.indexer with anteroom } listing next
    | _, _ => s
  | .answer now has result =>
    match s.reading with
    | some z => ⟨s.indexer.finish now has z result, none⟩
    | none => s
  | .idle listing =>
    if s.reading = none ∧ s.indexer.wasReloaded = false then
      { s with indexer := s.indexer.reload listing }
    else s
  | .fire r => if r ∈ s.indexer.retries then { s with indexer := s.indexer.fire r } else s
  | .wake => { s with indexer := { s.indexer with isAwake := true } }
  | .sleep now => { s with indexer := s.indexer.sleep now }

def stepAll (s : Desk) (deeds : List Deed) : Desk := deeds.foldl step s

/-! ## 2. Runs of the indexer -/

/-- Steps lead from one indexer to the other, with no reading left open. -/
def Leads (x y : Indexer) : Prop := ∃ deeds, stepAll ⟨x, none⟩ deeds = ⟨y, none⟩

variable {x y w : Indexer} {σ : Type}

theorem Leads.refl (x : Indexer) : Leads x x := ⟨[], rfl⟩

theorem Leads.trans (h : Leads x y) (h' : Leads y w) : Leads x w := by
  rcases h with ⟨deeds, hdeeds⟩
  rcases h' with ⟨deeds', hdeeds'⟩
  refine ⟨deeds ++ deeds', ?_⟩
  unfold stepAll at hdeeds hdeeds' ⊢
  rw [List.foldl_append, hdeeds, hdeeds']

theorem leads_acceptAll (x : Indexer) : Leads x x.acceptAll := by
  -- By induction over the inbox, which each change leaves in turn.
  suffices h : ∀ (inbox : List Change) (x : Indexer),
      Leads { x with inbox } (inbox.foldl Indexer.accept { x with inbox := [] }) from h x.inbox x
  intro inbox
  induction inbox with
  | nil => exact fun x => .refl _
  | cons c rest ih =>
    intro x
    have hfirst : Leads { x with inbox := c :: rest }
        { (x.accept c) with inbox := rest } := ⟨[.accept], rfl⟩
    exact hfirst.trans (ih (x.accept c))

theorem leads_work {source : Source σ} {now : Nat} {s s' : σ}
    (h : x.work source now s = some (y, s')) : Leads x y := by
  unfold Indexer.work at h
  rcases hd : x.anteroom.dequeue with ⟨_ | ⟨action, z⟩, anteroom⟩
  · rw [hd] at h
    cases h
  rw [hd] at h
  have hact := congrArg Prod.fst (Option.some.inj h)
  subst hact
  have htake : ∀ listing, step ⟨x, none⟩ (.work listing) =
      take { x with anteroom } listing (action, z) := by
    intro listing
    unfold step
    dsimp only
    rw [hd]
  cases action with
  | reload => exact ⟨[.work (source.list s).1], htake _⟩
  | delete => exact ⟨[.work (.ok [])], htake _⟩
  | update =>
    refine ⟨[.work (.ok []), .answer now (source.has · (source.get z s).2) (source.get z s).1], ?_⟩
    unfold stepAll
    rw [List.foldl_cons, htake]
    rfl

theorem leads_drain (source : Source σ) (now n : Nat) (x : Indexer) (s : σ) :
    Leads x (x.drain source now n s).1 := by
  induction n generalizing x s with
  | zero => exact .refl x
  | succ n ih =>
    unfold Indexer.drain
    cases hwork : x.work source now s with
    | none => exact .refl x
    | some next => exact (leads_work hwork).trans (ih next.1 next.2)

/-- Timers that fire one after another. -/
theorem stepAll_fire {rs : List Retry} (hne : rs ≠ []) (h : rs.Subperm x.retries) :
    stepAll ⟨x, none⟩ (rs.map .fire) = ⟨{ x with
      retries := x.retries.diff rs
      anteroom := rs.foldl (fun a r => a.enqueue r.zid r.action) x.anteroom
      isAwake := true }, none⟩ := by
  induction rs generalizing x with
  | nil => exact absurd rfl hne
  | cons r rest ih =>
    have hr : r ∈ x.retries := h.subset List.mem_cons_self
    have hfire : step ⟨x, none⟩ (.fire r) = ⟨x.fire r, none⟩ := if_pos hr
    have hrest : rest.Subperm (x.fire r).retries := by
      have herase := h.erase r
      rwa [List.erase_cons_head] at herase
    show stepAll (step ⟨x, none⟩ (.fire r)) (rest.map .fire) = _
    rw [hfire]
    by_cases hlast : rest = []
    · rw [hlast, List.diff_cons, List.diff_nil]
      rfl
    · rw [ih hlast hrest, List.diff_cons]
      rfl

theorem diff_filter (p : Retry → Bool) (rs : List Retry) :
    rs.diff (rs.filter p) = rs.filter fun r => !p r := by
  induction rs with
  | nil => rfl
  | cons r rest ih =>
    cases hp : p r with
    | true =>
      rw [List.filter_cons_of_pos hp, List.filter_cons_of_neg (by simp [hp]), List.diff_cons,
        List.erase_cons_head, ih]
    | false =>
      have hnot : r ∉ rest.filter p := by
        intro hmem
        rw [(List.mem_filter.mp hmem).2] at hp
        cases hp
      rw [List.filter_cons_of_neg (by simp [hp]), List.filter_cons_of_pos (by simp [hp]),
        List.cons_diff_of_not_mem hnot, ih]

theorem leads_wakeRetries (x : Indexer) (now : Nat) : Leads x (x.wakeRetries now) := by
  unfold Indexer.wakeRetries
  rw [List.partition_eq_filter_filter]
  dsimp only
  split
  next => exact .refl x
  next hdue =>
    have hperm := List.mergeSort_perm (x.retries.filter fun r => decide (r.due ≤ now))
      fun r t => decide (r.due ≤ t.due)
    have hne : (x.retries.filter fun r => decide (r.due ≤ now)).mergeSort
        (fun r t => decide (r.due ≤ t.due)) ≠ [] := by
      intro hnil
      rw [hnil] at hperm
      exact hdue (List.isEmpty_iff.mpr hperm.symm.eq_nil)
    have hsub : List.Subperm _ x.retries := hperm.subperm.trans List.filter_sublist.subperm
    refine ⟨_, (stepAll_fire hne hsub).trans ?_⟩
    rw [hperm.diff_left, diff_filter]
    rfl

theorem leads_round (source : Source σ) (now there : Nat) (x : Indexer) (s : σ) :
    Leads x (x.round source now there s).1 :=
  ((leads_acceptAll x).trans (leads_wakeRetries _ now)).trans (leads_drain source now _ _ s)

theorem leads_rounds (source : Source σ) (now there n : Nat) (x : Indexer) (s : σ) :
    Leads x (x.rounds source now there n s).1 := by
  induction n generalizing x s with
  | zero => exact .refl x
  | succ n ih =>
    unfold Indexer.rounds
    dsimp only
    split
    next => exact (leads_round source now there x s).trans (ih _ _)
    next => exact leads_round source now there x s

theorem leads_wakeIdle (source : Source σ) (x : Indexer) (now : Nat) (s : σ) :
    Leads x (x.wakeIdle source now s).1 := by
  unfold Indexer.wakeIdle
  dsimp only
  split
  next => exact .refl x
  next =>
    split
    next => exact ⟨[.wake], rfl⟩
    next hnever =>
      refine ⟨[.wake, .idle (source.list s).1], ?_⟩
      exact if_pos ⟨rfl, Bool.eq_false_iff.mpr hnever⟩

/-- What the indexer does when it has the time is done step by step. -/
theorem leads_run (source : Source σ) (now there : Nat) (x : Indexer) (s : σ) :
    Leads x (x.run source now there s).1 := by
  unfold Indexer.run
  split
  next => exact .refl x
  next =>
    rcases hidle : x.wakeIdle source now s with ⟨y, s'⟩
    have hfirst := leads_wakeIdle source x now s
    rw [hidle] at hfirst
    exact (hfirst.trans (leads_rounds source now there _ y s')).trans ⟨[.sleep now], rfl⟩

end Desk

end Kasten.Index
