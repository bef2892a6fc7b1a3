import Mathlib.Data.Prod.Lex
import Kasten.Proofs.Index.Ahead
import Kasten.Proofs.Index.Turns

/-!
# A zettel waits for its turn

While a zettel waits in the anteroom, a full scan may come before it, but only one that was asked
for before, since a request for another drops what waits. So each action that the worker takes
brings it nearer, unless that action is for a zettel of the same room that is not above it.
-/

namespace Kasten.Index

open Anteroom (Nears entriesBefore)

/-- A full scan that comes later can only be asked for anew. -/
theorem Anteroom.copies_enqueue_invalid_le (a : Anteroom) (p : Action → Bool) (y : Zid)
    (action : Action) : (a.enqueue y action).copies p Zid.invalid ≤ a.copies p Zid.invalid := by
  by_cases haccepted : y.isValid = true ∧ action ≠ .reload
  · have hle := a.copies_enqueue_le p y Zid.invalid action
    rwa [if_neg fun h => ne_invalid haccepted.1 h.1.symm] at hle
  · rw [Anteroom.enqueue_of_not_accepted haccepted]

namespace Desk

variable {s t : Desk} {y z : Zid} {d : Deed} {place : Nat ×ₗ Nat}

/-! ## 1. Places -/

/-- All that the worker may do for one zettel. -/
def isOrdinary (action : Action) : Bool := action != .reload

def isScan (action : Action) : Bool := action == .reload

/-- How many full scans may still be made before another one is asked for. -/
def scansLeft (x : Indexer) : Nat :=
  x.anteroom.copies isScan Zid.invalid + if x.wasReloaded then 0 else 1

/-- The zettel waits behind so many full scans, and then behind so many entries of other rooms. -/
structure Waits (s : Desk) (z : Zid) (place : Nat ×ₗ Nat) : Prop where
  scans : scansLeft s.indexer = (ofLex place).1
  entries : entriesBefore isOrdinary z s.indexer.anteroom.rooms = some (ofLex place).2

theorem exists_waits (h : 0 < s.copies isOrdinary z) : ∃ place, s.Waits z place := by
  have hsome := (Anteroom.isSome_entriesBefore s.indexer.anteroom.rooms).mpr h
  rcases Option.isSome_iff_exists.mp hsome with ⟨n, hn⟩
  exact ⟨toLex (scansLeft s.indexer, n), rfl, hn⟩

theorem Waits.copies_pos (h : s.Waits z place) : 0 < s.copies isOrdinary z :=
  (Anteroom.isSome_entriesBefore _).mp (by rw [h.entries]; rfl)

theorem Waits.kept (h : s.Waits z place) (hscans : scansLeft t.indexer ≤ scansLeft s.indexer)
    (hnears : Nears isOrdinary z s.indexer.anteroom.rooms t.indexer.anteroom.rooms) :
    ∃ place' ≤ place, t.Waits z place' := by
  rcases hnears _ h.entries with ⟨n, hn, hentries⟩
  exact ⟨toLex (scansLeft t.indexer, n), Prod.Lex.toLex_mono ⟨h.scans ▸ hscans, hn⟩, rfl, hentries⟩

theorem Waits.nearer (h : s.Waits z place) (hscans : scansLeft t.indexer ≤ scansLeft s.indexer)
    {n : Nat} (hn : n < (ofLex place).2)
    (hnears : ∃ n' ≤ n, entriesBefore isOrdinary z t.indexer.anteroom.rooms = some n') :
    ∃ place' < place, t.Waits z place' := by
  rcases hnears with ⟨n', hn', hentries⟩
  refine ⟨toLex (scansLeft t.indexer, n'), ?_, rfl, hentries⟩
  exact Prod.Lex.toLex_strictMono
    (Prod.mk_lt_mk.mpr (.inr ⟨h.scans ▸ hscans, Nat.lt_of_le_of_lt hn' hn⟩))

theorem Waits.scanned (h : s.Waits z place) (hscans : scansLeft t.indexer < scansLeft s.indexer)
    (hcopies : 0 < t.copies isOrdinary z) : ∃ place' < place, t.Waits z place' := by
  rcases exists_waits hcopies with ⟨place', hplace'⟩
  exact ⟨place', Prod.Lex.lt_iff.mpr (.inl (hplace'.scans ▸ h.scans ▸ hscans)), hplace'⟩

/-! ## 2. The anteroom in order -/

theorem tidy_forget {x : Indexer} (h : x.anteroom.Tidy) (z : Zid) :
    (x.forget z).anteroom.Tidy :=
  (Anteroom.word_foldl_enqueue h _).1

theorem tidy_reload {x : Indexer} (h : x.anteroom.Tidy) (listing : Except StoreError (List Zid)) :
    (x.reload listing).anteroom.Tidy := by
  cases listing with
  | error error => exact h
  | ok there => exact Anteroom.tidy_reload h _ there

theorem tidy_finish {x : Indexer} (h : x.anteroom.Tidy) (now : Nat) (has : Zid → Bool) (z : Zid)
    (result : Except StoreError Zettel) : (x.finish now has z result).anteroom.Tidy := by
  rcases x.finish_cases z now has result with
    ⟨zettel, -, hfinish⟩ | ⟨w, -, hfinish⟩ | hfinish | hfinish
  · rw [hfinish]
    exact (Anteroom.word_foldl_enqueue h _).1
  · rw [hfinish]
    exact tidy_forget h z
  · rw [hfinish]
    unfold Indexer.putOff
    dsimp only
    split
    next => exact h
    next => exact h
  · rw [hfinish]
    exact h

theorem tidy_step (h : s.indexer.anteroom.Tidy) (d : Deed) :
    (s.step d).indexer.anteroom.Tidy := by
  cases d with
  | start =>
    show (s.indexer.start.toOption.getD s.indexer).anteroom.Tidy
    unfold Indexer.start
    split
    next => exact h
    next => exact h
  | receive changes => exact h
  | refresh => exact Anteroom.tidy_reset _
  | accept =>
    simp only [step]
    split
    next => exact h
    next c rest _ => exact (word_accept (x := { s.indexer with inbox := rest }) h c).1
  | work listing =>
    simp only [step]
    split
    next next anteroom _ hd =>
      have hleft : anteroom.Tidy := by
        rw [show anteroom = s.indexer.anteroom.dequeue.2 from (congrArg Prod.snd hd).symm]
        exact Anteroom.tidy_dequeue h
      rcases next with ⟨action, z⟩
      cases action with
      | reload => exact tidy_reload (x := { s.indexer with anteroom }) hleft listing
      | update => exact hleft
      | delete => exact tidy_forget (x := { s.indexer with anteroom }) hleft z
    next => exact h
  | answer now has result =>
    simp only [step]
    split
    next z _ => exact tidy_finish h now has z result
    next => exact h
  | idle listing =>
    simp only [step]
    split
    next => exact tidy_reload h listing
    next => exact h
  | fire r =>
    simp only [step]
    split
    next =>
      by_cases haction : r.action = .reload
      · have hsame := Anteroom.enqueue_of_not_accepted (a := s.indexer.anteroom) (z := r.zid)
          fun haccepted => haccepted.2 haction
        show (s.indexer.anteroom.enqueue r.zid r.action).Tidy
        rw [hsame]
        exact h
      · exact Anteroom.tidy_enqueue h r.zid haction
    next => exact h
  | wake => exact h
  | sleep now =>
    show (s.indexer.sleep now).anteroom.Tidy
    unfold Indexer.sleep
    split
    next => exact h
    next => exact h

/-! ## 3. Steps -/

/-- Nobody asks for the zettel but timers. -/
def Quiet (s : Desk) (z : Zid) (d : Deed) : Prop :=
  (z, .update) ∉ s.asks d ∧ (z, .delete) ∉ s.asks d

theorem Quiet.requests (h : s.Quiet z d) : s.requests z d = 0 := if_neg h.1

theorem Quiet.asksFor (h : s.Quiet z d) (p : Action → Bool) : s.asksFor p z d = 0 := by
  unfold Desk.asksFor
  rw [if_neg fun hask => h.1 hask.1, if_neg fun hask => h.2 hask.1]

section Scans

variable {x : Indexer} {anteroom : Anteroom} {action : Action}

theorem scansLeft_requeue_le (x : Indexer) (zids : ZidSet) :
    scansLeft (x.requeue zids) ≤ scansLeft x := by
  refine Nat.add_le_add_right ?_ _
  have hle := x.copies_requeue_le isScan Zid.invalid zids
  rwa [if_neg fun h => Bool.false_ne_true h.2] at hle

theorem copies_isScan_reload_le (x : Indexer) (listing : Except StoreError (List Zid)) :
    (x.reload listing).anteroom.copies isScan Zid.invalid ≤
      x.anteroom.copies isScan Zid.invalid := by
  have hle := x.copies_reload_le isScan Zid.invalid listing
  rwa [if_neg fun h => Bool.false_ne_true h.2, if_neg fun h => Bool.false_ne_true h.2] at hle

theorem scansLeft_reload_le (x : Indexer) (listing : Except StoreError (List Zid)) :
    scansLeft (x.reload listing) ≤ scansLeft x := by
  refine Nat.add_le_add (copies_isScan_reload_le x listing) ?_
  cases listing with
  | error error => exact Nat.le_refl _
  | ok there => exact Nat.zero_le _

/-- An idle worker makes a full scan at most once. -/
theorem scansLeft_reload_lt (h : x.wasReloaded = false) (there : List Zid) :
    scansLeft (x.reload (.ok there)) < scansLeft x := by
  refine Nat.add_lt_add_of_le_of_lt (copies_isScan_reload_le x (.ok there)) ?_
  rw [h]
  exact Nat.zero_lt_one

theorem scansLeft_dequeue_le (hnext : x.anteroom.dequeue = (some (action, y), anteroom)) :
    scansLeft { x with anteroom } ≤ scansLeft x :=
  Nat.add_le_add_right (Nat.le_trans (Nat.le_add_right _ _)
    (Nat.le_of_eq (Anteroom.copies_dequeue isScan Zid.invalid hnext))) _

theorem scansLeft_dequeue_lt (htidy : x.anteroom.Tidy)
    (hnext : x.anteroom.dequeue = (some (.reload, y), anteroom)) :
    scansLeft { x with anteroom } < scansLeft x := by
  have hone := Anteroom.copies_dequeue isScan Zid.invalid hnext
  rcases (Anteroom.left_dequeue htidy hnext).entry with ⟨-, hnot⟩ | ⟨hy, -⟩
  · exact absurd rfl hnot
  · rw [if_pos ⟨hy.symm, rfl⟩] at hone
    exact Nat.add_lt_add_right (Nat.lt_of_succ_le (Nat.le_of_eq hone)) _

end Scans

section Take

variable {anteroom : Anteroom} {action : Action} {listing : Except StoreError (List Zid)}

/-- What the worker takes for a zettel is gone, if nobody asks for the zettel again. -/
theorem copies_take_lt (hread : s.reading = none)
    (hnext : s.indexer.anteroom.dequeue = (some (action, y), anteroom)) (haction : action ≠ .reload)
    (hquiet : s.Quiet y (.work listing)) :
    (s.step (.work listing)).copies isOrdinary y < s.copies isOrdinary y := by
  have htaken := Anteroom.copies_dequeue isOrdinary y hnext
  rw [if_pos ⟨rfl, bne_iff_ne.mpr haction⟩] at htaken
  have hless : anteroom.copies isOrdinary y < s.copies isOrdinary y :=
    Nat.lt_of_succ_le (Nat.le_of_eq htaken)
  rw [step_work hread hnext]
  cases action with
  | reload => exact absurd rfl haction
  | update => exact hless
  | delete =>
    have hasks : s.asks (.work listing) = again (s.indexer.store.delete y).1 := by
      simp only [asks, hread, hnext]
    have hforget := Indexer.copies_forget_le { s.indexer with anteroom } isOrdinary y y
    rw [if_neg fun hask => hquiet.1 (hasks ▸ hask.1)] at hforget
    exact Nat.lt_of_le_of_lt hforget hless

/-- The zettel comes nearer, unless its own turn or that of one below it has come. -/
theorem Waits.work (h : s.Waits z place) (htidy : s.indexer.anteroom.Tidy)
    (hquiet : ∀ y, ¬ z < y → s.Quiet y (.work listing)) (hread : s.reading = none) :
    (∃ y, ¬ z < y ∧ (s.step (.work listing)).copies isOrdinary y < s.copies isOrdinary y) ∨
      ∃ place' < place, (s.step (.work listing)).Waits z place' := by
  rcases Anteroom.exists_takeFirst h.entries with ⟨⟨action, y⟩, rooms, hfirst⟩
  have hnext : s.indexer.anteroom.dequeue =
      (some (action, y), ⟨rooms, s.indexer.anteroom.maxLoad⟩) := by
    unfold Anteroom.dequeue
    rw [hfirst]
  by_cases haction : action = .reload
  · subst haction
    -- A full scan may drop what waits. Otherwise there is one less to come before the zettel.
    by_cases hcopies : (s.step (.work listing)).copies isOrdinary z < s.copies isOrdinary z
    · exact .inl ⟨z, z.lt_irrefl, hcopies⟩
    · refine .inr (h.scanned ?_ (Nat.lt_of_lt_of_le h.copies_pos (Nat.le_of_not_lt hcopies)))
      rw [step_work hread hnext]
      exact Nat.lt_of_le_of_lt (scansLeft_reload_le _ listing) (scansLeft_dequeue_lt htidy hnext)
  · rcases Anteroom.takeFirst_nears hfirst h.entries with ⟨hle, -⟩ | ⟨n, hn, hentries⟩
    · exact .inl ⟨y, hle, copies_take_lt hread hnext haction (hquiet y hle)⟩
    · rw [step_work hread hnext]
      have hscans := scansLeft_dequeue_le hnext
      cases action with
      | reload => exact absurd rfl haction
      | update => exact .inr (h.nearer hscans hn ⟨n, Nat.le_refl n, hentries⟩)
      | delete =>
        -- What is to be indexed anew because of the deletion waits further behind.
        refine .inr (h.nearer ?_ hn (Anteroom.nears_foldl_enqueue rfl _ _ n hentries))
        exact Nat.le_trans (scansLeft_requeue_le _ _) hscans

end Take

theorem Waits.enqueue (h : s.Waits z place) {action : Action}
    (ht : t.indexer.anteroom = s.indexer.anteroom.enqueue y action)
    (hreloads : t.indexer.wasReloaded = s.indexer.wasReloaded) :
    ∃ place' ≤ place, t.Waits z place' := by
  refine h.kept ?_ ?_
  · unfold scansLeft
    rw [ht, hreloads]
    exact Nat.add_le_add_right (Anteroom.copies_enqueue_invalid_le _ _ _ _) _
  · rw [ht]
    by_cases haction : action = .reload
    · rw [Anteroom.enqueue_of_not_accepted fun haccepted => haccepted.2 haction]
      exact .refl _
    · have hordinary : isOrdinary action = true := bne_iff_ne.mpr haction
      exact Anteroom.nears_enqueue hordinary _ y

theorem Waits.finish (h : s.Waits z place) (now : Nat) (has : Zid → Bool) (y : Zid)
    (result : Except StoreError Zettel) :
    ∃ place' ≤ place, Waits ⟨s.indexer.finish now has y result, none⟩ z place' := by
  have hrequeue : ∀ store zids, ∃ place' ≤ place,
      Waits ⟨(s.indexer.settled y store).requeue zids, none⟩ z place' := fun store zids =>
    h.kept (scansLeft_requeue_le (s.indexer.settled y store) zids)
      (Anteroom.nears_foldl_enqueue rfl _ _)
  rcases s.indexer.finish_cases y now has result with
    ⟨zettel, -, hfinish⟩ | ⟨w, -, hfinish⟩ | hfinish | hfinish
  · rw [hfinish]
    exact hrequeue _ _
  · rw [hfinish]
    exact hrequeue _ _
  · rw [hfinish]
    unfold Indexer.putOff
    dsimp only
    split <;> exact h.kept (Nat.le_refl _) (.refl _)
  · rw [hfinish]
    exact h.kept (Nat.le_refl _) (.refl _)

/-- In any step the zettel comes no further behind, unless something is done for it or for one below
it. -/
theorem Waits.step (h : s.Waits z place) (htidy : s.indexer.anteroom.Tidy)
    (hquiet : ∀ y, ¬ z < y → s.Quiet y d) :
    (∃ y, ¬ z < y ∧ (s.step d).copies isOrdinary y < s.copies isOrdinary y) ∨
      ∃ place' ≤ place, (s.step d).Waits z place' := by
  -- A request for a full scan drops all that waits, so there the place says nothing.
  have hreset : ∀ x : Indexer, x.anteroom = s.indexer.anteroom.reset →
      ∃ y, ¬ z < y ∧ x.anteroom.copies isOrdinary y < s.copies isOrdinary y := by
    intro x hx
    refine ⟨z, z.lt_irrefl, ?_⟩
    rw [hx, Anteroom.copies_reset z rfl]
    exact h.copies_pos
  cases d with
  | start =>
    refine .inr (h.kept ?_ ?_)
    · show scansLeft (s.indexer.start.toOption.getD s.indexer) ≤ _
      unfold Indexer.start
      split <;> exact Nat.le_refl _
    · show Nears _ _ _ (s.indexer.start.toOption.getD s.indexer).anteroom.rooms
      unfold Indexer.start
      split <;> exact .refl _
  | receive changes => exact .inr (h.kept (Nat.le_refl _) (.refl _))
  | refresh => exact .inl (hreset _ rfl)
  | accept =>
    simp only [Desk.step]
    split
    next => exact .inr ⟨place, le_rfl, h⟩
    next c rest _ =>
      unfold Indexer.accept
      cases c.reason with
      | onZettel => exact .inr (h.enqueue rfl rfl)
      | onDelete => exact .inr (h.enqueue rfl rfl)
      | onReload => exact .inl (hreset _ rfl)
  | work listing =>
    cases hread : s.reading with
    | none =>
      refine (h.work htidy hquiet hread).imp_right ?_
      rintro ⟨place', hless, hplace'⟩
      exact ⟨place', le_of_lt hless, hplace'⟩
    | some y =>
      have hstep : s.step (.work listing) = s := by
        simp only [Desk.step, hread]
      rw [hstep]
      exact .inr ⟨place, le_rfl, h⟩
  | answer now has result =>
    simp only [Desk.step]
    split
    next y _ => exact .inr (h.finish now has y result)
    next => exact .inr ⟨place, le_rfl, h⟩
  | idle listing =>
    by_cases hfirst : s.reading = none ∧ s.indexer.wasReloaded = false
    · have hstep : s.step (.idle listing) = { s with indexer := s.indexer.reload listing } :=
        if_pos hfirst
      rw [hstep]
      cases listing with
      | error error => exact .inr ⟨place, le_rfl, h⟩
      | ok there =>
        by_cases hcopies : copies { s with indexer := s.indexer.reload (.ok there) } isOrdinary z <
            s.copies isOrdinary z
        · exact .inl ⟨z, z.lt_irrefl, hcopies⟩
        · rcases h.scanned (t := { s with indexer := s.indexer.reload (.ok there) })
              (scansLeft_reload_lt hfirst.2 there)
              (Nat.lt_of_lt_of_le h.copies_pos (Nat.le_of_not_lt hcopies)) with
            ⟨place', hless, hplace'⟩
          exact .inr ⟨place', le_of_lt hless, hplace'⟩
    · have hstep : s.step (.idle listing) = s := if_neg hfirst
      rw [hstep]
      exact .inr ⟨place, le_rfl, h⟩
  | fire r =>
    simp only [Desk.step]
    split
    next => exact .inr (h.enqueue rfl rfl)
    next => exact .inr ⟨place, le_rfl, h⟩
  | wake => exact .inr (h.kept (Nat.le_refl _) (.refl _))
  | sleep now =>
    refine .inr (h.kept ?_ ?_)
    · show scansLeft (s.indexer.sleep now) ≤ _
      unfold Indexer.sleep
      split <;> exact Nat.le_refl _
    · show Nears _ _ _ (s.indexer.sleep now).anteroom.rooms
      unfold Indexer.sleep
      split <;> exact .refl _

end Desk

end Kasten.Index
