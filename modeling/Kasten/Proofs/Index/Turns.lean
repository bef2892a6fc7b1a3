import Mathlib.Data.List.Count
import Kasten.Proofs.Index.Copies
import Kasten.Proofs.Index.Desk
import Kasten.Proofs.Index.Interleaving

/-!
# What a step means to one zettel

The actions, timers and failed readings of a zettel change in a few ways only: the zettel is asked
for, its reading begins, ends, or fails for now or for good, it is forgotten, or a timer fires.
-/

namespace Kasten.Index

/-! ## 1. What is counted -/

/-- What a full scan asks for. -/
def Indexer.scanned (x : Indexer) : Except StoreError (List Zid) → List (Zid × Action)
  | .error _ => []
  | .ok there =>
    (there.map fun z => (z, .update)) ++
      (x.store.tables.indexed.filter fun z => !there.contains z).map fun z => (z, .delete)

/-- Zettel to be looked at again. -/
def again (zids : ZidSet) : List (Zid × Action) := zids.toList.map fun z => (z, .update)

namespace Desk

/-- What is put into the anteroom by this step, unless a timer does. -/
def asks (s : Desk) : Deed → List (Zid × Action)
  | .accept =>
    match s.indexer.inbox with
    | [] => []
    | c :: _ => [(c.zid, asked c.reason)]
  | .work listing =>
    match s.reading, s.indexer.anteroom.dequeue.1 with
    | none, some (.reload, _) => s.indexer.scanned listing
    | none, some (.delete, z) => again (s.indexer.store.delete z).1
    | _, _ => []
  | .answer _ has result =>
    match s.reading, result with
    | some _, .ok zettel =>
      again (s.indexer.store.update (Record.ofZettel s.indexer.scan has zettel)).1
    | some z, .error (.notFound _) => again (s.indexer.store.delete z).1
    | _, _ => []
  | .idle listing =>
    if s.reading = none ∧ s.indexer.wasReloaded = false then s.indexer.scanned listing else []
  | _ => []

/-- The worker begins to read the zettel. -/
def fetches (s : Desk) (z : Zid) : Deed → Bool
  | .work _ => s.reading == none && s.indexer.anteroom.dequeue.1 == some (.update, z)
  | _ => false

/-- The worker forgets the zettel. -/
def forgets (s : Desk) (z : Zid) : Deed → Bool
  | .work _ => s.reading == none && s.indexer.anteroom.dequeue.1 == some (.delete, z)
  | _ => false

/-- The zettel can never be read, though it might be later, and it is never forgotten. -/
structure Fails (s : Desk) (z : Zid) (d : Deed) : Prop where
  answer (now : Nat) (has : Zid → Bool) (result : Except StoreError Zettel) :
    d = .answer now has result → s.reading = some z →
      ∃ error, result = .error error ∧ error.isRetryable = true
  kept (listing : Except StoreError (List Zid)) :
    d = .work listing → s.reading = none → s.indexer.anteroom.dequeue.1 ≠ some (.delete, z)

/-- In how many rooms one of these actions waits for the zettel. -/
def copies (s : Desk) (p : Action → Bool) (z : Zid) : Nat := s.indexer.anteroom.copies p z

/-- How many timers there are for the zettel. -/
def timers (s : Desk) (z : Zid) : Nat := s.indexer.retries.countP fun r => r.zid == z

def readings (s : Desk) (z : Zid) : Nat := if s.reading = some z then 1 else 0

def attempts (s : Desk) (z : Zid) : Nat := (s.indexer.attempts.getD z 0).toNat

/-- No more readings have failed in a row than may. -/
def WithinLimit (s : Desk) (z : Zid) : Prop := s.attempts z ≤ s.indexer.config.maxRetries

/-- There are words for the numbers of attempts, also for the one that is too much. -/
def CanCount (s : Desk) : Prop := s.indexer.config.maxRetries + 1 < UInt32.size

/-- How often the zettel is asked for, once at most. -/
def requests (s : Desk) (z : Zid) (d : Deed) : Nat := if (z, .update) ∈ s.asks d then 1 else 0

/-- How often one of these actions is asked for, once at most for each of them. -/
def asksFor (s : Desk) (p : Action → Bool) (z : Zid) (d : Deed) : Nat :=
  (if (z, .update) ∈ s.asks d ∧ p .update = true then 1 else 0) +
    if (z, .delete) ∈ s.asks d ∧ p .delete = true then 1 else 0

/-- A step is about other zettel or asks for this one, or it takes the zettel on, is done with it,
finds that it cannot be read, forgets it, or lets a timer fire. -/
inductive Turn (s : Desk) (z : Zid) (d : Deed) (t : Desk) : Prop where
  | elsewhere (hread : t.readings z = s.readings z) (htimers : t.timers z = s.timers z)
      (hattempts : t.attempts z = s.attempts z)
      (hcopies : ∀ p, p .reload = false → t.copies p z ≤ s.copies p z + s.asksFor p z d)
      (hfetch : s.fetches z d = false)
  | fetched (hread : s.readings z = 0 ∧ t.readings z = 1) (htimers : t.timers z = s.timers z)
      (hattempts : t.attempts z = s.attempts z)
      (hcopies : ∀ p, p .update = true → t.copies p z + 1 = s.copies p z)
      (hfetch : s.fetches z d = true)
  | putOff (hread : s.readings z = 1 ∧ t.readings z = 0) (htimers : t.timers z = s.timers z + 1)
      (hattempts : t.attempts z = s.attempts z + 1)
      (hlimit : s.attempts z < s.indexer.config.maxRetries)
      (hcopies : ∀ p, t.copies p z = s.copies p z) (hfetch : s.fetches z d = false)
  | givenUp (hread : s.readings z = 1 ∧ t.readings z = 0) (htimers : t.timers z = s.timers z)
      (hattempts : t.attempts z = 0) (hlimit : s.indexer.config.maxRetries ≤ s.attempts z)
      (hcopies : ∀ p, t.copies p z = s.copies p z) (hfetch : s.fetches z d = false)
  | settled (hread : s.readings z = 1 ∧ t.readings z = 0) (htimers : t.timers z = s.timers z)
      (hattempts : t.attempts z ≤ s.attempts z)
      (hcopies : ∀ p, p .reload = false → t.copies p z ≤ s.copies p z + s.asksFor p z d)
      (hfetch : s.fetches z d = false)
  | forgotten (hforgets : s.forgets z d = true) (hread : t.readings z = s.readings z)
      (htimers : t.timers z = s.timers z) (hattempts : t.attempts z = 0)
      (hcopies : ∀ p, p .reload = false →
        t.copies p z + (if p .delete = true then 1 else 0) ≤ s.copies p z + s.asksFor p z d)
      (hfetch : s.fetches z d = false)
  | fired (hread : t.readings z = s.readings z) (htimers : t.timers z + 1 = s.timers z)
      (hattempts : t.attempts z = s.attempts z)
      (hcopies : ∀ p, t.copies p z ≤ s.copies p z + 1) (hfetch : s.fetches z d = false)

end Desk

namespace Indexer

variable (x : Indexer) (p : Action → Bool) (z : Zid)

theorem mem_again {zids : ZidSet} : (z, Action.update) ∈ again zids ↔ z ∈ zids.toList := by
  simp [again]

theorem copies_requeue_le (zids : ZidSet) :
    (x.requeue zids).anteroom.copies p z ≤ x.anteroom.copies p z +
      if (z, .update) ∈ again zids ∧ p .update = true then 1 else 0 := by
  have hnodup : zids.toList.Nodup :=
    Std.ExtTreeSet.distinct_toList.imp fun hne heq => hne (Std.compare_eq_iff_eq.mpr heq)
  simp only [mem_again]
  exact x.anteroom.copies_foldl_enqueue_le p z hnodup

theorem copies_forget_le (y : Zid) :
    (x.forget y).anteroom.copies p z ≤ x.anteroom.copies p z +
      if (z, .update) ∈ again (x.store.delete y).1 ∧ p .update = true then 1 else 0 :=
  (x.settled y (x.store.delete y).2).copies_requeue_le p z _

theorem copies_reload_le (listing : Except StoreError (List Zid)) :
    (x.reload listing).anteroom.copies p z ≤ x.anteroom.copies p z +
      ((if (z, .update) ∈ x.scanned listing ∧ p .update = true then 1 else 0) +
        if (z, .delete) ∈ x.scanned listing ∧ p .delete = true then 1 else 0) := by
  cases listing with
  | error error => exact Nat.le_add_right _ _
  | ok there =>
    let gone := x.store.tables.indexed.filter fun z => !there.contains z
    have hthere : (z, .update) ∈ x.scanned (.ok there) ↔ z ∈ there := by simp [scanned]
    have hgone : (z, .delete) ∈ x.scanned (.ok there) ↔ z ∈ gone := by simp [scanned, gone]
    simp only [hthere, hgone]
    exact x.anteroom.copies_reload_le p z gone there

theorem copies_accept_le (hp : p .reload = false) (c : Change) :
    (x.accept c).anteroom.copies p z ≤ x.anteroom.copies p z +
      if z = c.zid ∧ p (asked c.reason) = true then 1 else 0 := by
  unfold accept
  cases hreason : c.reason with
  | onZettel => exact x.anteroom.copies_enqueue_le p c.zid z .update
  | onDelete => exact x.anteroom.copies_enqueue_le p c.zid z .delete
  | onReload =>
    show x.anteroom.reset.copies p z ≤ _
    rw [Anteroom.copies_reset z hp]
    exact Nat.zero_le _

theorem finish_of_retryable {error : StoreError} (h : error.isRetryable = true) (now : Nat)
    (has : Zid → Bool) : x.finish now has z (.error error) = x.putOff now .update z := by
  cases error <;> first | rfl | cases h

/-- What comes of a reading: a record, a deletion, another attempt later, or nothing. -/
theorem finish_cases (now : Nat) (has : Zid → Bool) (result : Except StoreError Zettel) :
    (∃ zettel, result = .ok zettel ∧ x.finish now has z result =
      (x.settled z (x.store.update (Record.ofZettel x.scan has zettel)).2).requeue
        (x.store.update (Record.ofZettel x.scan has zettel)).1) ∨
    (∃ y, result = .error (.notFound y) ∧ x.finish now has z result = x.forget z) ∨
    x.finish now has z result = x.putOff now .update z ∨ x.finish now has z result = x := by
  cases result with
  | ok zettel => exact .inl ⟨zettel, rfl, rfl⟩
  | error error =>
    cases hretry : error.isRetryable with
    | true => exact .inr (.inr (.inl (x.finish_of_retryable z hretry now has)))
    | false =>
      cases error with
      | notFound y => exact .inr (.inl ⟨y, rfl, rfl⟩)
      | timeout => cases hretry
      | file => cases hretry
      | stopped => cases hretry
      | _ => exact .inr (.inr (.inr rfl))

end Indexer

namespace Desk

variable {s : Desk} {z : Zid} {d : Deed}

theorem Turn.stay (h : s.fetches z d = false) : s.Turn z d s :=
  .elsewhere rfl rfl rfl (fun _ _ => Nat.le_add_right _ _) h

theorem turn_accept (s : Desk) (z : Zid) : s.Turn z .accept (s.step .accept) := by
  cases hinbox : s.indexer.inbox with
  | nil =>
    have hstep : s.step .accept = s := by
      simp only [step, hinbox]
    rw [hstep]
    exact .stay rfl
  | cons c rest =>
    have hstep : s.step .accept =
        { s with indexer := Indexer.accept { s.indexer with inbox := rest } c } := by
      simp only [step, hinbox]
    have hasks : s.asks .accept = [(c.zid, asked c.reason)] := by
      simp only [asks, hinbox]
    rw [hstep]
    refine .elsewhere rfl rfl rfl (fun p hp => ?_) rfl
    refine Nat.le_trans (Indexer.copies_accept_le { s.indexer with inbox := rest } p z hp c)
      (Nat.add_le_add_left ?_ _)
    unfold asksFor
    rw [hasks]
    simp only [List.mem_singleton, Prod.mk.injEq]
    cases asked c.reason <;> simp [hp]

theorem turn_idle (s : Desk) (z : Zid) (listing : Except StoreError (List Zid)) :
    s.Turn z (.idle listing) (s.step (.idle listing)) := by
  by_cases hfirst : s.reading = none ∧ s.indexer.wasReloaded = false
  · have hstep : s.step (.idle listing) = { s with indexer := s.indexer.reload listing } :=
      if_pos hfirst
    have hasks : s.asks (.idle listing) = s.indexer.scanned listing := if_pos hfirst
    have hcopies : ∀ p, p .reload = false → (s.indexer.reload listing).anteroom.copies p z ≤
        s.copies p z + s.asksFor p z (.idle listing) := by
      intro p _
      unfold asksFor
      rw [hasks]
      exact s.indexer.copies_reload_le p z listing
    rw [hstep]
    cases listing with
    | error error => exact .elsewhere rfl rfl rfl hcopies rfl
    | ok there => exact .elsewhere rfl rfl rfl hcopies rfl
  · have hstep : s.step (.idle listing) = s := if_neg hfirst
    rw [hstep]
    exact .stay rfl

theorem step_fire {r : Retry} (hr : r ∈ s.indexer.retries) :
    s.step (.fire r) = { s with indexer := s.indexer.fire r } :=
  if_pos hr

/-- A timer that fires is gone. -/
theorem timers_fire {r : Retry} (hr : r ∈ s.indexer.retries) (z : Zid) :
    (s.step (.fire r)).timers z + (if r.zid = z then 1 else 0) = s.timers z := by
  have herase : timers { s with indexer := s.indexer.fire r } z =
      s.timers z - if r ∈ s.indexer.retries ∧ (r.zid == z) = true then 1 else 0 :=
    List.countP_erase _ _ _
  rw [step_fire hr, herase]
  by_cases hz : r.zid = z
  · have hboth : r ∈ s.indexer.retries ∧ (r.zid == z) = true := ⟨hr, beq_iff_eq.mpr hz⟩
    have hpos : 0 < s.timers z := List.countP_pos_iff.mpr ⟨r, hboth⟩
    rw [if_pos hboth, if_pos hz]
    omega
  · rw [if_neg fun h => hz (beq_iff_eq.mp h.2), if_neg hz]
    rfl

theorem turn_fire (s : Desk) (z : Zid) (r : Retry) : s.Turn z (.fire r) (s.step (.fire r)) := by
  by_cases hr : r ∈ s.indexer.retries
  · have htimers := timers_fire hr z
    have hcopies : ∀ p, copies { s with indexer := s.indexer.fire r } p z ≤
        s.copies p z + if z = r.zid ∧ p r.action = true then 1 else 0 :=
      fun p => s.indexer.anteroom.copies_enqueue_le p r.zid z r.action
    rw [step_fire hr] at htimers ⊢
    by_cases hz : r.zid = z
    · rw [if_pos hz] at htimers
      refine .fired rfl htimers rfl (fun p => Nat.le_trans (hcopies p) ?_) rfl
      exact Nat.add_le_add_left (by split <;> decide) _
    · rw [if_neg hz] at htimers
      refine .elsewhere rfl htimers rfl (fun p _ => Nat.le_trans (hcopies p) ?_) rfl
      rw [if_neg fun h => hz h.1.symm]
      exact Nat.add_le_add_left (Nat.zero_le _) _
  · have hstep : s.step (.fire r) = s := if_neg hr
    rw [hstep]
    exact .stay rfl

section Work

variable {action : Action} {y : Zid} {anteroom : Anteroom} {listing : Except StoreError (List Zid)}

theorem step_work (hread : s.reading = none)
    (hnext : s.indexer.anteroom.dequeue = (some (action, y), anteroom)) :
    s.step (.work listing) = take { s.indexer with anteroom } listing (action, y) := by
  simp only [step, hread, hnext]

theorem fetches_work (hread : s.reading = none)
    (hnext : s.indexer.anteroom.dequeue = (some (action, y), anteroom)) :
    s.fetches z (.work listing) = (some (action, y) == some (.update, z)) := by
  unfold fetches
  rw [hread, hnext]
  rfl

theorem readings_of_none (hread : s.reading = none) : s.readings z = 0 := by
  unfold readings
  rw [hread]
  rfl

theorem copies_left_le (hnext : s.indexer.anteroom.dequeue = (some (action, y), anteroom))
    (p : Action → Bool) : anteroom.copies p z ≤ s.copies p z :=
  Nat.le_trans (Nat.le_add_right _ _) (Nat.le_of_eq (Anteroom.copies_dequeue p z hnext))

theorem turn_take_reload (hread : s.reading = none)
    (hnext : s.indexer.anteroom.dequeue = (some (.reload, y), anteroom)) :
    s.Turn z (.work listing) (take { s.indexer with anteroom } listing (.reload, y)) := by
  have hasks : s.asks (.work listing) = Indexer.scanned { s.indexer with anteroom } listing := by
    simp only [asks, hread, hnext]
    rfl
  have hcopies : ∀ p, p .reload = false →
      (Indexer.reload { s.indexer with anteroom } listing).anteroom.copies p z ≤
        s.copies p z + s.asksFor p z (.work listing) := by
    intro p _
    unfold asksFor
    rw [hasks]
    exact Nat.le_trans (Indexer.copies_reload_le { s.indexer with anteroom } p z listing)
      (Nat.add_le_add_right (copies_left_le hnext p) _)
  have hread' := readings_of_none (z := z) hread
  cases listing with
  | error error => exact .elsewhere hread'.symm rfl rfl hcopies (fetches_work hread hnext)
  | ok there => exact .elsewhere hread'.symm rfl rfl hcopies (fetches_work hread hnext)

theorem turn_take_update (hread : s.reading = none)
    (hnext : s.indexer.anteroom.dequeue = (some (.update, y), anteroom)) :
    s.Turn z (.work listing) (take { s.indexer with anteroom } listing (.update, y)) := by
  have hread' := readings_of_none (z := z) hread
  by_cases hy : y = z
  · subst hy
    refine .fetched ⟨hread', if_pos rfl⟩ rfl rfl (fun p hp => ?_) ?_
    · have htaken := Anteroom.copies_dequeue p y hnext
      rw [if_pos ⟨rfl, hp⟩] at htaken
      exact htaken
    · rw [fetches_work hread hnext]
      exact beq_self_eq_true _
  · have hother : readings ⟨{ s.indexer with anteroom }, some y⟩ z = 0 :=
      if_neg fun h => hy (Option.some.inj h)
    refine .elsewhere (hother.trans hread'.symm) rfl rfl (fun p _ => ?_) ?_
    · exact Nat.le_trans (copies_left_le hnext p) (Nat.le_add_right _ _)
    · rw [fetches_work hread hnext]
      simp [hy]

theorem turn_take_delete (hread : s.reading = none)
    (hnext : s.indexer.anteroom.dequeue = (some (.delete, y), anteroom)) :
    s.Turn z (.work listing) (take { s.indexer with anteroom } listing (.delete, y)) := by
  have hasks : s.asks (.work listing) = again (s.indexer.store.delete y).1 := by
    simp only [asks, hread, hnext]
  have hcopies : ∀ p, (Indexer.forget { s.indexer with anteroom } y).anteroom.copies p z ≤
      anteroom.copies p z + s.asksFor p z (.work listing) := by
    intro p
    unfold asksFor
    rw [hasks]
    exact Nat.le_trans (Indexer.copies_forget_le { s.indexer with anteroom } p z y)
      (Nat.add_le_add_left (Nat.le_add_right _ _) _)
  by_cases hy : y = z
  · subst hy
    have hforgets : s.forgets y (.work listing) = true := by
      unfold forgets
      rw [hread, hnext]
      exact beq_self_eq_true _
    have hattempts : ((s.indexer.attempts.erase y).getD y 0).toNat = 0 := by
      rw [getD_erase_eq, if_pos rfl]
      rfl
    refine .forgotten hforgets (readings_of_none hread).symm rfl hattempts (fun p _ => ?_)
      (fetches_work hread hnext)
    have hleft := Anteroom.copies_dequeue p y hnext
    rw [if_congr (and_iff_right rfl) rfl rfl] at hleft
    have hmore := hcopies p
    unfold copies
    rw [← hleft]
    exact Nat.le_trans (Nat.add_le_add_right hmore _) (Nat.le_of_eq (Nat.add_right_comm _ _ _))
  · have hattempts : ((s.indexer.attempts.erase y).getD z 0).toNat =
        (s.indexer.attempts.getD z 0).toNat := by
      rw [getD_erase_eq, if_neg (Ne.symm hy)]
    exact .elsewhere (readings_of_none hread).symm rfl hattempts
      (fun p _ => Nat.le_trans (hcopies p) (Nat.add_le_add_right (copies_left_le hnext p) _))
      (fetches_work hread hnext)

theorem turn_work (s : Desk) (z : Zid) (listing : Except StoreError (List Zid)) :
    s.Turn z (.work listing) (s.step (.work listing)) := by
  cases hread : s.reading with
  | some y =>
    have hstep : s.step (.work listing) = s := by
      simp only [step, hread]
    have hfetch : s.fetches z (.work listing) = false := by
      unfold fetches
      rw [hread]
      rfl
    rw [hstep]
    exact .stay hfetch
  | none =>
    rcases hnext : s.indexer.anteroom.dequeue with ⟨_ | ⟨action, y⟩, anteroom⟩
    · have hstep : s.step (.work listing) = s := by
        simp only [step, hread, hnext]
      have hfetch : s.fetches z (.work listing) = false := by
        unfold fetches
        rw [hnext, Bool.and_eq_false_iff]
        exact .inr rfl
      rw [hstep]
      exact .stay hfetch
    rw [step_work hread hnext]
    cases action with
    | reload => exact turn_take_reload hread hnext
    | update => exact turn_take_update hread hnext
    | delete => exact turn_take_delete hread hnext

end Work

section Answer

variable {now : Nat} {has : Zid → Bool} {result : Except StoreError Zettel}

/-- A record that was taken in may ask for the zettel. -/
theorem copies_answer_ok_le {y : Zid} (hread : s.reading = some y) (zettel : Zettel)
    (p : Action → Bool) :
    copies ⟨(s.indexer.settled y
        (s.indexer.store.update (Record.ofZettel s.indexer.scan has zettel)).2).requeue
      (s.indexer.store.update (Record.ofZettel s.indexer.scan has zettel)).1, none⟩ p z ≤
      s.copies p z + s.asksFor p z (.answer now has (.ok zettel)) := by
  have hasks : s.asks (.answer now has (.ok zettel)) =
      again (s.indexer.store.update (Record.ofZettel s.indexer.scan has zettel)).1 := by
    simp only [asks, hread]
  unfold asksFor
  rw [hasks]
  exact Nat.le_trans (Indexer.copies_requeue_le _ p z _)
    (Nat.add_le_add_left (Nat.le_add_right _ _) _)

/-- So may one that was forgotten. -/
theorem copies_answer_notFound_le {y : Zid} (hread : s.reading = some y) (w : Zid)
    (p : Action → Bool) :
    copies ⟨s.indexer.forget y, none⟩ p z ≤
      s.copies p z + s.asksFor p z (.answer now has (.error (.notFound w))) := by
  have hasks : s.asks (.answer now has (.error (.notFound w))) =
      again (s.indexer.store.delete y).1 := by
    simp only [asks, hread]
  unfold asksFor
  rw [hasks]
  exact Nat.le_trans (s.indexer.copies_forget_le p z y)
    (Nat.add_le_add_left (Nat.le_add_right _ _) _)

/-- The reading fails, so it is put off or given up. -/
theorem turn_putOff (hread : s.reading = some z) (hcount : s.CanCount) (hlimit : s.WithinLimit z) :
    s.Turn z (.answer now has result) ⟨s.indexer.putOff now .update z, none⟩ := by
  have hread' : s.readings z = 1 := if_pos hread
  -- One more can be counted, so the word does not start anew.
  have hnext : (s.indexer.attempts.getD z 0 + 1).toNat = s.attempts z + 1 := by
    unfold CanCount at hcount
    unfold WithinLimit at hlimit
    rw [UInt32.toNat_add]
    exact Nat.mod_eq_of_lt (Nat.lt_of_le_of_lt (Nat.succ_le_succ hlimit) hcount)
  unfold Indexer.putOff
  dsimp only
  rw [hnext]
  split
  next hmany =>
    refine .givenUp ⟨hread', rfl⟩ rfl ?_ (Nat.le_of_lt_succ hmany) (fun p => rfl) rfl
    show ((s.indexer.attempts.erase z).getD z 0).toNat = 0
    rw [getD_erase_eq, if_pos rfl]
    rfl
  next hfew =>
    have hlimit := Nat.lt_of_succ_le (Nat.le_of_not_lt hfew)
    refine .putOff ⟨hread', rfl⟩ ?_ ?_ hlimit (fun p => rfl) rfl
    · unfold timers
      rw [List.countP_append, List.countP_singleton, if_pos (beq_self_eq_true z)]
    · show ((s.indexer.attempts.insert z _).getD z 0).toNat = _
      rw [getD_insert_eq, if_pos rfl]
      exact hnext

/-- Whatever comes of the reading, it is over. -/
theorem turn_finish (hread : s.reading = some z) (hcount : s.CanCount) (hlimit : s.WithinLimit z) :
    s.Turn z (.answer now has result) ⟨s.indexer.finish now has z result, none⟩ := by
  have hread' : s.readings z = 1 := if_pos hread
  have hattempts : ((s.indexer.attempts.erase z).getD z 0).toNat ≤ s.attempts z := by
    rw [getD_erase_eq, if_pos rfl]
    exact Nat.zero_le _
  rcases s.indexer.finish_cases z now has result with
    ⟨zettel, rfl, hfinish⟩ | ⟨w, rfl, hfinish⟩ | hfinish | hfinish
  · rw [hfinish]
    exact .settled ⟨hread', rfl⟩ rfl hattempts (fun p _ => copies_answer_ok_le hread zettel p) rfl
  · rw [hfinish]
    exact .settled ⟨hread', rfl⟩ rfl hattempts (fun p _ => copies_answer_notFound_le hread w p) rfl
  · rw [hfinish]
    exact turn_putOff hread hcount hlimit
  · rw [hfinish]
    exact .settled ⟨hread', rfl⟩ rfl (Nat.le_refl _) (fun p _ => Nat.le_add_right _ _) rfl

/-- Whatever comes of reading another zettel, it may ask for this one, but no more. -/
theorem turn_finish_of_ne {y : Zid} (hread : s.reading = some y) (hy : y ≠ z) :
    s.Turn z (.answer now has result) ⟨s.indexer.finish now has y result, none⟩ := by
  have hread' : (0 : Nat) = s.readings z := by
    unfold readings
    rw [hread, if_neg fun h => hy (Option.some.inj h)]
  have herase : ((s.indexer.attempts.erase y).getD z 0).toNat =
      (s.indexer.attempts.getD z 0).toNat := by
    rw [getD_erase_eq, if_neg hy.symm]
  rcases s.indexer.finish_cases y now has result with
    ⟨zettel, rfl, hfinish⟩ | ⟨w, rfl, hfinish⟩ | hfinish | hfinish
  · rw [hfinish]
    exact .elsewhere hread' rfl herase (fun p _ => copies_answer_ok_le hread zettel p) rfl
  · rw [hfinish]
    exact .elsewhere hread' rfl herase (fun p _ => copies_answer_notFound_le hread w p) rfl
  · rw [hfinish]
    unfold Indexer.putOff
    dsimp only
    split
    next => exact .elsewhere hread' rfl herase (fun p _ => Nat.le_add_right _ _) rfl
    next =>
      refine .elsewhere hread' ?_ ?_ (fun p _ => Nat.le_add_right _ _) rfl
      · unfold timers
        rw [List.countP_append, List.countP_singleton, if_neg fun h => hy (beq_iff_eq.mp h)]
        rfl
      · show ((s.indexer.attempts.insert y _).getD z 0).toNat = _
        rw [getD_insert_eq, if_neg hy.symm]
        rfl
  · rw [hfinish]
    exact .elsewhere hread' rfl rfl (fun p _ => Nat.le_add_right _ _) rfl

theorem turn_answer (hcount : s.CanCount) (hlimit : s.WithinLimit z) :
    s.Turn z (.answer now has result) (s.step (.answer now has result)) := by
  cases hread : s.reading with
  | none =>
    have hstep : s.step (.answer now has result) = s := by
      simp only [step, hread]
    rw [hstep]
    exact .stay rfl
  | some y =>
    have hstep : s.step (.answer now has result) = ⟨s.indexer.finish now has y result, none⟩ := by
      simp only [step, hread]
    rw [hstep]
    by_cases hy : y = z
    · subst hy
      exact turn_finish hread hcount hlimit
    · exact turn_finish_of_ne hread hy

end Answer

/-- Each step does one of a few things for a zettel. -/
theorem turn_step (hcount : s.CanCount) (hlimit : s.WithinLimit z) (d : Deed) :
    s.Turn z d (s.step d) := by
  have hsame : ∀ p, p .reload = false → s.copies p z ≤ s.copies p z + s.asksFor p z d :=
    fun p _ => Nat.le_add_right _ _
  cases d with
  | start =>
    cases hstarted : s.indexer.isStarted with
    | true =>
      have hstep : s.step .start = s := by
        simp only [step, Indexer.start, hstarted, if_true]
        rfl
      rw [hstep]
      exact .stay rfl
    | false =>
      have hstep : s.step .start =
          { s with indexer := { s.indexer with isStarted := true, isAwake := true } } := by
        simp only [step, Indexer.start, hstarted]
        rfl
      rw [hstep]
      exact .elsewhere rfl rfl rfl hsame rfl
  | receive changes => exact .elsewhere rfl rfl rfl hsame rfl
  | refresh =>
    refine .elsewhere rfl rfl rfl (fun p hp => ?_) rfl
    show s.indexer.anteroom.reset.copies p z ≤ _
    rw [Anteroom.copies_reset z hp]
    exact Nat.zero_le _
  | accept => exact s.turn_accept z
  | work listing => exact s.turn_work z listing
  | answer now has result => exact turn_answer hcount hlimit
  | idle listing => exact s.turn_idle z listing
  | fire r => exact s.turn_fire z r
  | wake => exact .elsewhere rfl rfl rfl hsame rfl
  | sleep now =>
    show s.Turn z _ { s with indexer := s.indexer.sleep now }
    unfold Indexer.sleep
    split
    next => exact .elsewhere rfl rfl rfl hsame rfl
    next => exact .elsewhere rfl rfl rfl hsame rfl

theorem config_take (x : Indexer) (listing : Except StoreError (List Zid))
    (next : Action × Zid) : (take x listing next).indexer.config = x.config := by
  rcases next with ⟨action, z⟩
  cases action with
  | reload => cases listing <;> rfl
  | update => rfl
  | delete => rfl

theorem config_finish (x : Indexer) (now : Nat) (has : Zid → Bool) (z : Zid)
    (result : Except StoreError Zettel) : (x.finish now has z result).config = x.config := by
  rcases x.finish_cases z now has result with
    ⟨zettel, -, hfinish⟩ | ⟨y, -, hfinish⟩ | hfinish | hfinish
  · rw [hfinish]
    rfl
  · rw [hfinish]
    rfl
  · rw [hfinish]
    unfold Indexer.putOff
    dsimp only
    split <;> rfl
  · rw [hfinish]

theorem config_step (s : Desk) (d : Deed) : (s.step d).indexer.config = s.indexer.config := by
  cases d with
  | start =>
    show (s.indexer.start.toOption.getD s.indexer).config = _
    unfold Indexer.start
    split <;> rfl
  | receive changes => rfl
  | refresh => rfl
  | accept =>
    simp only [step]
    split <;> rfl
  | work listing =>
    simp only [step]
    split
    next next anteroom _ _ => exact config_take { s.indexer with anteroom } listing next
    next => rfl
  | answer now has result =>
    simp only [step]
    split
    next z _ => exact config_finish s.indexer now has z result
    next => rfl
  | idle listing =>
    simp only [step]
    split
    next => cases listing <;> rfl
    next => rfl
  | fire r =>
    simp only [step]
    split <;> rfl
  | wake => rfl
  | sleep now =>
    show (s.indexer.sleep now).config = _
    unfold Indexer.sleep
    split <;> rfl

end Desk

end Kasten.Index
