import Mathlib.Algebra.Order.BigOperators.Group.Finset
import Kasten.Proofs.Index.Readings

/-!
# Retries end

Each request for a zettel pays for all its readings, so these end with the requests. Whether the
last action for it ever leaves the anteroom depends on the others: those of its room that are below
it come first, and there may be more of them again and again. Once nobody asks for one of these
either, nothing is left to do.
-/

namespace Kasten.Index

namespace Desk

variable {s : Desk} {y z : Zid} {d : Deed} {place : Nat ×ₗ Nat}

/-! ## 1. What is left to do -/

/-- All that is left to be done for the zettel. An answer may leave a timer behind, and a timer an
action. -/
def toDo (s : Desk) (z : Zid) : Nat :=
  4 * s.toCome isOrdinary z + 3 * s.readings z + 2 * s.timers z + s.copies isOrdinary z

/-- A reading is over, a timer is gone, or an action has left the anteroom. -/
def Served (s t : Desk) (z : Zid) : Prop :=
  t.readings z < s.readings z ∨ t.timers z < s.timers z ∨
    t.copies isOrdinary z < s.copies isOrdinary z

theorem toDo_step (h : s.Orderly) (hquiet : s.Quiet z d) :
    (s.step d).toDo z ≤ s.toDo z ∧ (s.Served (s.step d) z → (s.step d).toDo z < s.toDo z) := by
  have htoCome := toCome_step (p := isOrdinary) (z := z) (d := d) h rfl rfl fun _ => rfl
  rw [hquiet.asksFor, Nat.mul_zero, Nat.add_zero] at htoCome
  unfold Served toDo
  cases turn_step h.counts (h.limit z) d with
  | elsewhere hread htimers _ hcopies =>
    have hle := hcopies isOrdinary rfl
    rw [hquiet.asksFor] at hle
    omega
  | fetched hread htimers _ hcopies hfetch =>
    -- The reading under way weighs less than the one to come that it was.
    have htaken := hcopies isOrdinary rfl
    rw [if_pos hfetch] at htoCome
    omega
  | putOff hread htimers _ _ hcopies =>
    have hkept := hcopies isOrdinary
    omega
  | givenUp hread htimers _ _ hcopies =>
    have hkept := hcopies isOrdinary
    omega
  | settled hread htimers _ hcopies =>
    have hle := hcopies isOrdinary rfl
    rw [hquiet.asksFor] at hle
    omega
  | forgotten _ hread htimers _ hcopies =>
    have hless : (s.step d).copies isOrdinary z + 1 ≤ s.copies isOrdinary z + 0 :=
      hquiet.asksFor isOrdinary ▸ hcopies isOrdinary rfl
    omega
  | fired hread htimers _ hcopies =>
    have hmore := hcopies isOrdinary
    omega

/-- What is left to be done is at a place where something is due to happen. -/
theorem toDo_pos (h : 0 < s.toDo z) :
    0 < s.readings z ∨ 0 < s.timers z ∨ 0 < s.copies isOrdinary z := by
  by_contra hnot
  have hnone : s.copies isOrdinary z + s.timers z + s.readings z = 0 := by omega
  unfold toDo toCome at h
  rw [hnone, Nat.mul_zero] at h
  omega

/-- The worker does not wait for the zettel, and neither a timer nor an action of the anteroom is
for it. The invalid zid may stand there for a full scan. -/
structure AtRest (s : Desk) (z : Zid) : Prop where
  reading : s.reading ≠ some z
  timers : ∀ r ∈ s.indexer.retries, r.zid ≠ z
  pending : ∀ room ∈ s.indexer.anteroom.rooms, ∀ action,
    room.pending[z]? = some action → action = .reload

theorem atRest_of_toDo (h : s.toDo z = 0) : s.AtRest z := by
  unfold toDo at h
  have hreading : s.readings z = 0 := by omega
  have htimers : s.timers z = 0 := by omega
  have hcopies : s.copies isOrdinary z = 0 := by omega
  refine ⟨fun hread => ?_, fun r hr hz => ?_, fun room hroom action hpending => ?_⟩
  · unfold readings at hreading
    rw [if_pos hread] at hreading
    cases hreading
  · exact List.countP_eq_zero.mp htimers r hr (beq_iff_eq.mpr hz)
  · have hnone := List.countP_eq_zero.mp hcopies room hroom
    unfold Room.holds at hnone
    rw [hpending] at hnone
    by_contra haction
    exact hnone (bne_iff_ne.mpr haction)

theorem AtRest.copies (h : s.AtRest z) : s.copies isOrdinary z = 0 := by
  refine List.countP_eq_zero.mpr fun room hroom hholds => ?_
  rcases (Option.any_eq_true _ _).mp hholds with ⟨action, hpending, haction⟩
  exact bne_iff_ne.mp haction (h.pending room hroom action hpending)

theorem reading_eq_some (h : 0 < s.readings z) : s.reading = some z := by
  unfold readings at h
  by_contra hnot
  rw [if_neg hnot] at h
  cases h

/-! ## 2. The zettel and those below it -/

/-- All that is left to be done for the zettel and for those below it. -/
def toDoUpTo (s : Desk) (z : Zid) : Nat := ∑ v ∈ Finset.range (z.val + 1), s.toDo ⟨v⟩

section UpTo

variable (h : s.Orderly) (hquiet : ∀ y, ¬ z < y → s.Quiet y d)

include h hquiet

theorem toDo_step_le {v : Nat} (hv : v ∈ Finset.range (z.val + 1)) :
    (s.step d).toDo ⟨v⟩ ≤ s.toDo ⟨v⟩ := by
  have hle : v ≤ z.val := Nat.le_of_lt_succ (Finset.mem_range.mp hv)
  exact (toDo_step h (hquiet ⟨v⟩ (Nat.not_lt_of_le hle))).1

theorem toDoUpTo_step_le : (s.step d).toDoUpTo z ≤ s.toDoUpTo z :=
  Finset.sum_le_sum fun _ hv => toDo_step_le h hquiet hv

theorem toDoUpTo_step_lt (hy : ¬ z < y) (hserved : s.Served (s.step d) y) :
    (s.step d).toDoUpTo z < s.toDoUpTo z := by
  have hmem : y.val ∈ Finset.range (z.val + 1) :=
    Finset.mem_range.mpr (Nat.lt_succ_of_le (Nat.le_of_not_lt hy))
  exact Finset.sum_lt_sum (fun _ hv => toDo_step_le h hquiet hv)
    ⟨y.val, hmem, (toDo_step h (hquiet y hy)).2 hserved⟩

end UpTo

/-! ## 3. Runs that go on -/

/-- As long as the zettel is read or waits in the anteroom, the worker comes to take the next
action, whichever it is, and each timer of the zettel fires. -/
structure Fair (s : Desk) (deeds : Nat → Deed) (z : Zid) : Prop where
  works (n : Nat) : (s.after deeds n).reading = some z ∨ 0 < (s.after deeds n).copies isOrdinary z →
    ∃ m ≥ n, (s.after deeds m).reading = none ∧ ∃ listing, deeds m = .work listing
  fires (n : Nat) (r : Retry) : r ∈ (s.after deeds n).indexer.retries → r.zid = z →
    ∃ m ≥ n, r ∈ (s.after deeds m).indexer.retries ∧ deeds m = .fire r

/-- A number that is smaller in the end has become smaller in one step. -/
theorem exists_falls {f : Nat → Nat} {n m : Nat} (hnm : n ≤ m) (h : f m < f n) :
    ∃ i ≥ n, f (i + 1) < f i := by
  induction hnm with
  | refl => exact absurd h (Nat.lt_irrefl _)
  | @step m hnm ih =>
    by_cases hearlier : f m < f n
    · exact ih hearlier
    · exact ⟨m, hnm, Nat.lt_of_lt_of_le h (Nat.le_of_not_lt hearlier)⟩

/-- A number ends at zero if another one never grows, and falls again and again as long as the first
is positive. -/
theorem exists_zero {f g : Nat → Nat} {n₀ : Nat} (hmono : ∀ n ≥ n₀, g (n + 1) ≤ g n)
    (hfalls : ∀ n ≥ n₀, 0 < f n → ∃ m ≥ n, g (m + 1) < g m) : ∃ n ≥ n₀, f n = 0 := by
  -- By strong induction on the second number, from wherever it is.
  suffices h : ∀ k, ∀ n ≥ n₀, g n = k → ∃ n ≥ n₀, f n = 0 from h (g n₀) n₀ (Nat.le_refl _) rfl
  intro k
  induction k using Nat.strongRecOn with
  | ind k ih =>
    intro n hn hk
    by_cases hzero : f n = 0
    · exact ⟨n, hn, hzero⟩
    · rcases hfalls n hn (Nat.pos_of_ne_zero hzero) with ⟨m, hm, hless⟩
      have hkept : g m ≤ g n := by
        clear hless
        induction hm with
        | refl => exact Nat.le_refl _
        | step hm ih => exact Nat.le_trans (hmono _ (Nat.le_trans hn hm)) ih
      exact ih _ (hk ▸ Nat.lt_of_lt_of_le hless hkept) (m + 1) (by omega) rfl

section Quiet

variable {deeds : Nat → Deed} {n₀ : Nat} (h : s.Orderly)
  (hquiet : ∀ i ≥ n₀, ∀ y, ¬ z < y → (s.after deeds i).Quiet y (deeds i))

include h hquiet

/-- Until then the zettel or one below it is served, or the zettel has come no further behind. -/
theorem waits_until {n m : Nat} (hn : n₀ ≤ n) (hnm : n ≤ m)
    (hplace : (s.after deeds n).Waits z place) :
    (∃ i ≥ n, ∃ y, ¬ z < y ∧ (s.after deeds i).Served (s.after deeds (i + 1)) y) ∨
      ∃ place' ≤ place, (s.after deeds m).Waits z place' := by
  induction hnm with
  | refl => exact .inr ⟨place, le_rfl, hplace⟩
  | @step m hnm ih =>
    rcases ih with hserved | ⟨place', hle, hplace'⟩
    · exact .inl hserved
    · rcases hplace'.step (h.after deeds m).tidy (hquiet m (Nat.le_trans hn hnm)) with
        ⟨y, hy, hless⟩ | ⟨place'', hle', hplace''⟩
      · exact .inl ⟨m, hnm, y, hy, .inr (.inr hless)⟩
      · exact .inr ⟨place'', le_trans hle' hle, hplace''⟩

/-- Where a zettel waits, it is served some time, or one below it is. -/
theorem exists_served (hfair : s.Fair deeds z) {n : Nat} (hn : n₀ ≤ n)
    (hplace : (s.after deeds n).Waits z place) :
    ∃ i ≥ n, ∃ y, ¬ z < y ∧ (s.after deeds i).Served (s.after deeds (i + 1)) y := by
  -- By induction on the place, which gets nearer whenever the worker takes something else.
  induction place using WellFoundedLT.induction generalizing n with
  | ind place ih =>
    rcases hfair.works n (.inr hplace.copies_pos) with ⟨m, hm, hread, listing, hdeed⟩
    rcases waits_until h hquiet hn hm hplace with hserved | ⟨place', hle, hplace'⟩
    · exact hserved
    have hquiet' := hquiet m (Nat.le_trans hn hm)
    rw [hdeed] at hquiet'
    have hafter : s.after deeds (m + 1) = (s.after deeds m).step (.work listing) := by
      rw [← hdeed]
      rfl
    rcases hplace'.work (h.after deeds m).tidy hquiet' hread with
      ⟨y, hy, hless⟩ | ⟨place'', hless, hplace''⟩
    · exact ⟨m, hm, y, hy, .inr (.inr (hafter ▸ hless))⟩
    · rcases ih place'' (lt_of_lt_of_le hless hle) (Nat.le_succ_of_le (Nat.le_trans hn hm))
          (hafter ▸ hplace'') with ⟨i, hi, hserved⟩
      exact ⟨i, by omega, hserved⟩

/-- As long as there is something to do for the zettel, it is served again, or one below it is. -/
theorem toDoUpTo_falls (hfair : s.Fair deeds z) {n : Nat} (hn : n₀ ≤ n)
    (hpos : 0 < (s.after deeds n).toDo z) :
    ∃ m ≥ n, (s.after deeds (m + 1)).toDoUpTo z < (s.after deeds m).toDoUpTo z := by
  suffices hserved : ∃ i ≥ n, ∃ y, ¬ z < y ∧
      (s.after deeds i).Served (s.after deeds (i + 1)) y by
    rcases hserved with ⟨i, hi, y, hy, hserved⟩
    exact ⟨i, hi, toDoUpTo_step_lt (h.after deeds i) (hquiet i (Nat.le_trans hn hi)) hy hserved⟩
  rcases toDo_pos hpos with hreadings | htimers | hcopies
  -- The worker takes an action only after it was answered.
  · rcases hfair.works n (.inl (reading_eq_some hreadings)) with ⟨m, hm, hread, -⟩
    have hless : (s.after deeds m).readings z < (s.after deeds n).readings z := by
      rwa [readings_of_none hread]
    rcases exists_falls (f := fun i => (s.after deeds i).readings z) hm hless with ⟨i, hi, hfalls⟩
    exact ⟨i, hi, z, z.lt_irrefl, .inl hfalls⟩
  · rcases List.countP_pos_iff.mp htimers with ⟨r, hr, hz⟩
    rcases hfair.fires n r hr (beq_iff_eq.mp hz) with ⟨m, hm, hstill, hdeed⟩
    have hfire := timers_fire hstill z
    rw [if_pos (beq_iff_eq.mp hz), ← hdeed] at hfire
    exact ⟨m, hm, z, z.lt_irrefl, .inr (.inl (Nat.lt_of_succ_le (Nat.le_of_eq hfire)))⟩
  · rcases exists_waits hcopies with ⟨place, hplace⟩
    exact exists_served h hquiet hfair hn hplace

/-- Once nobody but timers asks for the zettel or for one below it, nothing is left to be done. -/
theorem exists_atRest (hfair : s.Fair deeds z) :
    ∃ n ≥ n₀, ∀ m ≥ n, (s.after deeds m).AtRest z := by
  have hmono : ∀ n ≥ n₀, (s.after deeds (n + 1)).toDoUpTo z ≤ (s.after deeds n).toDoUpTo z :=
    fun n hn => toDoUpTo_step_le (h.after deeds n) (hquiet n hn)
  have hfalls : ∀ n ≥ n₀, 0 < (s.after deeds n).toDo z →
      ∃ m ≥ n, (s.after deeds (m + 1)).toDoUpTo z < (s.after deeds m).toDoUpTo z :=
    fun n hn hpos => toDoUpTo_falls h hquiet hfair hn hpos
  rcases exists_zero (f := fun n => (s.after deeds n).toDo z)
    (g := fun n => (s.after deeds n).toDoUpTo z) hmono hfalls with ⟨n, hn, hzero⟩
  refine ⟨n, hn, fun m hm => atRest_of_toDo ?_⟩
  induction hm with
  | refl => exact hzero
  | @step m hm ih =>
    have hle :=
      (toDo_step (h.after deeds m) (hquiet m (Nat.le_trans hn hm) z z.lt_irrefl)).1
    exact Nat.eq_zero_of_le_zero (ih ▸ hle)

end Quiet

/-- The readings of a zettel that can never be read end, where attempts can be counted. There are so
many for each request at most, and once nobody but timers asks for the zettel or for one below it,
nothing is left to be done for it. -/
theorem retries_end (config : IndexerConfig) (scan : Scanner) (z : Zid) (deeds : Nat → Deed)
    (hcount : config.maxRetries + 1 < UInt32.size) :
    let s := fresh config scan
    (∀ n, (∀ i < n, (s.after deeds i).Fails z (deeds i)) →
      s.fetchCount deeds z n ≤ s.askCount deeds z n * (config.maxRetries + 1)) ∧
    ∀ n₀, (∀ i ≥ n₀, (s.after deeds i).Quiet z (deeds i)) →
      ((∀ i, (s.after deeds i).Fails z (deeds i)) →
        ∀ n, s.fetchCount deeds z n ≤ s.askCount deeds z n₀ * (config.maxRetries + 1)) ∧
      ((∀ i ≥ n₀, ∀ y < z, (s.after deeds i).Quiet y (deeds i)) → s.Fair deeds z →
        ∃ n ≥ n₀, ∀ m ≥ n, (s.after deeds m).AtRest z) := by
  intro s
  refine ⟨fun n hfails => fetchCount_le hcount hfails, fun n₀ hquiet => ⟨fun hfails n => ?_, ?_⟩⟩
  · exact Nat.le_trans (fetchCount_le hcount fun i _ => hfails i)
      (Nat.mul_le_mul_right _ (askCount_le hquiet n))
  · intro hbelow hfair
    refine exists_atRest (orderly_fresh hcount) (fun i hi y hy => ?_) hfair
    rcases Nat.lt_or_eq_of_le (Nat.le_of_not_lt hy) with hlt | heq
    · exact hbelow i hi y hlt
    · exact Zid.val_inj.mp heq ▸ hquiet i hi

/-! ## 4. A zettel that is put off once -/

theorem step_work_single (x : Indexer) (z : Zid) (maxLoad : Nat)
    (listing : Except StoreError (List Zid)) :
    step ⟨{ x with anteroom := ⟨[Anteroom.single z .update], maxLoad⟩ }, none⟩ (.work listing) =
      ⟨{ x with anteroom := ⟨[], maxLoad⟩ }, some z⟩ := by
  rw [step_work rfl (Anteroom.dequeue_single z .update maxLoad)]
  rfl

theorem asks_work {listing : Except StoreError (List Zid)} {anteroom : Anteroom}
    (hread : s.reading = none)
    (hnext : s.indexer.anteroom.dequeue = (some (.update, y), anteroom)) :
    s.asks (.work listing) = [] := by
  simp only [asks, hread, hnext]

def oneRetry : IndexerConfig := { IndexerConfig.default with maxRetries := 1, retryDelayMs := 50 }

/-- The zettel is asked for once, and the box does not answer in time, now or later. The worker goes
on looking for work. -/
def timeouts : Nat → Deed
  | 0 => .start
  | 1 => .receive [⟨"", .onZettel, ⟨1⟩⟩]
  | 2 => .accept
  | 4 | 7 => .answer 0 (fun _ => false) (.error (.timeout ""))
  | 5 => .fire ⟨50, ⟨1⟩, .update⟩
  | _ => .work (.ok [])

/-- The desk between these steps. -/
def timeoutsDesk : Nat → Desk :=
  let x : Indexer :=
    { Indexer.new oneRetry fun _ _ => .empty with isStarted := true, isAwake := true }
  let y := x.putOff 0 .update ⟨1⟩
  fun
    | 0 => fresh oneRetry fun _ _ => .empty
    | 1 => ⟨x, none⟩
    | 2 => ⟨x.receive [⟨"", .onZettel, ⟨1⟩⟩], none⟩
    | 3 => ⟨{ x with anteroom := ⟨[Anteroom.single ⟨1⟩ .update], 100⟩ }, none⟩
    | 4 => ⟨x, some ⟨1⟩⟩
    | 5 => ⟨y, none⟩
    | 6 => ⟨y.fire ⟨50, ⟨1⟩, .update⟩, none⟩
    | 7 => ⟨{ y with retries := [] }, some ⟨1⟩⟩
    | _ => ⟨({ y with retries := [] } : Indexer).putOff 0 .update ⟨1⟩, none⟩

theorem timeoutsDesk_succ (n : Nat) :
    timeoutsDesk (n + 1) = (timeoutsDesk n).step (timeouts n) := by
  match n with
  | 0 | 1 | 2 | 4 | 7 => rfl
  | 3 => exact (step_work_single (timeoutsDesk 4).indexer ⟨1⟩ 100 (.ok [])).symm
  | 5 =>
    have hmem : (⟨50, ⟨1⟩, .update⟩ : Retry) ∈ (timeoutsDesk 5).indexer.retries := .head _
    exact (step_fire hmem).symm
  | 6 => exact (step_work_single (timeoutsDesk 7).indexer ⟨1⟩ 100 (.ok [])).symm
  | n + 8 => rfl

theorem after_timeouts (n : Nat) :
    (fresh oneRetry fun _ _ => .empty).after timeouts n = timeoutsDesk n := by
  induction n with
  | zero => rfl
  | succ n ih => rw [after, ih, timeoutsDesk_succ]

theorem reading_timeouts {n : Nat} (h : (timeoutsDesk n).reading = some ⟨1⟩) : n = 4 ∨ n = 7 := by
  match n with
  | 0 | 1 | 2 | 3 | 5 | 6 => cases h
  | 4 | 7 => decide
  | n + 8 => cases h

theorem retries_timeouts {n : Nat} {r : Retry} (h : r ∈ (timeoutsDesk n).indexer.retries) :
    n = 5 ∧ r = ⟨50, ⟨1⟩, .update⟩ := by
  match n with
  | 0 | 1 | 2 | 3 | 4 | 6 | 7 => cases h
  | 5 => exact ⟨rfl, List.mem_singleton.mp h⟩
  | n + 8 => cases h

theorem dequeue_timeouts {n : Nat} {next : Action × Zid}
    (h : (timeoutsDesk n).indexer.anteroom.dequeue.1 = some next) :
    (n = 3 ∨ n = 6) ∧ next = (.update, ⟨1⟩) := by
  match n with
  | 0 | 1 | 2 | 4 | 5 | 7 => cases h
  | 3 | 6 =>
    have hone := congrArg Prod.fst (Anteroom.dequeue_single ⟨1⟩ .update 100)
    exact ⟨by decide, Option.some.inj (h.symm.trans hone)⟩
  | n + 8 => cases h

theorem asks_timeouts {n : Nat} (h : 3 ≤ n) : (timeoutsDesk n).asks (timeouts n) = [] := by
  match n with
  | 3 | 6 => exact asks_work rfl (Anteroom.dequeue_single ⟨1⟩ .update 100)
  | 4 | 5 | 7 => rfl
  | n + 8 => rfl

theorem fetches_timeouts (n : Nat) :
    (timeoutsDesk n).fetches ⟨1⟩ (timeouts n) = (n == 3 || n == 6) := by
  match n with
  | 0 | 1 | 2 | 4 | 5 | 7 => rfl
  | 3 => exact fetches_work (s := timeoutsDesk 3) rfl (Anteroom.dequeue_single ⟨1⟩ .update 100)
  | 6 => exact fetches_work (s := timeoutsDesk 6) rfl (Anteroom.dequeue_single ⟨1⟩ .update 100)
  | n + 8 => rfl

theorem fails_timeouts (n : Nat) : (timeoutsDesk n).Fails ⟨1⟩ (timeouts n) := by
  refine ⟨fun now has result hdeed hreading => ?_, fun listing _ _ hdelete => ?_⟩
  · rcases reading_timeouts hreading with rfl | rfl <;> cases hdeed <;> exact ⟨_, rfl, rfl⟩
  · cases (dequeue_timeouts hdelete).2

theorem fair_timeouts : (fresh oneRetry fun _ _ => .empty).Fair timeouts ⟨1⟩ := by
  refine ⟨fun n _ => ⟨n + 8, Nat.le_add_right n 8, ?_, .ok [], rfl⟩, fun n r hr _ => ?_⟩
  · rw [after_timeouts]
    rfl
  · have hn := hr
    rw [after_timeouts] at hn
    rcases retries_timeouts hn with ⟨rfl, rfl⟩
    exact ⟨5, Nat.le_refl _, hr, rfl⟩

/-- Both readings that the one request may lead to take place. -/
theorem retries_end_of_timeouts :
    let s := fresh oneRetry fun _ _ => .empty
    oneRetry.maxRetries + 1 < UInt32.size ∧ (∀ i, (s.after timeouts i).Fails ⟨1⟩ (timeouts i)) ∧
      (∀ i ≥ 3, ∀ y, (s.after timeouts i).Quiet y (timeouts i)) ∧ s.Fair timeouts ⟨1⟩ ∧
      s.askCount timeouts ⟨1⟩ 3 = 1 ∧ s.fetchCount timeouts ⟨1⟩ 8 = 2 ∧
      (∀ n, s.fetchCount timeouts ⟨1⟩ n ≤
        s.askCount timeouts ⟨1⟩ n * (oneRetry.maxRetries + 1)) ∧
      (∀ n, s.fetchCount timeouts ⟨1⟩ n ≤
        s.askCount timeouts ⟨1⟩ 3 * (oneRetry.maxRetries + 1)) ∧
      ∃ n ≥ 3, ∀ m ≥ n, (s.after timeouts m).AtRest ⟨1⟩ := by
  intro s
  have hcount : oneRetry.maxRetries + 1 < UInt32.size := by decide
  have hfails : ∀ i, (s.after timeouts i).Fails ⟨1⟩ (timeouts i) := by
    intro i
    rw [after_timeouts]
    exact fails_timeouts i
  have hquiet : ∀ i ≥ 3, ∀ y, (s.after timeouts i).Quiet y (timeouts i) := by
    intro i hi y
    unfold Quiet
    rw [after_timeouts, asks_timeouts hi]
    exact ⟨List.not_mem_nil, List.not_mem_nil⟩
  have hfetched : s.fetchCount timeouts ⟨1⟩ 8 = 2 := by
    simp only [fetchCount, s, after_timeouts, fetches_timeouts]
    rfl
  have hend := retries_end oneRetry (fun _ _ => .empty) ⟨1⟩ timeouts hcount
  have hlater := hend.2 3 fun i hi => hquiet i hi ⟨1⟩
  exact ⟨hcount, hfails, hquiet, fair_timeouts, rfl, hfetched,
    fun n => hend.1 n fun i _ => hfails i, hlater.1 hfails,
    hlater.2 (fun i hi y _ => hquiet i hi y) fair_timeouts⟩

/-! ## 5. A zettel that waits for ever -/

/-- One zettel is asked for, and then another one below it again and again, whose reading fails for
good each time. -/
def starving : Nat → Deed
  | 0 => .start
  | 1 => .receive [⟨"", .onZettel, ⟨2⟩⟩]
  | 2 => .accept
  | 3 => .receive [⟨"", .onZettel, ⟨1⟩⟩]
  | 4 => .accept
  | 5 => .work (.ok [])
  | 6 => .answer 0 (fun _ => false) (.error (.internal ""))
  | n + 7 => starving (n + 3)

def started : Indexer :=
  { Indexer.new .default fun _ _ => .empty with isStarted := true, isAwake := true }

/-- One zettel waits. -/
def waiting : Indexer := { started with anteroom := ⟨[Anteroom.single ⟨2⟩ .update], 100⟩ }

/-- The desk between these steps. -/
def starvingDesk : Nat → Desk
  | 0 => fresh .default fun _ _ => .empty
  | 1 => ⟨started, none⟩
  | 2 => ⟨started.receive [⟨"", .onZettel, ⟨2⟩⟩], none⟩
  | 3 => ⟨waiting, none⟩
  | 4 => ⟨waiting.receive [⟨"", .onZettel, ⟨1⟩⟩], none⟩
  | 5 => ⟨{ waiting with anteroom := waiting.anteroom.enqueue ⟨1⟩ .update }, none⟩
  | 6 => ⟨waiting, some ⟨1⟩⟩
  | n + 7 => starvingDesk (n + 3)

/-- The one below comes first. -/
theorem dequeue_waiting :
    (waiting.anteroom.enqueue ⟨1⟩ .update).dequeue = (some (.update, ⟨1⟩), waiting.anteroom) := by
  unfold waiting
  cbv

theorem starvingDesk_succ (n : Nat) :
    starvingDesk (n + 1) = (starvingDesk n).step (starving n) := by
  match n with
  | 0 | 1 | 2 | 3 | 4 | 6 => rfl
  | 5 =>
    have hwork : (starvingDesk 5).step (.work (.ok [])) = _ := step_work rfl dequeue_waiting
    exact hwork.symm
  | n + 7 => exact starvingDesk_succ (n + 3)

theorem after_starving (n : Nat) :
    (fresh .default fun _ _ => .empty).after starving n = starvingDesk n := by
  induction n with
  | zero => rfl
  | succ n ih => rw [after, ih, starvingDesk_succ]

/-- All that there is to say about the one that waits. -/
structure Starves (s : Desk) (d : Deed) : Prop where
  reading : s.reading ≠ some ⟨2⟩
  retries : s.indexer.retries = []
  waits : 0 < s.copies isOrdinary ⟨2⟩
  quiet : s.Quiet ⟨2⟩ d
  next (listing : Except StoreError (List Zid)) :
    d = .work listing → s.reading = none ∧ s.indexer.anteroom.dequeue.1 = some (.update, ⟨1⟩)

theorem starving_work (n : Nat) : starving (4 * n + 5) = .work (.ok []) := by
  induction n with
  | zero => rfl
  | succ n ih => exact ih

theorem starves (n : Nat) : (starvingDesk (n + 3)).Starves (starving (n + 3)) := by
  match n with
  | 0 | 1 | 3 => exact ⟨by decide, rfl, by decide, ⟨by decide, by decide⟩, nofun⟩
  | 2 =>
    have hnext : (starvingDesk 5).indexer.anteroom.dequeue = _ := dequeue_waiting
    have hasks : (starvingDesk 5).asks (.work (.ok [])) = [] := asks_work rfl hnext
    refine ⟨nofun, rfl, by decide, ?_, fun listing _ => ⟨rfl, congrArg Prod.fst hnext⟩⟩
    unfold Quiet
    rw [show starving (2 + 3) = .work (.ok []) from rfl, hasks]
    exact ⟨List.not_mem_nil, List.not_mem_nil⟩
  | n + 4 => exact starves n

/-! ## 6. A zettel that is read for ever -/

/-- As many retries as there are words for. -/
def untiring : IndexerConfig :=
  { IndexerConfig.default with maxRetries := 4294967295, retryDelayMs := 50 }

/-- The zettel is asked for once, and the box never answers in time. -/
def recounting : Nat → Deed
  | 0 => .start
  | 1 => .receive [⟨"", .onZettel, ⟨1⟩⟩]
  | 2 => .accept
  | 3 => .work (.ok [])
  | 4 => .answer 0 (fun _ => false) (.error (.timeout ""))
  | 5 => .fire ⟨50, ⟨1⟩, .update⟩
  | n + 6 => recounting (n + 3)

/-- The zettel waits after so many failed readings, which are counted in words. -/
structure Retrying (s : Desk) (q : Nat) : Prop where
  config : s.indexer.config = untiring
  reading : s.reading = none
  anteroom : s.indexer.anteroom = ⟨[Anteroom.single ⟨1⟩ .update], 100⟩
  retries : s.indexer.retries = []
  attempts : s.indexer.attempts.getD ⟨1⟩ 0 = UInt32.ofNat q

theorem Retrying.dequeue {q : Nat} (h : s.Retrying q) :
    s.indexer.anteroom.dequeue = (some (.update, ⟨1⟩), ⟨[], 100⟩) :=
  h.anteroom ▸ Anteroom.dequeue_single ⟨1⟩ .update 100

/-- No word is above the limit. -/
theorem Retrying.next {q : Nat} (h : s.Retrying q) :
    Retrying (((s.step (.work (.ok []))).step
      (.answer 0 (fun _ => false) (.error (.timeout "")))).step (.fire ⟨50, ⟨1⟩, .update⟩))
      (q + 1) := by
  let x : Indexer := { s.indexer with anteroom := ⟨[], 100⟩ }
  have hwork : s.step (.work (.ok [])) = ⟨x, some ⟨1⟩⟩ := step_work h.reading h.dequeue
  have hnever : ¬ x.config.maxRetries < (x.attempts.getD ⟨1⟩ 0 + 1).toNat := by
    rw [show x.config = untiring from h.config]
    exact Nat.not_lt_of_le (Nat.le_of_lt_succ (UInt32.toNat_lt _))
  have hputOff : x.putOff 0 .update ⟨1⟩ =
      { x with
        attempts := x.attempts.insert ⟨1⟩ (x.attempts.getD ⟨1⟩ 0 + 1)
        counters := { x.counters with retries := x.counters.retries + 1 }
        retries := [⟨50, ⟨1⟩, .update⟩] } := by
    unfold Indexer.putOff
    dsimp only
    rw [if_neg hnever, show x.retries = [] from h.retries, show x.config = untiring from h.config]
    rfl
  have hanswer : step ⟨x, some ⟨1⟩⟩ (.answer 0 (fun _ => false) (.error (.timeout ""))) =
      ⟨x.putOff 0 .update ⟨1⟩, none⟩ := rfl
  have hmem : (⟨50, ⟨1⟩, .update⟩ : Retry) ∈ (x.putOff 0 .update ⟨1⟩).retries := by
    rw [hputOff]
    exact .head _
  rw [hwork, hanswer, step_fire hmem, hputOff]
  refine ⟨h.config, rfl, rfl, rfl, ?_⟩
  show (x.attempts.insert ⟨1⟩ (x.attempts.getD ⟨1⟩ 0 + 1)).getD ⟨1⟩ 0 = _
  rw [getD_insert_eq, if_pos rfl, show x.attempts.getD ⟨1⟩ 0 = _ from h.attempts, UInt32.ofNat_add]
  rfl

/-- The zettel is taken, cannot be read, and is asked for again. -/
theorem recounting_round (q : Nat) : recounting (3 * q + 3) = .work (.ok []) ∧
    recounting (3 * q + 4) = .answer 0 (fun _ => false) (.error (.timeout "")) ∧
      recounting (3 * q + 5) = .fire ⟨50, ⟨1⟩, .update⟩ := by
  induction q with
  | zero => exact ⟨rfl, rfl, rfl⟩
  | succ q ih => exact ih

/-- The desk of these steps. -/
def recountingDesk (n : Nat) : Desk := (fresh untiring fun _ _ => .empty).after recounting n

theorem recountingDesk_round (q : Nat) : recountingDesk (3 * (q + 1) + 3) =
    (((recountingDesk (3 * q + 3)).step (.work (.ok []))).step
      (.answer 0 (fun _ => false) (.error (.timeout "")))).step (.fire ⟨50, ⟨1⟩, .update⟩) := by
  rcases recounting_round q with ⟨hwork, hanswer, hfire⟩
  rw [← hwork, ← hanswer, ← hfire]
  rfl

theorem retrying (q : Nat) : (recountingDesk (3 * q + 3)).Retrying q := by
  induction q with
  | zero => exact ⟨rfl, rfl, rfl, rfl, Std.ExtTreeMap.getD_empty⟩
  | succ q ih =>
    rw [recountingDesk_round]
    exact ih.next

theorem fails_recounting (n : Nat) : (recountingDesk n).Fails ⟨1⟩ (recounting n) := by
  match n with
  | 0 | 1 | 2 => exact ⟨nofun, nofun⟩
  | n + 3 =>
    have hround : ∃ q, n = 3 * q ∨ n = 3 * q + 1 ∨ n = 3 * q + 2 := ⟨n / 3, by omega⟩
    rcases hround with ⟨q, rfl | rfl | rfl⟩
    · rw [(recounting_round q).1]
      refine ⟨nofun, fun _ _ _ hdelete => ?_⟩
      rw [(retrying q).dequeue] at hdelete
      cases hdelete
    · rw [show 3 * q + 1 + 3 = 3 * q + 4 from rfl, (recounting_round q).2.1]
      refine ⟨fun now has result hdeed _ => ?_, nofun⟩
      cases hdeed
      exact ⟨_, rfl, rfl⟩
    · rw [show 3 * q + 2 + 3 = 3 * q + 5 from rfl, (recounting_round q).2.2]
      exact ⟨nofun, nofun⟩

theorem asks_timeout (s : Desk) (now : Nat) (has : Zid → Bool) (operation : String) :
    s.asks (.answer now has (.error (.timeout operation))) = [] := by
  cases hread : s.reading <;> simp only [asks, hread]

/-- One reading in each round, and none of them is asked for. -/
theorem counts_recounting (q : Nat) :
    let s := fresh untiring fun _ _ => .empty
    s.fetchCount recounting ⟨1⟩ (3 * q + 3) = q ∧ s.askCount recounting ⟨1⟩ (3 * q + 3) = 1 := by
  intro s
  induction q with
  | zero => exact ⟨rfl, rfl⟩
  | succ q ih =>
    rcases recounting_round q with ⟨hwork, hanswer, hfire⟩
    have hnext := (retrying q).dequeue
    have hfetched : (recountingDesk (3 * q + 3)).fetches ⟨1⟩ (.work (.ok [])) = true := by
      rw [fetches_work (retrying q).reading hnext]
      exact beq_self_eq_true _
    refine ⟨?_, ?_⟩
    · show s.fetchCount recounting ⟨1⟩ (3 * q + 3) +
          (if (recountingDesk (3 * q + 3)).fetches ⟨1⟩ (recounting (3 * q + 3)) then 1 else 0) +
          (if (recountingDesk (3 * q + 4)).fetches ⟨1⟩ (recounting (3 * q + 4)) then 1 else 0) +
          (if (recountingDesk (3 * q + 5)).fetches ⟨1⟩ (recounting (3 * q + 5)) then 1 else 0) = _
      rw [hwork, hanswer, hfire, ih.1, if_pos hfetched]
      rfl
    · show s.askCount recounting ⟨1⟩ (3 * q + 3) +
          (recountingDesk (3 * q + 3)).requests ⟨1⟩ (recounting (3 * q + 3)) +
          (recountingDesk (3 * q + 4)).requests ⟨1⟩ (recounting (3 * q + 4)) +
          (recountingDesk (3 * q + 5)).requests ⟨1⟩ (recounting (3 * q + 5)) = _
      rw [hwork, hanswer, hfire, ih.2]
      unfold requests
      rw [asks_work (retrying q).reading hnext, asks_timeout]
      rfl

/-- Where one below the zettel is asked for again and again, the zettel waits for ever though nobody
asks for it any more; and where no word is above the limit, one request leads to readings without
end. -/
theorem starved_and_recounted :
    let s := fresh .default fun _ _ => .empty
    let t := fresh untiring fun _ _ => .empty
    ((∀ i, (s.after starving i).Fails ⟨2⟩ (starving i)) ∧
      (∀ i ≥ 3, (s.after starving i).Quiet ⟨2⟩ (starving i)) ∧ s.Fair starving ⟨2⟩ ∧
      s.askCount starving ⟨2⟩ 3 = 1 ∧ ∀ n ≥ 3, ¬ (s.after starving n).AtRest ⟨2⟩) ∧
    (∀ i, (t.after recounting i).Fails ⟨1⟩ (recounting i)) ∧
      ∃ n, t.askCount recounting ⟨1⟩ n * (untiring.maxRetries + 1) <
        t.fetchCount recounting ⟨1⟩ n := by
  intro s t
  have hstarves : ∀ n ≥ 3, (s.after starving n).Starves (starving n) := by
    intro n hn
    rw [after_starving, ← Nat.sub_add_cancel hn]
    exact starves (n - 3)
  have hfails : ∀ i, (s.after starving i).Fails ⟨2⟩ (starving i) := by
    intro i
    match i with
    | 0 | 1 | 2 => exact ⟨nofun, nofun⟩
    | i + 3 =>
      have hstarves := hstarves (i + 3) (Nat.le_add_left 3 i)
      refine ⟨fun _ _ _ _ hread => absurd hread hstarves.reading, fun listing hdeed _ hnext => ?_⟩
      rw [(hstarves.next listing hdeed).2] at hnext
      cases hnext
  have hfair : s.Fair starving ⟨2⟩ := by
    refine ⟨fun n _ => ⟨4 * n + 5, by omega, ?_, .ok [], starving_work n⟩, fun n r hr _ => ?_⟩
    · exact ((hstarves (4 * n + 5) (by omega)).next _ (starving_work n)).1
    · match n with
      | 0 | 1 | 2 => cases hr
      | n + 3 =>
        rw [(hstarves (n + 3) (Nat.le_add_left 3 n)).retries] at hr
        cases hr
  have hnever : ∀ n ≥ 3, ¬ (s.after starving n).AtRest ⟨2⟩ := by
    intro n hn hrest
    exact Nat.ne_of_gt (hstarves n hn).waits hrest.copies
  refine ⟨⟨hfails, fun i hi => (hstarves i hi).quiet, hfair, rfl, hnever⟩, fails_recounting,
    3 * 4294967297 + 3, ?_⟩
  rw [(counts_recounting _).1, (counts_recounting _).2]
  decide

end Desk

end Kasten.Index
