import Kasten.Proofs.Index.Waiting

/-!
# Readings that are paid for

A zettel that cannot be read for the time being is put off, and a timer asks for it again. The
timers of one zettel and the counter of its failed readings come from different requests, which
overtake each other and fall together in the anteroom. Still each request from outside pays for
all the readings that it may lead to.
-/

namespace Kasten.Index

namespace Desk

variable {s : Desk} {z : Zid} {d : Deed}

/-! ## 1. Readings still to come -/

/-- Only readings that are asked for count here. -/
def isUpdate (action : Action) : Bool := action == .update

/-- How often the zettel may still be read. A request that waits in the anteroom, at a timer or
with the worker pays for as many readings as may fail in a row, less those that failed already. -/
def toCome (s : Desk) (p : Action → Bool) (z : Zid) : Nat :=
  (s.indexer.config.maxRetries + 1) * (s.copies p z + s.timers z + s.readings z) -
    (s.attempts z + s.readings z)

theorem asksFor_isUpdate (s : Desk) (z : Zid) (d : Deed) :
    s.asksFor isUpdate z d = s.requests z d := by
  simp [asksFor, requests, isUpdate]

theorem Fails.forgets (h : s.Fails z d) : s.forgets z d = false := by
  cases hforgets : s.forgets z d with
  | false => rfl
  | true =>
    cases d with
    | work listing =>
      rcases Bool.and_eq_true_iff.mp hforgets with ⟨hread, hnext⟩
      exact absurd (eq_of_beq hnext) (h.kept listing rfl (eq_of_beq hread))
    | _ => cases hforgets

/-! ## 2. What holds from the start -/

/-- Attempts are counted within the limit, and the anteroom is in order. -/
structure Orderly (s : Desk) : Prop where
  counts : s.CanCount
  limit (z : Zid) : s.WithinLimit z
  tidy : s.indexer.anteroom.Tidy

theorem Orderly.step (h : s.Orderly) (d : Deed) : (s.step d).Orderly := by
  refine ⟨?_, fun z => ?_, tidy_step h.tidy d⟩
  · unfold CanCount
    rw [config_step]
    exact h.counts
  · have hlimit := h.limit z
    have hturn := turn_step h.counts hlimit d
    unfold WithinLimit at hlimit ⊢
    rw [config_step]
    cases hturn with
    | elsewhere _ _ hattempts => omega
    | fetched _ _ hattempts => omega
    | putOff _ _ hattempts hless => omega
    | givenUp _ _ hattempts => omega
    | settled _ _ hattempts => omega
    | forgotten _ _ _ hattempts => omega
    | fired _ _ hattempts => omega

/-- A reading is one less to come, and a request is as many more as may fail in a row. A zettel that
is forgotten starts to count anew, so its deletion has to be paid for as well. -/
theorem toCome_step {p : Action → Bool} (h : s.Orderly) (hupdate : p .update = true)
    (hreload : p .reload = false) (hdelete : s.forgets z d = true → p .delete = true) :
    (s.step d).toCome p z + (if s.fetches z d = true then 1 else 0) ≤
      s.toCome p z + (s.indexer.config.maxRetries + 1) * s.asksFor p z d := by
  have hlimit := h.limit z
  have hturn := turn_step h.counts hlimit d
  unfold toCome
  unfold WithinLimit at hlimit
  rw [config_step]
  generalize s.indexer.config.maxRetries = limit at hlimit hturn ⊢
  generalize hpay : limit + 1 = pay
  cases hturn with
  | elsewhere hread htimers hattempts hcopies hfetch =>
    have hle := hcopies p hreload
    rw [hread, htimers, hattempts, hfetch, if_neg Bool.false_ne_true]
    have hpaid : pay * ((s.step d).copies p z + s.timers z + s.readings z) ≤
        pay * (s.copies p z + s.timers z + s.readings z) + pay * s.asksFor p z d := by
      rw [← Nat.mul_add]
      exact Nat.mul_le_mul_left pay (by omega)
    omega
  | fetched hread htimers hattempts hcopies hfetch =>
    have htaken := hcopies p hupdate
    have hsame : (s.step d).copies p z + (s.step d).timers z + (s.step d).readings z =
        s.copies p z + s.timers z + s.readings z := by
      omega
    have hpaid : pay ≤ pay * (s.copies p z + s.timers z + s.readings z) :=
      Nat.le_mul_of_pos_right pay (by omega)
    rw [hsame, if_pos hfetch]
    omega
  | putOff hread htimers hattempts hless hcopies hfetch =>
    have hsame : (s.step d).copies p z + (s.step d).timers z + (s.step d).readings z =
        s.copies p z + s.timers z + s.readings z := by
      have hkept := hcopies p
      omega
    rw [hsame, hfetch, if_neg Bool.false_ne_true]
    omega
  | givenUp hread htimers hattempts hmore hcopies hfetch =>
    -- What the request paid for is used up.
    have hless : s.copies p z + s.timers z + s.readings z =
        (s.step d).copies p z + (s.step d).timers z + (s.step d).readings z + 1 := by
      have hkept := hcopies p
      omega
    rw [hless, Nat.mul_succ, hfetch, if_neg Bool.false_ne_true]
    omega
  | settled hread htimers hattempts hcopies hfetch =>
    -- What it paid for is more than what was read.
    have hpaid : pay * ((s.step d).copies p z + (s.step d).timers z + (s.step d).readings z) +
        pay ≤ pay * (s.copies p z + s.timers z + s.readings z) + pay * s.asksFor p z d := by
      rw [← Nat.mul_succ, ← Nat.mul_add]
      have hle := hcopies p hreload
      exact Nat.mul_le_mul_left pay (by omega)
    rw [hfetch, if_neg Bool.false_ne_true]
    omega
  | forgotten hforgets hread htimers hattempts hcopies hfetch =>
    have hpaid : pay * ((s.step d).copies p z + (s.step d).timers z + (s.step d).readings z) +
        pay ≤ pay * (s.copies p z + s.timers z + s.readings z) + pay * s.asksFor p z d := by
      rw [← Nat.mul_succ, ← Nat.mul_add]
      have hle := hcopies p hreload
      rw [if_pos (hdelete hforgets)] at hle
      exact Nat.mul_le_mul_left pay (by omega)
    rw [hfetch, if_neg Bool.false_ne_true]
    omega
  | fired hread htimers hattempts hcopies hfetch =>
    have hpaid : pay * ((s.step d).copies p z + (s.step d).timers z + (s.step d).readings z) ≤
        pay * (s.copies p z + s.timers z + s.readings z) := by
      have hmore := hcopies p
      exact Nat.mul_le_mul_left pay (by omega)
    rw [hfetch, if_neg Bool.false_ne_true]
    omega

/-! ## 3. Runs -/

/-- The desk after so many steps of a run. -/
def after (s : Desk) (deeds : Nat → Deed) : Nat → Desk
  | 0 => s
  | n + 1 => (s.after deeds n).step (deeds n)

/-- How often the zettel was taken to be read by then. -/
def fetchCount (s : Desk) (deeds : Nat → Deed) (z : Zid) : Nat → Nat
  | 0 => 0
  | n + 1 =>
    s.fetchCount deeds z n + if (s.after deeds n).fetches z (deeds n) = true then 1 else 0

/-- How often the zettel was asked for by then, but not by timers. -/
def askCount (s : Desk) (deeds : Nat → Deed) (z : Zid) : Nat → Nat
  | 0 => 0
  | n + 1 => s.askCount deeds z n + (s.after deeds n).requests z (deeds n)

section Runs

variable {deeds : Nat → Deed} {n₀ : Nat}

theorem config_after (s : Desk) (deeds : Nat → Deed) (n : Nat) :
    (s.after deeds n).indexer.config = s.indexer.config := by
  induction n with
  | zero => rfl
  | succ n ih => exact (config_step _ _).trans ih

theorem Orderly.after (h : s.Orderly) (deeds : Nat → Deed) (n : Nat) :
    (s.after deeds n).Orderly := by
  induction n with
  | zero => exact h
  | succ n ih => exact ih.step (deeds n)

/-- What was read and may still be read was paid for at the start or by a request since then. -/
theorem fetchCount_add_toCome_le (h : s.Orderly) {n : Nat}
    (hfails : ∀ i < n, (s.after deeds i).Fails z (deeds i)) :
    s.fetchCount deeds z n + (s.after deeds n).toCome isUpdate z ≤
      s.toCome isUpdate z + (s.indexer.config.maxRetries + 1) * s.askCount deeds z n := by
  induction n with
  | zero => exact Nat.le_of_eq (Nat.add_comm _ _)
  | succ n ih =>
    have hforgets := (hfails n n.lt_succ_self).forgets
    have hstep := toCome_step (p := isUpdate) (h.after deeds n) rfl rfl fun hforgotten =>
      absurd hforgotten (ne_true_of_eq_false hforgets)
    have hrest := ih fun i hi => hfails i (Nat.lt_succ_of_lt hi)
    have hafter : s.after deeds (n + 1) = (s.after deeds n).step (deeds n) := rfl
    rw [config_after, asksFor_isUpdate] at hstep
    rw [fetchCount, askCount, Nat.mul_add, hafter]
    omega

theorem askCount_mono {n m : Nat} (h : n ≤ m) : s.askCount deeds z n ≤ s.askCount deeds z m := by
  induction h with
  | refl => exact Nat.le_refl _
  | step _ ih => exact Nat.le_trans ih (Nat.le_add_right _ _)

theorem askCount_le (hquiet : ∀ i ≥ n₀, (s.after deeds i).Quiet z (deeds i)) (n : Nat) :
    s.askCount deeds z n ≤ s.askCount deeds z n₀ := by
  rcases Nat.le_total n n₀ with hn | hn
  · exact askCount_mono hn
  · induction hn with
    | refl => exact Nat.le_refl _
    | step hn ih =>
      rw [askCount, (hquiet _ hn).requests]
      exact ih

end Runs

/-! ## 4. A new indexer -/

/-- A new indexer, before its first step. -/
def fresh (config : IndexerConfig) (scan : Scanner) : Desk := ⟨.new config scan, none⟩

section Fresh

variable {config : IndexerConfig} {scan : Scanner}

theorem attempts_fresh (z : Zid) : (fresh config scan).attempts z = 0 := by
  have hnone : (∅ : Std.ExtTreeMap Zid UInt32).getD z 0 = 0 := Std.ExtTreeMap.getD_empty
  exact congrArg UInt32.toNat hnone

theorem orderly_fresh (hcount : config.maxRetries + 1 < UInt32.size) :
    (fresh config scan).Orderly := by
  refine ⟨hcount, fun z => ?_, ?_⟩
  · exact Nat.le_trans (Nat.le_of_eq (attempts_fresh z)) (Nat.zero_le _)
  · exact Anteroom.tidyRooms_nil

theorem toCome_fresh (p : Action → Bool) (z : Zid) : (fresh config scan).toCome p z = 0 := by
  unfold toCome
  rw [attempts_fresh]
  rfl

/-- A zettel that can never be read is read so many times at most for each request. -/
theorem fetchCount_le (hcount : config.maxRetries + 1 < UInt32.size) {deeds : Nat → Deed} {n : Nat}
    (hfails : ∀ i < n, ((fresh config scan).after deeds i).Fails z (deeds i)) :
    (fresh config scan).fetchCount deeds z n ≤
      (fresh config scan).askCount deeds z n * (config.maxRetries + 1) := by
  have hpaid := fetchCount_add_toCome_le (orderly_fresh hcount) hfails
  rw [toCome_fresh, Nat.zero_add, Nat.mul_comm] at hpaid
  exact Nat.le_trans (Nat.le_add_right _ _) hpaid

end Fresh

end Desk

end Kasten.Index
