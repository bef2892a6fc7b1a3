import Kasten.Config.Basic
import Kasten.Files.Pool
import Mathlib.NumberTheory.Bertrand
import Mathlib.Order.Bounds.Basic
import Mathlib.Tactic.NormNum.Prime

/-!
# Numbers of workers are prime

Trial division by odd numbers tells primes from other numbers, since the least divisor of an odd
number is odd and its square is not above the number. The search for the next prime ends before
the double of the number, where there is a prime, so it never runs out of tries. Since 1499 is
prime, rounding up does not lead out of the bounds of a pool.
-/

namespace Kasten.Files

/-! ## 1. Trial division -/

theorem hasDivisorFrom_iff {n d : Nat} :
    hasDivisorFrom n d = true ↔ ∃ k, (d + 2 * k) * (d + 2 * k) ≤ n ∧ n % (d + 2 * k) = 0 := by
  fun_induction hasDivisorFrom n d with
  | case1 d hle hdvd => exact iff_of_true rfl ⟨0, hle, hdvd⟩
  | case2 d hle hdvd ih =>
    rw [ih]
    constructor
    · rintro ⟨k, hk⟩
      refine ⟨k + 1, ?_⟩
      rwa [Nat.mul_succ, Nat.add_comm (2 * k), ← Nat.add_assoc]
    · rintro ⟨k, hk⟩
      -- The number itself is no divisor, so it is one of the later ones.
      cases k with
      | zero => exact absurd hk.2 hdvd
      | succ k =>
        refine ⟨k, ?_⟩
        rwa [Nat.mul_succ, Nat.add_comm (2 * k), ← Nat.add_assoc] at hk
  | case3 d hlt =>
    -- The later divisors have larger squares still.
    refine iff_of_false Bool.false_ne_true ?_
    rintro ⟨k, hk, -⟩
    have hle : d ≤ d + 2 * k := Nat.le_add_right _ _
    exact hlt ((Nat.mul_le_mul hle hle).trans hk)

/-- An odd number that is no prime has an odd divisor that trial division meets. -/
theorem hasDivisorFrom_of_not_prime {n : Nat} (hn : 3 < n) (hodd : n % 2 ≠ 0) (h : ¬ n.Prime) :
    hasDivisorFrom n 3 = true := by
  have hprime : n.minFac.Prime := Nat.minFac_prime (by omega)
  have hdvd : n % n.minFac = 0 := Nat.mod_eq_zero_of_dvd n.minFac_dvd
  have hsquare : n.minFac * n.minFac ≤ n := by
    have hsq := Nat.minFac_sq_le_self (by omega) h
    rwa [Nat.pow_two] at hsq
  -- The least divisor of an odd number is odd, and trial division starts at 3.
  have hne : n.minFac ≠ 2 := by
    intro htwo
    exact hodd (htwo ▸ hdvd)
  have hthree : 3 ≤ n.minFac := by
    have htwo := hprime.two_le
    omega
  have hminodd : n.minFac % 2 = 1 := hprime.eq_two_or_odd.resolve_left hne
  refine hasDivisorFrom_iff.mpr ⟨(n.minFac - 3) / 2, ?_⟩
  rw [show 3 + 2 * ((n.minFac - 3) / 2) = n.minFac by omega]
  exact ⟨hsquare, hdvd⟩

theorem not_prime_of_hasDivisorFrom {n : Nat} (hn : 3 < n) (h : hasDivisorFrom n 3 = true) :
    ¬ n.Prime := by
  intro hprime
  rcases hasDivisorFrom_iff.mp h with ⟨k, hle, hdvd⟩
  rcases hprime.eq_one_or_self_of_dvd _ (Nat.dvd_of_mod_eq_zero hdvd) with hone | hself
  · omega
  · rw [hself] at hle
    have hlt : n * 1 < n * n := Nat.mul_lt_mul_of_pos_left (by omega) (by omega)
    omega

theorem isPrime_iff {n : Nat} : isPrime n = true ↔ n = 1 ∨ n.Prime := by
  unfold isPrime
  by_cases hzero : n = 0
  · subst hzero
    decide
  rw [if_neg hzero]
  by_cases hsmall : n ≤ 3
  · have hpos : 0 < n := Nat.pos_of_ne_zero hzero
    rw [if_pos hsmall]
    interval_cases n <;> decide
  rw [if_neg hsmall]
  have hone : n ≠ 1 := by omega
  by_cases heven : n % 2 = 0
  · rw [if_pos heven]
    refine iff_of_false Bool.false_ne_true ?_
    rintro (rfl | hprime)
    · exact hone rfl
    · have htwo := (Nat.Prime.even_iff hprime).mp (Nat.even_iff.mpr heven)
      omega
  rw [if_neg heven]
  constructor
  · intro hfree
    refine Or.inr (by_contra fun hprime => ?_)
    rw [hasDivisorFrom_of_not_prime (by omega) heven hprime] at hfree
    cases hfree
  · rintro (rfl | hprime)
    · exact absurd rfl hone
    · cases hdiv : hasDivisorFrom n 3 with
      | false => rfl
      | true => exact absurd hprime (not_prime_of_hasDivisorFrom (by omega) hdiv)

/-! ## 2. The next prime -/

/-- The search ends at the least number that is accepted, if it has the tries to get there. -/
theorem primeFrom_eq {n p tries : Nat} (hp : IsLeast {m | n ≤ m ∧ isPrime m = true} p)
    (htries : p ≤ n + tries) : primeFrom n tries = p := by
  induction tries generalizing n with
  | zero => exact Nat.le_antisymm hp.1.1 htries
  | succ tries ih =>
    rw [primeFrom]
    by_cases hn : isPrime n = true
    · rw [if_pos hn]
      exact Nat.le_antisymm hp.1.1 (hp.2 ⟨Nat.le_refl n, hn⟩)
    · rw [if_neg hn]
      have hne : n ≠ p := by
        rintro rfl
        exact hn hp.1.2
      have hlt : n < p := Nat.lt_of_le_of_ne hp.1.1 hne
      have hleast : IsLeast {m | n + 1 ≤ m ∧ isPrime m = true} p :=
        ⟨⟨hlt, hp.1.2⟩, fun m hm => hp.2 ⟨Nat.le_of_succ_le hm.1, hm.2⟩⟩
      exact ih hleast (by omega)

/-- There is a prime between a number and its double. -/
theorem exists_isPrime (n : Nat) : ∃ p, n ≤ p ∧ isPrime p = true ∧ p ≤ n + (n + 1) := by
  by_cases hn : n = 0
  · -- There is no prime between zero and its double, but 1 is accepted.
    subst hn
    exact ⟨1, by decide, by decide, by decide⟩
  · rcases Nat.exists_prime_lt_and_le_two_mul n hn with ⟨p, hp, hlt, hle⟩
    exact ⟨p, hlt.le, isPrime_iff.mpr (Or.inr hp), by omega⟩

theorem exists_isLeast (n : Nat) :
    ∃ p, IsLeast {m | n ≤ m ∧ isPrime m = true} p ∧ p ≤ n + (n + 1) := by
  rcases exists_isPrime n with ⟨q, hq, hprime, hle⟩
  have hex : ∃ m, n ≤ m ∧ isPrime m = true := ⟨q, hq, hprime⟩
  have hleast : IsLeast {m | n ≤ m ∧ isPrime m = true} (Nat.find hex) :=
    ⟨Nat.find_spec hex, fun m hm => Nat.find_min' hex hm⟩
  exact ⟨Nat.find hex, hleast, (hleast.2 ⟨hq, hprime⟩).trans hle⟩

theorem isLeast_nextPrime (n : Nat) :
    IsLeast {m | n ≤ m ∧ isPrime m = true} (nextPrime n) := by
  rcases exists_isLeast n with ⟨p, hp, hle⟩
  unfold nextPrime
  rwa [primeFrom_eq hp hle]

theorem nextPrime_le (n : Nat) : nextPrime n ≤ n + (n + 1) := by
  rcases exists_isLeast n with ⟨p, hp, hle⟩
  rwa [(isLeast_nextPrime n).unique hp]

theorem nextPrime_of_isPrime {n : Nat} (h : isPrime n = true) : nextPrime n = n :=
  Nat.le_antisymm ((isLeast_nextPrime n).2 ⟨Nat.le_refl n, h⟩) (isLeast_nextPrime n).1.1

/-! ## 3. Pools -/

theorem clampWorkers_bounds (n : Nat) :
    minWorkers ≤ clampWorkers n ∧ clampWorkers n ≤ maxWorkers := by
  unfold clampWorkers minWorkers maxWorkers
  omega

theorem clampWorkers_of_bounds {n : Nat} (hmin : minWorkers ≤ n) (hmax : n ≤ maxWorkers) :
    clampWorkers n = n := by
  unfold clampWorkers
  rw [Nat.min_eq_left hmax, Nat.max_eq_right hmin]

theorem isPrime_maxWorkers : isPrime maxWorkers = true :=
  isPrime_iff.mpr (Or.inr (by unfold maxWorkers; norm_num))

theorem poolSize_bounds (n : Nat) : minWorkers ≤ poolSize n ∧ poolSize n ≤ maxWorkers := by
  have hclamp := clampWorkers_bounds n
  have hleast := isLeast_nextPrime (clampWorkers n)
  -- The upper bound is a prime itself, so the search does not pass it.
  exact ⟨hclamp.1.trans hleast.1.1, hleast.2 ⟨hclamp.2, isPrime_maxWorkers⟩⟩

theorem poolSize_poolSize (n : Nat) : poolSize (poolSize n) = poolSize n := by
  have hbounds := poolSize_bounds n
  have hprime : isPrime (poolSize n) = true := (isLeast_nextPrime (clampWorkers n)).1.2
  rw [poolSize, clampWorkers_of_bounds hbounds.1 hbounds.2, nextPrime_of_isPrime hprime]

/-- A divisor whose square is in the lower half of the words has a successor whose square is
still a word. -/
theorem square_lt_of_square_lt {d : Nat} (h : d * d < 2 ^ 63) : (d + 2) * (d + 2) < 2 ^ 64 := by
  have hd : d < 2 ^ 32 := by
    by_contra hge
    have hsquare : 2 ^ 32 * 2 ^ 32 ≤ d * d := Nat.mul_le_mul (by omega) (by omega)
    omega
  have hexpand : (d + 2) * (d + 2) = d * d + 4 * d + 4 := by ring
  omega

/-- Numbers below `2 ^ 62` are searched and divided without leaving a word of 64 bits: no candidate
and no square of a divisor is too large. The pool of a box rounds up a number that was rounded up
before, which changes nothing. -/
theorem pool_has_least_prime :
    (∀ n, isPrime n = true ↔ n = 1 ∨ n.Prime) ∧
    (∀ n, IsLeast {m | n ≤ m ∧ isPrime m = true} (nextPrime n) ∧
      ∀ tries, nextPrime n ≤ n + tries → primeFrom n tries = nextPrime n) ∧
    (∀ n < 2 ^ 62, ∀ m ≤ nextPrime n, m < 2 ^ 63 ∧
      ∀ d, d * d ≤ m → (d + 2) * (d + 2) < 2 ^ 64) ∧
    ∀ (c : DirBoxConfig) (dir : String) (timeoutMs : Nat),
      (1 ≤ c.workerCount ∧ c.workerCount ≤ 1499) ∧
      IsLeast {m | max 1 (min c.workers 1499) ≤ m ∧ isPrime m = true} c.workerCount ∧
      (Pool.start dir c.workerCount timeoutMs).workers = c.workerCount := by
  refine ⟨fun n => isPrime_iff, ?search, ?words, ?pools⟩
  case search =>
    intro n
    exact ⟨isLeast_nextPrime n, fun tries htries => primeFrom_eq (isLeast_nextPrime n) htries⟩
  case words =>
    intro n hn m hm
    have hnext := nextPrime_le n
    have hword : m < 2 ^ 63 := by omega
    exact ⟨hword, fun d hd => square_lt_of_square_lt (Nat.lt_of_le_of_lt hd hword)⟩
  case pools =>
    intro c dir timeoutMs
    exact ⟨poolSize_bounds c.workers, isLeast_nextPrime (clampWorkers c.workers),
      poolSize_poolSize c.workers⟩

end Kasten.Files
