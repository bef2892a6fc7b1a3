import Mathlib.Data.List.Chain
import Mathlib.Data.List.Find
import Kasten.Proofs.Zid.Text
import Kasten.Zid.Calendar

/-!
# The calendar counts seconds

A step of the calendar carries over minutes, hours, months and years. Counted in seconds it is one
second or one minute, and the count orders times like their digits do. So the identifiers that are
tried when a fresh one is looked for ascend, and none is tried twice.
-/

namespace Kasten

namespace Time

variable {t t' : Time}

/-! ## 1. Days -/

/-- What a clock may show if there are no leap seconds. -/
structure IsReal (t : Time) : Prop where
  month : 1 ≤ t.month ∧ t.month ≤ 12
  day : 1 ≤ t.day ∧ t.day ≤ daysInMonth t.year t.month
  hour : t.hour < 24
  minute : t.minute < 60
  second : t.second < 60

theorem IsReal.isReadable (h : t.IsReal) : t.isReadable = true := by
  have hsecond : t.second ≤ 60 := Nat.le_of_lt h.second
  unfold Time.isReadable
  simp only [Bool.and_eq_true, decide_eq_true_eq]
  exact ⟨⟨⟨⟨⟨⟨h.month.1, h.month.2⟩, h.day.1⟩, h.day.2⟩, h.hour⟩, h.minute⟩, hsecond⟩

theorem daysInMonth_bounds (year month : Nat) :
    28 ≤ daysInMonth year month ∧ daysInMonth year month ≤ 31 := by
  unfold daysInMonth
  split
  · split <;> decide
  · split <;> decide

theorem daysBeforeMonth_succ {year month : Nat} (h : 1 ≤ month) :
    daysBeforeMonth year (month + 1) = daysBeforeMonth year month + daysInMonth year month := by
  cases month with
  | zero => exact absurd h (by decide)
  | succ m => rfl

theorem daysBeforeMonth_mono (year : Nat) {month later : Nat} (h : month ≤ later) :
    daysBeforeMonth year month ≤ daysBeforeMonth year later := by
  induction h with
  | refl => exact Nat.le_refl _
  | @step later _ ih =>
    refine Nat.le_trans ih ?_
    cases later with
    | zero => exact Nat.le_refl _
    | succ m => exact Nat.le_add_right _ _

theorem isLeapYear_iff (year : Nat) :
    isLeapYear year = true ↔ year % 4 = 0 ∧ (year % 100 ≠ 0 ∨ year % 400 = 0) := by
  unfold isLeapYear
  simp only [Bool.and_eq_true, Bool.or_eq_true, beq_iff_eq, bne_iff_ne]

theorem daysBeforeMonth_thirteen (year : Nat) :
    daysBeforeMonth year 13 = if isLeapYear year then 366 else 365 := by
  have hmonths : daysBeforeMonth year 13 = 337 + daysInMonth year 2 := by
    simp [daysBeforeMonth, daysInMonth]
    omega
  rw [hmonths]
  show 337 + (if isLeapYear year then 29 else 28) = _
  split
  · rfl
  · rfl

/-- One more leap year is behind a leap year. -/
theorem leapYears_succ (year : Nat) :
    (year + 1 + 3) / 4 + (year + 99) / 100 + (year + 1 + 399) / 400 =
      (year + 3) / 4 + (year + 1 + 99) / 100 + (year + 399) / 400 +
        if isLeapYear year then 1 else 0 := by
  split
  next hleap =>
    rw [isLeapYear_iff] at hleap
    omega
  next hleap =>
    rw [isLeapYear_iff] at hleap
    omega

/-- A year is as long as its months together. -/
theorem daysBeforeYear_succ (year : Nat) :
    daysBeforeYear (year + 1) = daysBeforeYear year + daysBeforeMonth year 13 := by
  have hleap := leapYears_succ year
  have hlater : (year + 1 + 99) / 100 ≤ 365 * (year + 1) := by omega
  have hearlier : (year + 99) / 100 ≤ 365 * year + (year + 3) / 4 := by omega
  rw [daysBeforeMonth_thirteen]
  unfold daysBeforeYear
  -- From here on only the number of leap years counts.
  generalize (year + 3) / 4 = fourth at hleap hearlier ⊢
  generalize (year + 1 + 3) / 4 = fourth' at hleap ⊢
  generalize (year + 99) / 100 = hundredth at hleap hearlier ⊢
  generalize (year + 1 + 99) / 100 = hundredth' at hleap hlater ⊢
  generalize (year + 399) / 400 = fourHundredth at hleap ⊢
  generalize (year + 1 + 399) / 400 = fourHundredth' at hleap ⊢
  split at hleap
  next hyear =>
    rw [if_pos hyear]
    omega
  next hyear =>
    rw [if_neg hyear]
    omega

theorem daysBeforeYear_mono {year later : Nat} (h : year ≤ later) :
    daysBeforeYear year ≤ daysBeforeYear later := by
  induction h with
  | refl => exact Nat.le_refl _
  | step _ ih =>
    rw [daysBeforeYear_succ]
    omega

/-- Days since the start of the year 0. -/
def days (t : Time) : Nat :=
  daysBeforeYear t.year + daysBeforeMonth t.year t.month + (t.day - 1)

theorem seconds_eq (t : Time) :
    t.seconds = ((t.days * 24 + t.hour) * 60 + t.minute) * 60 + t.second :=
  rfl

theorem IsReal.days_lt_month (h : t.IsReal) :
    t.days < daysBeforeYear t.year + daysBeforeMonth t.year (t.month + 1) := by
  have hday := h.day
  rw [daysBeforeMonth_succ h.month.1]
  unfold days
  omega

theorem IsReal.days_lt_year (h : t.IsReal) : t.days < daysBeforeYear (t.year + 1) := by
  have hlt := h.days_lt_month
  have hmono := daysBeforeMonth_mono t.year (show t.month + 1 ≤ 13 from Nat.succ_le_succ h.month.2)
  rw [daysBeforeYear_succ]
  omega

theorem daysBeforeYear_le_days (t : Time) : daysBeforeYear t.year ≤ t.days := by
  unfold days
  omega

/-! ## 2. Steps -/

theorem nextDay_spec (h : t.IsReal) : t.nextDay.IsReal ∧ t.nextDay.days = t.days + 1 ∧
    t.nextDay.hour = t.hour ∧ t.nextDay.minute = t.minute ∧ t.nextDay.second = t.second := by
  have hday := h.day
  unfold nextDay
  split
  next hmore =>
    refine ⟨⟨h.month, ⟨?_, hmore⟩, h.hour, h.minute, h.second⟩, ?_, rfl, rfl, rfl⟩
    · exact Nat.le_add_left 1 _
    · unfold days
      dsimp only
      omega
  next hlast =>
    split
    next hmonth =>
      have hfirst := (daysInMonth_bounds t.year (t.month + 1)).1
      refine ⟨⟨⟨Nat.le_add_left 1 _, hmonth⟩, ⟨Nat.le_refl 1, ?_⟩, h.hour, h.minute, h.second⟩,
        ?_, rfl, rfl, rfl⟩
      · exact Nat.le_trans (show 1 ≤ 28 by decide) hfirst
      · unfold days
        dsimp only
        rw [daysBeforeMonth_succ h.month.1]
        omega
    next hmonth =>
      have hdecember : t.month = 12 := Nat.le_antisymm h.month.2 (Nat.le_of_not_lt hmonth)
      have hfirst := (daysInMonth_bounds (t.year + 1) 1).1
      refine ⟨⟨⟨Nat.le_refl 1, Nat.le_add_left 1 11⟩, ⟨Nat.le_refl 1, ?_⟩, h.hour, h.minute,
        h.second⟩, ?_, rfl, rfl, rfl⟩
      · exact Nat.le_trans (show 1 ≤ 28 by decide) hfirst
      · unfold days
        dsimp only
        rw [daysBeforeYear_succ, hdecember, daysBeforeMonth_succ (by decide)]
        rw [hdecember] at hlast hday
        show _ + 0 + 0 = _
        omega

theorem nextHour_spec (h : t.IsReal) : t.nextHour.IsReal ∧
    t.nextHour.seconds = t.seconds + 3600 ∧ t.nextHour.minute = t.minute ∧
    t.nextHour.second = t.second := by
  have hhour := h.hour
  unfold nextHour
  split
  next hmore =>
    refine ⟨⟨h.month, h.day, ?_, h.minute, h.second⟩, ?_, rfl, rfl⟩
    · exact Nat.succ_lt_succ hmore
    · rw [seconds_eq, seconds_eq]
      unfold days
      dsimp only
      omega
  next hlast =>
    have hmidnight : IsReal { t with hour := 0 } :=
      ⟨h.month, h.day, Nat.zero_lt_succ 23, h.minute, h.second⟩
    rcases nextDay_spec hmidnight with ⟨hreal, hdays, hhour', hminute, hsecond⟩
    refine ⟨hreal, ?_, hminute, hsecond⟩
    rw [seconds_eq, seconds_eq, hdays, hhour', hminute, hsecond]
    unfold days
    dsimp only
    omega

/-- Without leap seconds there is nothing to cut off. -/
theorem nextMinute_spec (h : t.IsReal) : t.nextMinute.IsReal ∧
    t.nextMinute.seconds = t.seconds + 60 ∧ t.nextMinute.second = t.second := by
  have hminute := h.minute
  have hcut : { t with second := min t.second 59 } = t := by
    rw [Nat.min_eq_left (Nat.le_of_lt_succ h.second)]
  unfold nextMinute
  rw [hcut]
  dsimp only
  split
  next hmore =>
    refine ⟨⟨h.month, h.day, h.hour, ?_, h.second⟩, ?_, rfl⟩
    · exact Nat.succ_lt_succ hmore
    · rw [seconds_eq, seconds_eq]
      unfold days
      dsimp only
      omega
  next hlast =>
    have hfull : IsReal { t with minute := 0 } :=
      ⟨h.month, h.day, h.hour, Nat.zero_lt_succ 59, h.second⟩
    rcases nextHour_spec hfull with ⟨hreal, hseconds, -, hsecond⟩
    refine ⟨hreal, ?_, hsecond⟩
    rw [hseconds, seconds_eq, seconds_eq]
    unfold days
    dsimp only
    omega

theorem nextSecond_spec (h : t.IsReal) :
    t.nextSecond.IsReal ∧ t.nextSecond.seconds = t.seconds + 1 := by
  have hsecond := h.second
  unfold nextSecond
  split
  next hmore =>
    refine ⟨⟨h.month, h.day, h.hour, h.minute, ?_⟩, ?_⟩
    · exact Nat.succ_lt_succ hmore
    · rw [seconds_eq, seconds_eq]
      unfold days
      dsimp only
      omega
  next hlast =>
    have hfull : IsReal { t with second := 0 } :=
      ⟨h.month, h.day, h.hour, h.minute, Nat.zero_lt_succ 59⟩
    rcases nextMinute_spec hfull with ⟨hreal, hseconds, -⟩
    refine ⟨hreal, ?_⟩
    rw [hseconds, seconds_eq, seconds_eq]
    unfold days
    dsimp only
    omega

/-! ## 3. Order -/

/-- The digits of a time as a number. -/
def number (t : Time) : Nat :=
  ((((t.year * 100 + t.month) * 100 + t.day) * 100 + t.hour) * 100 + t.minute) * 100 + t.second

theorem IsReal.lt_hundred (h : t.IsReal) :
    t.month < 100 ∧ t.day < 100 ∧ t.hour < 100 ∧ t.minute < 100 ∧ t.second < 100 := by
  have hmonth := h.month.2
  have hday := h.day.2
  have hlong := (daysInMonth_bounds t.year t.month).2
  have hhour := h.hour
  have hminute := h.minute
  have hsecond := h.second
  omega

theorem IsReal.eq_of_number_eq (h : t.IsReal) (h' : t'.IsReal) (heq : t.number = t'.number) :
    t = t' := by
  have hsmall := h.lt_hundred
  have hsmall' := h'.lt_hundred
  unfold number at heq
  cases t
  cases t'
  simp only [mk.injEq]
  dsimp only at heq hsmall hsmall'
  omega

/-- A day of an earlier year or month, or an earlier day of the same month, is counted earlier. -/
theorem IsReal.days_lt_days (h : t.IsReal) (h' : t'.IsReal)
    (hlt : (t.year * 100 + t.month) * 100 + t.day < (t'.year * 100 + t'.month) * 100 + t'.day) :
    t.days < t'.days := by
  have hsmall := h.lt_hundred
  have hsmall' := h'.lt_hundred
  by_cases hyear : t.year = t'.year
  · by_cases hmonth : t.month = t'.month
    · have hday := h.day
      unfold days
      rw [hyear, hmonth]
      omega
    · have hmono := daysBeforeMonth_mono t.year (show t.month + 1 ≤ t'.month by omega)
      have hbound := h.days_lt_month
      have hdays : t'.days = _ := days.eq_def t'
      rw [← hyear] at hdays
      omega
  · calc t.days < daysBeforeYear (t.year + 1) := h.days_lt_year
      _ ≤ daysBeforeYear t'.year := daysBeforeYear_mono (by omega)
      _ ≤ t'.days := daysBeforeYear_le_days t'

theorem IsReal.seconds_lt_seconds (h : t.IsReal) (h' : t'.IsReal) (hlt : t.number < t'.number) :
    t.seconds < t'.seconds := by
  have hsmall := h.lt_hundred
  have hsmall' := h'.lt_hundred
  have hhour := h.hour
  have hminute := h.minute
  have hsecond := h.second
  unfold number at hlt
  rw [seconds_eq, seconds_eq]
  by_cases hdate :
      (t.year * 100 + t.month) * 100 + t.day < (t'.year * 100 + t'.month) * 100 + t'.day
  · have hdays := h.days_lt_days h' hdate
    omega
  · -- It is the same day, so the time of day decides.
    have hyear : t.year = t'.year := by omega
    have hmonth : t.month = t'.month := by omega
    have hday : t.day = t'.day := by omega
    have hdays : t.days = t'.days := by
      unfold days
      rw [hyear, hmonth, hday]
    omega

/-- The count of seconds orders times like their digits do. -/
theorem IsReal.number_lt_iff (h : t.IsReal) (h' : t'.IsReal) :
    t.number < t'.number ↔ t.seconds < t'.seconds := by
  refine ⟨h.seconds_lt_seconds h', fun hlt => ?_⟩
  rcases Nat.lt_trichotomy t.number t'.number with hless | hsame | hmore
  · exact hless
  · rw [h.eq_of_number_eq h' hsame] at hlt
    exact absurd hlt (Nat.lt_irrefl _)
  · exact absurd (h'.seconds_lt_seconds h hmore) (Nat.lt_asymm hlt)

theorem IsReal.seconds_lt_year (h : t.IsReal) :
    t.seconds < daysBeforeYear (t.year + 1) * 86400 := by
  have hdays := h.days_lt_year
  have hhour := h.hour
  have hminute := h.minute
  have hsecond := h.second
  rw [seconds_eq]
  omega

theorem IsReal.year_le_year (h' : t'.IsReal) (hle : t.seconds ≤ t'.seconds) :
    t.year ≤ t'.year := by
  by_contra hyear
  have hstart := daysBeforeYear_le_days t
  have hend := h'.seconds_lt_year
  have hmono := daysBeforeYear_mono (show t'.year + 1 ≤ t.year by omega)
  rw [seconds_eq] at hle
  omega

/-- Before the year 10000 there are at most nines in the digits of the year. -/
theorem year_le_of_seconds_lt (hlt : t.seconds < daysBeforeYear 10000 * 86400) :
    t.year ≤ 9999 := by
  by_contra hyear
  have hstart := daysBeforeYear_le_days t
  have hmono := daysBeforeYear_mono (show 10000 ≤ t.year by omega)
  rw [seconds_eq] at hlt
  omega

end Time

/-! ## 4. Identifiers -/

namespace Zid

variable {t : Time} {withSeconds : Bool}

theorem ofTime_eq (hyear : t.year ≤ 9999) : ofTime t = ⟨t.number⟩ := if_pos hyear

/-- An identifier that was made of a time spells it. -/
theorem time?_ofTime (h : t.IsReal) (hyear : t.year ≤ 9999) : (ofTime t).time? = some t := by
  rcases h.lt_hundred with ⟨hmonth, hday, hhour, hminute, hsecond⟩
  have hspelt : (⟨t.number / 10000000000, t.number / 100000000 % 100, t.number / 1000000 % 100,
      t.number / 10000 % 100, t.number / 100 % 100, t.number % 100⟩ : Time) = t := by
    unfold Time.number
    cases t
    simp only [Time.mk.injEq]
    dsimp only at hmonth hday hhour hminute hsecond
    omega
  have hmax : t.number ≤ max.val := by
    show t.number ≤ 99999999999999
    unfold Time.number
    omega
  rw [ofTime_eq hyear]
  unfold time?
  dsimp only
  rw [hspelt, if_pos ⟨hmax, h.isReadable⟩]

theorem isValid_ofTime (h : t.IsReal) (hyear : 1 ≤ t.year ∧ t.year ≤ 9999) :
    (ofTime t).isValid = true := by
  rcases h.lt_hundred with ⟨hmonth, hday, hhour, hminute, hsecond⟩
  rw [ofTime_eq hyear.2, isValid_iff]
  show 0 < t.number ∧ t.number ≤ 99999999999999
  unfold Time.number
  omega

theorem number_of_time? {z : Zid} (h : z.time? = some t) : t.number = z.val := by
  unfold time? at h
  dsimp only at h
  split at h
  next =>
    cases h
    unfold Time.number
    dsimp only
    omega
  next => cases h

/-! ## 5. What is tried -/

/-- Seconds from one identifier to the next one that is tried. -/
def gap (withSeconds : Bool) : Nat := if withSeconds then 1 else 60

theorem gap_pos (withSeconds : Bool) : 0 < gap withSeconds := by
  cases withSeconds <;> decide

/-- The identifiers spell times that are so many seconds apart. -/
def Follows (seconds : Nat) (z z' : Zid) : Prop :=
  ∃ t t' : Time, z.time? = some t ∧ z'.time? = some t' ∧ t.IsReal ∧ t'.IsReal ∧
    t'.seconds = t.seconds + seconds

theorem Follows.lt {seconds : Nat} {z z' : Zid} (h : Follows seconds z z') (hpos : 0 < seconds) :
    z < z' := by
  rcases h with ⟨t, t', hz, hz', ht, ht', hlater⟩
  show z.val < z'.val
  rw [← number_of_time? hz, ← number_of_time? hz', ht.number_lt_iff ht']
  omega

theorem next_ofTime (h : t.IsReal) (hyear : t.year ≤ 9999) (withSeconds : Bool) :
    ∃ t' : Time, next withSeconds (ofTime t) = ofTime t' ∧ t'.IsReal ∧
      t'.seconds = t.seconds + gap withSeconds ∧ (withSeconds = false → t'.second = t.second) := by
  unfold next
  rw [time?_ofTime h hyear]
  cases withSeconds with
  | true =>
    rcases Time.nextSecond_spec h with ⟨hreal, hseconds⟩
    exact ⟨_, rfl, hreal, hseconds, nofun⟩
  | false =>
    rcases Time.nextMinute_spec h with ⟨hreal, hseconds, hsecond⟩
    exact ⟨_, rfl, hreal, hseconds, fun _ => hsecond⟩

theorem eq_of_head?_offers {n : Nat} {z y : Zid} (h : y ∈ (offers withSeconds n z).head?) :
    y = z := by
  cases n with
  | zero => cases h
  | succ n => exact (Option.some.inj h).symm

theorem length_offers (withSeconds : Bool) (n : Nat) (z : Zid) :
    (offers withSeconds n z).length = n := by
  induction n generalizing z with
  | zero => rfl
  | succ n ih => exact congrArg (· + 1) (ih _)

/-- The identifier is valid and spells a time, at a full minute if identifiers have no seconds. -/
def Spells (withSeconds : Bool) (z : Zid) : Prop :=
  z.isValid = true ∧
    ∃ t : Time, z.time? = some t ∧ t.IsReal ∧ (withSeconds = false → t.second = 0)

/-- As long as the years have four digits, each identifier that is tried spells the time one step
after the one before. -/
theorem offers_ofTime {n : Nat} (h : t.IsReal) (hyear : 1 ≤ t.year)
    (hfull : withSeconds = false → t.second = 0)
    (hroom : t.seconds + n * gap withSeconds ≤ Time.daysBeforeYear 10000 * 86400) :
    (offers withSeconds n (ofTime t)).IsChain (Follows (gap withSeconds)) ∧
      ∀ z ∈ offers withSeconds n (ofTime t), Spells withSeconds z := by
  induction n generalizing t with
  | zero => exact ⟨List.IsChain.nil, nofun⟩
  | succ n ih =>
    have hgap := gap_pos withSeconds
    rw [Nat.succ_mul] at hroom
    have hfour : t.year ≤ 9999 := Time.year_le_of_seconds_lt (by omega)
    rcases next_ofTime h hfour withSeconds with ⟨t', hnext, ht', hlater, hsecond⟩
    have hyear' : t.year ≤ t'.year := ht'.year_le_year (by omega)
    have hfull' : withSeconds = false → t'.second = 0 :=
      fun hminutes => (hsecond hminutes).trans (hfull hminutes)
    rcases ih ht' (by omega) hfull' (by omega) with ⟨hchain, hall⟩
    unfold offers
    rw [hnext]
    refine ⟨List.isChain_cons.mpr ⟨?_, hchain⟩, ?_⟩
    · intro y hy
      rw [eq_of_head?_offers hy]
      -- Only if it is tried at all, the year has to have four digits.
      cases n with
      | zero => cases hy
      | succ n =>
        rw [Nat.succ_mul] at hroom
        have hfour' : t'.year ≤ 9999 := Time.year_le_of_seconds_lt (by omega)
        exact ⟨t, t', time?_ofTime h hfour, time?_ofTime ht' hfour', h, ht', hlater⟩
    · intro z hz
      rcases List.mem_cons.mp hz with rfl | hz
      · exact ⟨isValid_ofTime h ⟨hyear, hfour⟩, t, time?_ofTime h hfour, h, hfull⟩
      · exact hall z hz

/-- The time at which the search starts. -/
def startTime (withSeconds : Bool) (now : Time) : Time :=
  if withSeconds then now else { now with second := 0 }

/-- All that is tried before giving up. -/
def tried (withSeconds : Bool) (now : Time) : List Zid :=
  offers withSeconds maxAttempts (start withSeconds now)

/-- Every identifier that is tried is the time one step after the one before, and is greater. -/
structure FollowsCalendar (withSeconds : Bool) (now : Time) : Prop where
  length : (tried withSeconds now).length = 10000
  first : (tried withSeconds now).head? = some (ofTime (startTime withSeconds now))
  spells : ∀ z ∈ tried withSeconds now, Spells withSeconds z
  steps : (tried withSeconds now).IsChain (Follows (gap withSeconds))
  ascending : (tried withSeconds now).Pairwise (· < ·)

variable {now : Time}

theorem isReal_startTime (h : now.IsReal) (withSeconds : Bool) :
    (startTime withSeconds now).IsReal := by
  cases withSeconds with
  | true => exact h
  | false => exact ⟨h.month, h.day, h.hour, h.minute, Nat.zero_lt_succ 59⟩

/-- In the years up to 9998 there is room for all attempts. -/
theorem room_of_year (h : now.IsReal) (hyear : now.year ≤ 9998) (withSeconds : Bool) :
    now.seconds + maxAttempts * gap withSeconds ≤ Time.daysBeforeYear 10000 * 86400 := by
  have hstart := h.seconds_lt_year
  have hmono := Time.daysBeforeYear_mono (show now.year + 1 ≤ 9999 by omega)
  have hlast : Time.daysBeforeYear 9999 * 86400 + maxAttempts * 60 ≤
      Time.daysBeforeYear 10000 * 86400 := by decide
  have hgap : maxAttempts * gap withSeconds ≤ maxAttempts * 60 := by
    cases withSeconds <;> decide
  omega

theorem followsCalendar (h : now.IsReal) (hyear : 1 ≤ now.year ∧ now.year ≤ 9998)
    (withSeconds : Bool) : FollowsCalendar withSeconds now := by
  have hreal := isReal_startTime h withSeconds
  have hsame : (startTime withSeconds now).year = now.year := by cases withSeconds <;> rfl
  have hfull : withSeconds = false → (startTime withSeconds now).second = 0 := by
    rintro rfl
    rfl
  have hroom := room_of_year hreal (hsame ▸ hyear.2) withSeconds
  rcases offers_ofTime hreal (hsame.symm ▸ hyear.1) hfull hroom with ⟨hsteps, hspells⟩
  have : Trans (α := Zid) (· < ·) (· < ·) (· < ·) := ⟨Nat.lt_trans⟩
  exact
    { length := length_offers _ _ _
      first := rfl
      spells := hspells
      steps := hsteps
      ascending := (hsteps.imp fun _ _ hnext => hnext.lt (gap_pos withSeconds)).pairwise }

section Fresh

variable {isFree : Zid → Bool}

/-- Validity rules nothing out that is tried. -/
theorem FollowsCalendar.fresh_eq (h : FollowsCalendar withSeconds now) :
    fresh withSeconds now isFree =
      match (tried withSeconds now).find? isFree with
      | some z => .ok z
      | none => .error (.exhausted maxAttempts) := by
  have hvalid : (tried withSeconds now).find? (fun z => z.isValid && isFree z) =
      (tried withSeconds now).find? isFree :=
    List.find?_congr fun z hz => by rw [(h.spells z hz).1, Bool.true_and]
  rw [← hvalid]
  rfl

/-- The first identifier that is accepted is taken. -/
theorem FollowsCalendar.fresh_eq_ok_iff (h : FollowsCalendar withSeconds now) (z : Zid) :
    fresh withSeconds now isFree = .ok z ↔ isFree z = true ∧ ∃ before after,
      tried withSeconds now = before ++ z :: after ∧ ∀ y ∈ before, isFree y = false := by
  have hfind : (tried withSeconds now).find? isFree = some z ↔ _ := List.find?_eq_some_iff_append
  simp only [Bool.not_eq_true'] at hfind
  rw [← hfind, h.fresh_eq]
  cases (tried withSeconds now).find? isFree with
  | some found => rw [Except.ok.injEq, Option.some_inj]
  | none => exact ⟨nofun, nofun⟩

/-- Only when all attempts are rejected it is given up. -/
theorem FollowsCalendar.fresh_eq_error_iff (h : FollowsCalendar withSeconds now)
    (failure : ZidError) : fresh withSeconds now isFree = .error failure ↔
      failure = .exhausted 10000 ∧ ∀ z ∈ tried withSeconds now, isFree z = false := by
  have hfind : (tried withSeconds now).find? isFree = none ↔ _ := List.find?_eq_none
  simp only [Bool.not_eq_true] at hfind
  rw [← hfind, h.fresh_eq]
  cases (tried withSeconds now).find? isFree with
  | some found => exact ⟨nofun, nofun⟩
  | none =>
    rw [Except.error.injEq]
    exact ⟨fun heq => ⟨heq.symm, rfl⟩, fun heq => heq.1.symm⟩

end Fresh

end Zid

end Kasten
