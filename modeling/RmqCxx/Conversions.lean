/-
# `RmqCxx.Conversions` — what the conversions of durations and timevals lose

In exact arithmetic a duration is a rational number of seconds, and so is a timeval.  A cast
truncates the exact value once (`durationCast_ticks`), and so does `timeValue`, although it
truncates the seconds and then the rest (`timeValue_micros_eq`).

`durationValue` truncates seconds and microseconds separately and adds.  Whether it loses more
than one truncation depends on the amount and on the period (`durationValue_iff`), and
`addsUp_iff_period` says for which periods it never does.
-/
import Mathlib.Data.Rat.Floor
import Mathlib.Tactic.FieldSimp
import Mathlib.Tactic.LinearCombination
import RmqCxx.Cpp.Truncation
import RmqCxx.WaitBounds

namespace RmqCxx

open Cpp

/-! ## Exact values -/

/-- The seconds of one tick. -/
def Period.value (p : Period) : ℚ := p.num / p.den

/-- `x` seconds in ticks of the period, truncated once. -/
def Period.ticks (p : Period) (x : ℚ) : ℤ := towardsZero (x / p.value)

/-- The seconds of a duration. -/
def Duration.value {p : Period} (d : Duration p) : ℚ := d.count * p.value

/-- The seconds of a timeval. -/
def Timeval.value (tv : Timeval) : ℚ := tv.tvSec + tv.tvUsec / 1000000

section Values

variable {p q : Period}

theorem Period.value_pos (p : Period) : 0 < p.value :=
  div_pos (Nat.cast_pos.mpr p.num_pos) (Nat.cast_pos.mpr p.den_pos)

theorem seconds_value : Period.seconds.value = 1 := by
  rw [Period.value, Period.seconds, Nat.cast_one, div_one]

theorem microseconds_value : Period.microseconds.value = 1 / 1000000 := by
  rw [Period.value, Period.microseconds, Nat.cast_one]
  norm_num

theorem ticks_neg (p : Period) (x : ℚ) : p.ticks (-x) = -p.ticks x := by
  rw [Period.ticks, neg_div, towardsZero_neg, Period.ticks]

/-- A cast truncates once. -/
theorem durationCast_ticks (q : Period) (d : Duration p) :
    (durationCast q d).count = q.ticks d.value := by
  have hp : (p.den : ℚ) ≠ 0 := Nat.cast_ne_zero.mpr (Nat.ne_of_gt p.den_pos)
  have hq : (q.num : ℚ) ≠ 0 := Nat.cast_ne_zero.mpr (Nat.ne_of_gt q.num_pos)
  have hq' : (q.den : ℚ) ≠ 0 := Nat.cast_ne_zero.mpr (Nat.ne_of_gt q.den_pos)
  have hquotient : d.value / q.value =
      ((d.count * (p.num * q.den : Nat) : ℤ) : ℚ) / (p.den * q.num : Nat) := by
    rw [Duration.value, Period.value, Period.value]
    push_cast
    field_simp
  rw [durationCast_count, Period.ticks, hquotient, towardsZero_div]

/-- A cast to a period that divides the duration's own loses nothing. -/
theorem durationCast_value (d : Duration p) {k : Nat}
    (h : p.num * q.den = k * (p.den * q.num)) : (durationCast q d).value = d.value := by
  have hp : (p.den : ℚ) ≠ 0 := Nat.cast_ne_zero.mpr (Nat.ne_of_gt p.den_pos)
  have hq : (q.den : ℚ) ≠ 0 := Nat.cast_ne_zero.mpr (Nat.ne_of_gt q.den_pos)
  have hperiods : (p.num : ℚ) * q.den = k * (p.den * q.num) := by exact_mod_cast h
  rw [Duration.value, durationCast_exact d h, Duration.value, Period.value, Period.value]
  push_cast
  field_simp
  linear_combination (-(d.count : ℚ)) * hperiods

/-- Differences are exact. -/
theorem sub_value (d : Duration p) (e : Duration q) : (d.sub e).value = d.value - e.value := by
  obtain ⟨i, hi⟩ := Nat.gcd_dvd_left p.num q.num
  obtain ⟨j, hj⟩ := Nat.gcd_dvd_right p.num q.num
  obtain ⟨k, hk⟩ := Nat.dvd_lcm_left p.den q.den
  obtain ⟨l, hl⟩ := Nat.dvd_lcm_right p.den q.den
  have hd : (durationCast (p.common q) d).value = d.value := by
    refine durationCast_value d (k := i * k) ?_
    show p.num * Nat.lcm p.den q.den = i * k * (p.den * Nat.gcd p.num q.num)
    rw [hk]
    nth_rewrite 1 [hi]
    ring
  have he : (durationCast (p.common q) e).value = e.value := by
    refine durationCast_value e (k := j * l) ?_
    show q.num * Nat.lcm p.den q.den = j * l * (q.den * Nat.gcd p.num q.num)
    rw [hl]
    nth_rewrite 1 [hj]
    ring
  rw [← hd, ← he, Duration.sub, Duration.value, Int.cast_sub, sub_mul]
  rfl

end Values

/-! ## `timeValue` -/

/-- `timeValue` loses one truncation: its fields have the sign of the duration, its
microseconds are less than a second, and together they are the duration, truncated once. -/
structure SplitsOnce {p : Period} (d : Duration p) : Prop where
  below : |(timeValue d).tvUsec| < 1000000
  nonneg : 0 ≤ d.count → 0 ≤ (timeValue d).tvSec ∧ 0 ≤ (timeValue d).tvUsec
  nonpos : d.count ≤ 0 → (timeValue d).tvSec ≤ 0 ∧ (timeValue d).tvUsec ≤ 0
  micros : durationValue .microseconds (timeValue d) = ⟨Period.microseconds.ticks d.value⟩

section TimeValue

variable {p : Period} (d : Duration p)

/-- The seconds and the rest of the exact value. -/
theorem timeValue_eq : timeValue d = ⟨towardsZero d.value, restOf 1000000 d.value⟩ := by
  have hseconds : (durationCast .seconds d).count = towardsZero d.value := by
    rw [durationCast_ticks, Period.ticks, seconds_value, div_one]
  have hrest : (durationCast .microseconds (d.sub (durationCast .seconds d))).count =
      restOf 1000000 d.value := by
    have hvalue : (durationCast .seconds d).value = (towardsZero d.value : ℤ) := by
      rw [Duration.value, hseconds, seconds_value, mul_one]
    rw [durationCast_ticks, Period.ticks, sub_value, hvalue, microseconds_value, div_div_eq_mul_div,
      div_one, restOf]
    rfl
  rw [timeValue, hseconds, hrest]

theorem timeValue_neg : timeValue (⟨-d.count⟩ : Duration p) =
    ⟨-(timeValue d).tvSec, -(timeValue d).tvUsec⟩ := by
  have hvalue : (⟨-d.count⟩ : Duration p).value = -d.value := by
    rw [Duration.value, Int.cast_neg, neg_mul, Duration.value]
  rw [timeValue_eq, timeValue_eq, hvalue, towardsZero_neg, restOf_neg]

/-- A duration that is not negative gives a normalised timeval. -/
theorem timeValue_normalised_of_nonneg {d : Duration p} (h : 0 ≤ d.count) :
    (timeValue d).Normalised := by
  have hvalue : 0 ≤ d.value := mul_nonneg (Int.cast_nonneg h) p.value_pos.le
  obtain ⟨hnonneg, hlt⟩ := restOf_of_nonneg (B := 1000000) (by decide) hvalue
  rw [timeValue_eq]
  exact ⟨towardsZero_nonneg hvalue, hnonneg, hlt⟩

/-- The microseconds of the timeval are the duration, truncated once. -/
theorem timeValue_micros_eq : (timeValue d).micros = Period.microseconds.ticks d.value := by
  have hunits := units_rest 1000000 d.value
  rw [Period.ticks, microseconds_value, div_div_eq_mul_div, div_one, timeValue_eq]
  exact hunits

theorem durationValue_ticks (q : Period) (tv : Timeval) :
    durationValue q tv = ⟨q.ticks tv.tvSec + q.ticks (tv.tvUsec / 1000000)⟩ := by
  rw [durationValue, durationCast_ticks, durationCast_ticks]
  unfold Duration.value
  rw [seconds_value, mul_one, microseconds_value, mul_one_div]

theorem durationValue_microseconds (tv : Timeval) :
    durationValue .microseconds tv = ⟨tv.micros⟩ := by
  have hsec : (tv.tvSec : ℚ) / (1 / 1000000) = ((tv.tvSec * 1000000 : ℤ) : ℚ) := by
    push_cast
    ring
  have husec : (tv.tvUsec : ℚ) / 1000000 / (1 / 1000000) = (tv.tvUsec : ℚ) := by
    ring
  rw [durationValue_ticks, Period.ticks, Period.ticks, microseconds_value, hsec, husec,
    towardsZero_intCast, towardsZero_intCast, Timeval.micros]

/-- A duration that is not positive gives the timeval of its opposite, negated. -/
theorem timeValue_opposite {d : Duration p} (h : d.count ≤ 0) :
    ∃ tv : Timeval, tv.Normalised ∧ timeValue d = ⟨-tv.tvSec, -tv.tvUsec⟩ := by
  refine ⟨timeValue (⟨-d.count⟩ : Duration p), ?_, ?_⟩
  · exact timeValue_normalised_of_nonneg (Int.neg_nonneg_of_nonpos h)
  · rw [timeValue_neg, neg_neg, neg_neg]

theorem splitsOnce : SplitsOnce d := by
  constructor
  · rcases Int.le_total 0 d.count with h | h
    · obtain ⟨-, husec, hlt⟩ := timeValue_normalised_of_nonneg h
      rw [abs_of_nonneg husec]
      exact hlt
    · obtain ⟨tv, ⟨-, husec, hlt⟩, htv⟩ := timeValue_opposite h
      rw [htv, abs_neg, abs_of_nonneg husec]
      exact hlt
  · intro h
    obtain ⟨hsec, husec, -⟩ := timeValue_normalised_of_nonneg h
    exact ⟨hsec, husec⟩
  · intro h
    obtain ⟨tv, ⟨hsec, husec, -⟩, htv⟩ := timeValue_opposite h
    rw [htv]
    exact ⟨Int.neg_nonpos_of_nonneg hsec, Int.neg_nonpos_of_nonneg husec⟩
  · rw [durationValue_microseconds, timeValue_micros_eq]

end TimeValue

/-! ## `durationValue` -/

/-- An amount in microseconds of which the whole seconds and the rest, each truncated to ticks
of the period, lose less than a tick together. -/
def Period.AddsUp (q : Period) (micros : ℕ) : Prop :=
  Int.fract ((micros / 1000000 : ℕ) / q.value) +
    Int.fract ((micros % 1000000 : ℕ) / 1000000 / q.value) < 1

section DurationValue

variable {q : Period} {tv : Timeval}

theorem Timeval.value_eq (tv : Timeval) : tv.value = tv.micros / 1000000 := by
  rw [Timeval.value, Timeval.micros]
  push_cast
  ring

theorem Timeval.natAbs_micros (h : tv.Normalised) :
    tv.tvSec = (tv.micros.natAbs / 1000000 : ℕ) ∧ tv.tvUsec = (tv.micros.natAbs % 1000000 : ℕ) := by
  obtain ⟨hsec, husec, hlt⟩ := h
  rw [Timeval.micros]
  omega

/-- The two truncations are one if the parts add up. -/
theorem durationValue_iff (h : tv.Normalised) :
    durationValue q tv = ⟨q.ticks tv.value⟩ ↔ q.AddsUp tv.micros.natAbs := by
  have hsec : 0 ≤ (tv.tvSec : ℚ) / q.value :=
    div_nonneg (Int.cast_nonneg h.1) q.value_pos.le
  have husec : 0 ≤ (tv.tvUsec : ℚ) / 1000000 / q.value :=
    div_nonneg (div_nonneg (Int.cast_nonneg h.2.1) (by norm_num)) q.value_pos.le
  obtain ⟨hunits, hrest⟩ := Timeval.natAbs_micros h
  rw [durationValue_ticks, Duration.mk.injEq, Period.ticks, Period.ticks, Period.ticks,
    Timeval.value, add_div, towardsZero_add_iff hsec husec, Period.AddsUp, hunits, hrest]
  rfl

theorem durationValue_neg (q : Period) (tv : Timeval) :
    (durationValue q ⟨-tv.tvSec, -tv.tvUsec⟩).count = -(durationValue q tv).count := by
  rw [durationValue_ticks, durationValue_ticks]
  dsimp only
  rw [Int.cast_neg, Int.cast_neg, neg_div, ticks_neg, ticks_neg, ← neg_add]

/-- The timeval of any duration, negative ones included, is converted with one truncation if
its parts add up. -/
theorem durationValue_timeValue_iff {p : Period} (d : Duration p) :
    durationValue q (timeValue d) =
        ⟨q.ticks (⟨Period.microseconds.ticks d.value⟩ : Duration .microseconds).value⟩ ↔
      q.AddsUp (Period.microseconds.ticks d.value).natAbs := by
  have hvalue : (⟨Period.microseconds.ticks d.value⟩ : Duration .microseconds).value =
      (timeValue d).value := by
    rw [← timeValue_micros_eq, Timeval.value_eq, Duration.value, microseconds_value, mul_one_div]
  rw [hvalue, ← timeValue_micros_eq]
  rcases Int.le_total 0 d.count with h | h
  · exact durationValue_iff (timeValue_normalised_of_nonneg h)
  · obtain ⟨tv, htv, hd⟩ := timeValue_opposite h
    have hneg : (⟨-tv.tvSec, -tv.tvUsec⟩ : Timeval).value = -tv.value := by
      rw [Timeval.value, Timeval.value]
      push_cast
      ring
    have hmicros : (⟨-tv.tvSec, -tv.tvUsec⟩ : Timeval).micros = -tv.micros := by
      rw [Timeval.micros, Timeval.micros]
      ring
    rw [hd, hneg, hmicros, Int.natAbs_neg, ← durationValue_iff htv, Duration.ext_iff,
      Duration.ext_iff, durationValue_neg, ticks_neg, neg_inj]

end DurationValue

/-! ## The periods that never lose more -/

section Periods

variable (q : Period)

theorem value_num_pos : 0 < q.value.num := Rat.num_pos.mpr q.value_pos

/-- The period in lowest terms. -/
theorem value_lowest : q.value = (q.value.num.natAbs : ℚ) / q.value.den := by
  have hnum : ((q.value.num.natAbs : ℕ) : ℤ) = q.value.num :=
    Int.natAbs_of_nonneg (value_num_pos q).le
  rw [← Int.cast_natCast q.value.num.natAbs, hnum, Rat.num_div_den]

/-- The amounts that add up, by the remainders of the period in lowest terms. -/
theorem addsUp_iff (n : ℕ) :
    q.AddsUp n ↔
      n / 1000000 * q.value.den % q.value.num.natAbs * 1000000 +
        n % 1000000 * q.value.den % (1000000 * q.value.num.natAbs) <
          1000000 * q.value.num.natAbs := by
  have hlowest := value_lowest q
  have hnum : 0 < q.value.num.natAbs := Int.natAbs_pos.mpr (value_num_pos q).ne'
  have hden : 0 < q.value.den := q.value.den_pos
  rw [Period.AddsUp]
  generalize q.value.num.natAbs = num at hlowest hnum ⊢
  generalize q.value.den = den at hlowest hden ⊢
  rw [hlowest]
  generalize n / 1000000 = sec
  generalize n % 1000000 = usec
  have hnum' : (num : ℚ) ≠ 0 := Nat.cast_ne_zero.mpr hnum.ne'
  have hden' : (den : ℚ) ≠ 0 := Nat.cast_ne_zero.mpr hden.ne'
  have hunits : (sec : ℚ) / (num / den) = (sec * den : ℕ) / (num : ℕ) := by
    push_cast
    field_simp
  have hrest : (usec : ℚ) / 1000000 / (num / den) = (usec * den : ℕ) / (1000000 * num : ℕ) := by
    push_cast
    field_simp
  rw [hunits, hrest, Int.fract_div_natCast_eq_div_natCast_mod,
    Int.fract_div_natCast_eq_div_natCast_mod]
  generalize sec * den % num = r
  generalize usec * den % (1000000 * num) = t
  have hsum : (r : ℚ) / num + t / (1000000 * num : ℕ) =
      (r * 1000000 + t : ℕ) / (1000000 * num : ℕ) := by
    push_cast
    field_simp
  rw [hsum, div_lt_one (Nat.cast_pos.mpr (Nat.mul_pos (by decide) hnum)), Nat.cast_lt]

/-- Every amount adds up if and only if the period, in lowest terms, is one over something, or
`n / (1000000 * n * k + 1)`; whole seconds are the case of `k = 0`. -/
theorem addsUp_iff_period :
    (∀ n, q.AddsUp n) ↔
      q.value.num = 1 ∨ q.value.den % (1000000 * q.value.num.natAbs) = 1 := by
  have hnum := value_num_pos q
  have hone : q.value.num = 1 ↔ q.value.num.natAbs = 1 := by omega
  rw [hone, ← remainders_fit_iff (by decide) (Int.natAbs_pos.mpr hnum.ne') q.value.reduced.symm]
  constructor
  · intro h a u hu
    have hau := (addsUp_iff q (a * 1000000 + u)).mp (h _)
    have hdiv : (a * 1000000 + u) / 1000000 = a := by omega
    have hmod : (a * 1000000 + u) % 1000000 = u := by omega
    rwa [hdiv, hmod] at hau
  · intro h n
    exact (addsUp_iff q n).mpr (h _ _ (Nat.mod_lt _ (by decide)))

end Periods

end RmqCxx
