/-
# `RmqCxx.Chrono64` — durations whose counts are 64-bit integers

The conversions of `RmqCxx.Chrono` on the machine: each product, sum and difference is
computed in a signed 64-bit integer, and there is no result when one of them does not fit.
A conversion multiplies only when the quotient of the two periods is not one over something,
and a truncating division never overflows.

`timeValue64_sound` and its like say that a result is the exact one; the lemmas about the
standard units say when there is a result.
-/
import RmqCxx.Chrono

namespace RmqCxx

/-! ## Signed 64-bit integers -/

/-- The value is one of an `int64_t`. -/
def Fits64 (n : Int) : Prop := -9223372036854775808 ≤ n ∧ n ≤ 9223372036854775807

instance (n : Int) : Decidable (Fits64 n) := inferInstanceAs (Decidable (_ ∧ _))

/-- The result of an operation; `none` is overflow. -/
def int64 (n : Int) : Option Int := if Fits64 n then some n else none

/-- `n * factor`, left out when the factor is one. -/
def scale64 (n : Int) (factor : Nat) : Option Int :=
  if factor = 1 then some n else int64 (n * factor)

theorem int64_of_fits {n : Int} (h : Fits64 n) : int64 n = some n := if_pos h

theorem int64_eq_some {n m : Int} (h : int64 n = some m) : m = n ∧ Fits64 n := by
  unfold int64 at h
  split at h
  · next hfits => exact ⟨(Option.some.inj h).symm, hfits⟩
  · cases h

theorem int64_of_not_fits {n : Int} (h : ¬ Fits64 n) : int64 n = none := if_neg h

theorem scale64_one (n : Int) : scale64 n 1 = some n := rfl

theorem scale64_of_ne {k : Nat} (hk : k ≠ 1) (n : Int) : scale64 n k = int64 (n * k) := if_neg hk

theorem scale64_eq_some {n m : Int} {k : Nat} (h : scale64 n k = some m) : m = n * k := by
  unfold scale64 at h
  split at h
  · next hk =>
      rw [hk, Int.natCast_one, Int.mul_one]
      exact (Option.some.inj h).symm
  · exact (int64_eq_some h).1

/-! ## The conversions -/

/-- `std::chrono::duration_cast`. -/
def durationCast64 {p : Period} (q : Period) (d : Duration p) : Option (Duration q) :=
  let num := p.num * q.den
  let den := p.den * q.num
  let g := Nat.gcd num den
  (scale64 d.count (num / g)).map fun n => ⟨Int.tdiv n (den / g : Nat)⟩

namespace Duration

variable {p q : Period}

/-- `d - e`. -/
def sub64 (d : Duration p) (e : Duration q) : Option (Duration (p.common q)) := do
  let d ← durationCast64 (p.common q) d
  let e ← durationCast64 (p.common q) e
  let n ← int64 (d.count - e.count)
  pure ⟨n⟩

/-- `d - e` of two durations of one type. -/
def minus64 (d e : Duration p) : Option (Duration p) := (int64 (d.count - e.count)).map Duration.mk

/-- `d < e`. -/
def lt64 (d : Duration p) (e : Duration q) : Option Bool := do
  let d ← durationCast64 (p.common q) d
  let e ← durationCast64 (p.common q) e
  pure (decide (d.count < e.count))

end Duration

/-- `timeValue(duration)`. -/
def timeValue64 {p : Period} (duration : Duration p) : Option Timeval := do
  let seconds ← durationCast64 .seconds duration
  let rest ← duration.sub64 seconds
  let microseconds ← durationCast64 .microseconds rest
  pure { tvSec := seconds.count, tvUsec := microseconds.count }

/-- `durationValue<Duration>(tv)`. -/
def durationValue64 (p : Period) (tv : Timeval) : Option (Duration p) := do
  let seconds ← durationCast64 p (⟨tv.tvSec⟩ : Duration .seconds)
  let microseconds ← durationCast64 p (⟨tv.tvUsec⟩ : Duration .microseconds)
  let n ← int64 (seconds.count + microseconds.count)
  pure ⟨n⟩

/-! ## A result is exact -/

section Sound

variable {p q : Period} {d : Duration p} {e : Duration q}

theorem durationCast64_sound {d' : Duration q} (h : durationCast64 q d = some d') :
    d' = durationCast q d := by
  obtain ⟨n, hn, rfl⟩ := Option.map_eq_some_iff.mp h
  rw [scale64_eq_some hn]
  rfl

theorem sub64_sound {d' : Duration (p.common q)} (h : d.sub64 e = some d') : d' = d.sub e := by
  simp only [Duration.sub64, Option.bind_eq_bind, Option.bind_eq_some_iff] at h
  obtain ⟨d₁, hd, e₁, he, n, hn, h⟩ := h
  cases h
  rw [Duration.sub, ← durationCast64_sound hd, ← durationCast64_sound he, (int64_eq_some hn).1]

theorem minus64_sound {d e d' : Duration p} (h : d.minus64 e = some d') : d' = d.minus e := by
  obtain ⟨n, hn, rfl⟩ := Option.map_eq_some_iff.mp h
  rw [Duration.minus, (int64_eq_some hn).1]

theorem lt64_sound {b : Bool} (h : d.lt64 e = some b) : b = d.lt e := by
  simp only [Duration.lt64, Option.bind_eq_bind, Option.bind_eq_some_iff] at h
  obtain ⟨d₁, hd, e₁, he, h⟩ := h
  cases h
  rw [Duration.lt, ← durationCast64_sound hd, ← durationCast64_sound he]

theorem timeValue64_sound {tv : Timeval} (h : timeValue64 d = some tv) : tv = timeValue d := by
  simp only [timeValue64, Option.bind_eq_bind, Option.bind_eq_some_iff] at h
  obtain ⟨seconds, hseconds, rest, hrest, microseconds, hmicroseconds, h⟩ := h
  cases h
  rw [durationCast64_sound hmicroseconds, sub64_sound hrest, durationCast64_sound hseconds]
  rfl

theorem durationValue64_sound {tv : Timeval} {d' : Duration p}
    (h : durationValue64 p tv = some d') : d' = durationValue p tv := by
  simp only [durationValue64, Option.bind_eq_bind, Option.bind_eq_some_iff] at h
  obtain ⟨seconds, hseconds, microseconds, hmicroseconds, n, hn, h⟩ := h
  cases h
  rw [durationValue, ← durationCast64_sound hseconds, ← durationCast64_sound hmicroseconds,
    (int64_eq_some hn).1]

end Sound

/-! ## When there is one -/

section Casts

variable {p q : Period}

/-- The cast to a period that divides the duration's own. -/
theorem durationCast64_mul (d : Duration p) {k : Nat}
    (h : p.num * q.den = k * (p.den * q.num)) :
    durationCast64 q d = (scale64 d.count k).map Duration.mk := by
  have hm : 0 < p.den * q.num := Nat.mul_pos p.den_pos q.num_pos
  unfold durationCast64
  simp only [h, Nat.gcd_mul_left_left, Nat.mul_div_cancel _ hm, Nat.div_self hm,
    Int.natCast_one, Int.tdiv_one]

theorem durationCast64_one (d : Duration p) (h : p.num * q.den = 1 * (p.den * q.num)) :
    durationCast64 q d = some ⟨d.count⟩ := by
  rw [durationCast64_mul d h, scale64_one]
  rfl

/-- The cast to a multiple of the duration's own period. -/
theorem durationCast64_div (d : Duration p) {k : Nat}
    (h : p.den * q.num = k * (p.num * q.den)) :
    durationCast64 q d = some ⟨d.count.tdiv k⟩ := by
  have hm : 0 < p.num * q.den := Nat.mul_pos p.num_pos q.den_pos
  unfold durationCast64
  simp only [h, Nat.gcd_mul_left_right, Nat.mul_div_cancel _ hm, Nat.div_self hm, scale64_one,
    Option.map_some]

theorem durationCast64_div_nonneg (d : Duration p) {k : Nat}
    (h : p.den * q.num = k * (p.num * q.den)) (hnonneg : 0 ≤ d.count) :
    durationCast64 q d = some ⟨d.count / k⟩ := by
  rw [durationCast64_div d h, Int.tdiv_eq_ediv_of_nonneg hnonneg]

theorem durationCast64_of_fits (d : Duration p) {k : Nat}
    (h : p.num * q.den = k * (p.den * q.num)) (hfits : Fits64 (d.count * k)) :
    durationCast64 q d = some ⟨d.count * k⟩ := by
  rw [durationCast64_mul d h, scale64]
  split
  · next hk => rw [hk, Int.natCast_one, Int.mul_one, Option.map_some]
  · rw [int64_of_fits hfits, Option.map_some]

theorem durationCast64_of_not_fits (d : Duration p) {k : Nat} (hk : k ≠ 1)
    (h : p.num * q.den = k * (p.den * q.num)) (hfits : ¬ Fits64 (d.count * k)) :
    durationCast64 q d = none := by
  rw [durationCast64_mul d h, scale64_of_ne hk, int64_of_not_fits hfits, Option.map_none]

theorem sub64_of {d : Duration p} {e : Duration q} {a b : Int}
    (hd : durationCast64 (p.common q) d = some ⟨a⟩)
    (he : durationCast64 (p.common q) e = some ⟨b⟩) :
    d.sub64 e = (int64 (a - b)).map Duration.mk := by
  simp only [Duration.sub64, hd, he, Option.bind_eq_bind, Option.bind_some]
  cases int64 (a - b) <;> rfl

theorem timeValue64_of {d : Duration p} {seconds rest microseconds : Int}
    (hseconds : durationCast64 .seconds d = some ⟨seconds⟩)
    (hrest : d.sub64 (⟨seconds⟩ : Duration .seconds) = some ⟨rest⟩)
    (hmicroseconds : durationCast64 .microseconds (⟨rest⟩ : Duration (p.common .seconds)) =
      some ⟨microseconds⟩) :
    timeValue64 d = some ⟨seconds, microseconds⟩ := by
  rw [timeValue64, hseconds, Option.bind_eq_bind, Option.bind_some, hrest, Option.bind_eq_bind,
    Option.bind_some, hmicroseconds, Option.bind_eq_bind, Option.bind_some]
  rfl

end Casts

/-! ## The standard units -/

/-- The durations of the standard library up to hours. -/
inductive StandardUnit where
  | nanoseconds | microseconds | milliseconds | seconds | minutes | hours
  deriving DecidableEq, Repr

namespace StandardUnit

def period : StandardUnit → Period
  | nanoseconds => .nanoseconds
  | microseconds => .microseconds
  | milliseconds => .milliseconds
  | seconds => .seconds
  | minutes => .minutes
  | hours => .hours

/-- Nanoseconds per tick. -/
def nanos : StandardUnit → Nat
  | nanoseconds => 1
  | microseconds => 1000
  | milliseconds => 1000000
  | seconds => 1000000000
  | minutes => 60000000000
  | hours => 3600000000000

theorem period_nanos (u : StandardUnit) :
    u.period.num * Period.nanoseconds.den = u.nanos * (u.period.den * Period.nanoseconds.num) := by
  cases u <;> rfl

end StandardUnit

/-- A duration in nanoseconds. -/
def Duration.inNanos {u : StandardUnit} (d : Duration u.period) : Int := d.count * u.nanos

section Units

variable {u : StandardUnit} {d : Duration u.period}

/-- The cast to the clock's duration. -/
theorem cast_clock (hfits : Fits64 d.count) :
    durationCast64 .nanoseconds d =
      if Fits64 d.inNanos then some (⟨d.inNanos⟩ : ClockDuration) else none := by
  split
  · next h => exact durationCast64_of_fits d u.period_nanos h
  · next h =>
      refine durationCast64_of_not_fits d ?_ u.period_nanos h
      intro hone
      refine h ?_
      rw [Duration.inNanos, hone, Int.natCast_one, Int.mul_one]
      exact hfits

/-- A unit of which a second has `m` ticks; the rest is cast to microseconds. -/
theorem timeValue64_fine {p : Period} {d : Duration p} (m : Nat) (hm : 0 < m)
    (hseconds : p.den * Period.seconds.num = m * (p.num * Period.seconds.den))
    (hown : p.num * (p.common .seconds).den = 1 * (p.den * (p.common .seconds).num))
    (hback : Period.seconds.num * (p.common .seconds).den =
      m * (Period.seconds.den * (p.common .seconds).num))
    (hfits : Fits64 d.count) (hnonneg : 0 ≤ d.count) {usec : Int}
    (husec : durationCast64 .microseconds (⟨d.count % m⟩ : Duration (p.common .seconds)) =
      some ⟨usec⟩) :
    timeValue64 d = some ⟨d.count / m, usec⟩ := by
  have hle : d.count / m * m ≤ d.count := Int.ediv_mul_le _ (by omega)
  have hdiv : 0 ≤ d.count / m * m :=
    Int.mul_nonneg (Int.ediv_nonneg hnonneg (by omega)) (by omega)
  have hrest : d.count - d.count / m * m = d.count % m := by
    rw [Int.emod_def, Int.mul_comm]
  obtain ⟨hlow, hhigh⟩ := hfits
  have hcast : durationCast64 .seconds d = some ⟨d.count / m⟩ :=
    durationCast64_div_nonneg d hseconds hnonneg
  have hproduct : Fits64 (d.count / m * m) := ⟨by omega, by omega⟩
  have hdifference : Fits64 (d.count - d.count / m * m) := ⟨by omega, by omega⟩
  refine timeValue64_of hcast ?_ husec
  rw [sub64_of (durationCast64_one d hown)
    (durationCast64_of_fits (⟨d.count / m⟩ : Duration .seconds) hback hproduct),
    int64_of_fits hdifference, hrest]
  rfl

/-- A unit of `j` seconds. -/
theorem timeValue64_coarse {p : Period} {d : Duration p} (j : Nat) (hj : j ≠ 1)
    (hseconds : p.num * Period.seconds.den = j * (p.den * Period.seconds.num))
    (hown : p.num * (p.common .seconds).den = j * (p.den * (p.common .seconds).num))
    (hback : Period.seconds.num * (p.common .seconds).den =
      1 * (Period.seconds.den * (p.common .seconds).num))
    (husec : durationCast64 .microseconds (⟨0⟩ : Duration (p.common .seconds)) = some ⟨0⟩) :
    timeValue64 d = if Fits64 (d.count * j) then some ⟨d.count * j, 0⟩ else none := by
  split
  · next hfits =>
      refine timeValue64_of (durationCast64_of_fits d hseconds hfits) ?_ husec
      rw [sub64_of (durationCast64_of_fits d hown hfits)
        (durationCast64_one (⟨d.count * j⟩ : Duration .seconds) hback), Int.sub_self]
      rfl
  · next hfits =>
      rw [timeValue64, durationCast64_of_not_fits d hj hseconds hfits]
      rfl

/-- `timeValue` of any of the units: only the seconds may not fit. -/
theorem timeValue64_unit (hfits : Fits64 d.count) (hnonneg : 0 ≤ d.count) :
    timeValue64 d =
      if Fits64 (d.inNanos / 1000000000) then
        some ⟨d.inNanos / 1000000000, d.inNanos % 1000000000 / 1000⟩
      else none := by
  have hhigh := hfits.2
  cases u with
  | nanoseconds =>
      have hrest : 0 ≤ d.count % 1000000000 := Int.emod_nonneg _ (by decide)
      have husec := durationCast64_div_nonneg (q := .microseconds) (k := 1000)
        (⟨d.count % 1000000000⟩ : Duration (Period.nanoseconds.common .seconds)) rfl hrest
      have hnanos : d.inNanos = d.count := Int.mul_one d.count
      rw [hnanos, if_pos ⟨by omega, by omega⟩]
      exact timeValue64_fine 1000000000 (by decide) rfl rfl rfl hfits hnonneg husec
  | microseconds =>
      have husec := durationCast64_one (q := .microseconds)
        (⟨d.count % 1000000⟩ : Duration (Period.microseconds.common .seconds)) rfl
      have hnanos : d.inNanos = d.count * 1000 := rfl
      have hseconds : d.inNanos / 1000000000 = d.count / 1000000 := by omega
      have hmicros : d.inNanos % 1000000000 / 1000 = d.count % 1000000 := by omega
      rw [hseconds, hmicros, if_pos ⟨by omega, by omega⟩]
      exact timeValue64_fine 1000000 (by decide) rfl rfl rfl hfits hnonneg husec
  | milliseconds =>
      have husec := durationCast64_of_fits (q := .microseconds) (k := 1000)
        (⟨d.count % 1000⟩ : Duration (StandardUnit.milliseconds.period.common .seconds)) rfl
        ⟨by dsimp only; omega, by dsimp only; omega⟩
      have hnanos : d.inNanos = d.count * 1000000 := rfl
      have hseconds : d.inNanos / 1000000000 = d.count / 1000 := by omega
      have hmicros : d.inNanos % 1000000000 / 1000 = d.count % 1000 * 1000 := by omega
      rw [hseconds, hmicros, if_pos ⟨by omega, by omega⟩]
      exact timeValue64_fine 1000 (by decide) rfl rfl rfl hfits hnonneg husec
  | seconds =>
      have husec : durationCast64 .microseconds
          (⟨d.count % 1⟩ : Duration (Period.seconds.common .seconds)) = some ⟨0⟩ := by
        rw [Int.emod_one]
        rfl
      have hnanos : d.inNanos = d.count * 1000000000 := rfl
      have hseconds : d.inNanos / 1000000000 = d.count / 1 := by omega
      have hmicros : d.inNanos % 1000000000 / 1000 = 0 := by omega
      rw [hseconds, hmicros, if_pos ⟨by omega, by omega⟩]
      exact timeValue64_fine 1 (by decide) rfl rfl rfl hfits hnonneg husec
  | minutes =>
      have hnanos : d.inNanos = d.count * 60000000000 := rfl
      have hseconds : d.inNanos / 1000000000 = d.count * 60 := by omega
      have hmicros : d.inNanos % 1000000000 / 1000 = 0 := by omega
      rw [hseconds, hmicros]
      exact timeValue64_coarse 60 (by decide) rfl rfl rfl rfl
  | hours =>
      have hnanos : d.inNanos = d.count * 3600000000000 := rfl
      have hseconds : d.inNanos / 1000000000 = d.count * 3600 := by omega
      have hmicros : d.inNanos % 1000000000 / 1000 = 0 := by omega
      rw [hseconds, hmicros]
      exact timeValue64_coarse 3600 (by decide) rfl rfl rfl rfl

end Units

end RmqCxx
