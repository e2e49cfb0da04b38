/-
# `RmqCxx.Chrono` — durations, and their conversion to and from `timeval`

A `std::chrono::duration` is an integer count of a period, the period being part
of its type.  `duration_cast` multiplies by the quotient of the two periods in
lowest terms and truncates towards zero; the difference of two durations and
their comparison are taken in a common period that divides both.

Counts are exact integers here.
-/
import Mathlib.Tactic.Common

namespace RmqCxx

/-- `std::ratio`, as the period of a duration: seconds per tick. -/
structure Period where
  num : Nat
  den : Nat
  num_pos : 0 < num := by decide
  den_pos : 0 < den := by decide
  deriving DecidableEq

namespace Period

def seconds : Period := { num := 1, den := 1 }
def microseconds : Period := { num := 1, den := 1000000 }
def milliseconds : Period := { num := 1, den := 1000 }
def nanoseconds : Period := { num := 1, den := 1000000000 }
def minutes : Period := { num := 60, den := 1 }
def hours : Period := { num := 3600, den := 1 }

/-- The period of `std::common_type` of two durations. -/
def common (p q : Period) : Period where
  num := Nat.gcd p.num q.num
  den := Nat.lcm p.den q.den
  num_pos := Nat.gcd_pos_of_pos_left _ p.num_pos
  den_pos := Nat.lcm_pos p.den_pos q.den_pos

end Period

/-- `std::chrono::duration` with an integer count. -/
@[ext]
structure Duration (p : Period) where
  count : Int
  deriving DecidableEq, Repr

/-- `std::chrono::duration_cast`. -/
def durationCast {p : Period} (q : Period) (d : Duration p) : Duration q :=
  let num := p.num * q.den
  let den := p.den * q.num
  let g := Nat.gcd num den
  ⟨Int.tdiv (d.count * (num / g : Nat)) (den / g : Nat)⟩

/-- The two periods in lowest terms or not: the quotient is the same. -/
theorem durationCast_count {p : Period} (q : Period) (d : Duration p) :
    (durationCast q d).count =
      (d.count * (p.num * q.den : Nat)).tdiv (p.den * q.num : Nat) := by
  show Int.tdiv (d.count * (p.num * q.den / Nat.gcd (p.num * q.den) (p.den * q.num) : Nat))
    (p.den * q.num / Nat.gcd (p.num * q.den) (p.den * q.num) : Nat) = _
  generalize p.num * q.den = n
  have hm : 0 < p.den * q.num := Nat.mul_pos p.den_pos q.num_pos
  generalize p.den * q.num = m at hm ⊢
  have hg : (0 : Int) < Nat.gcd n m := Int.natCast_pos.mpr (Nat.gcd_pos_of_pos_right n hm)
  obtain ⟨n', hn⟩ := Nat.gcd_dvd_left n m
  obtain ⟨m', hm'⟩ := Nat.gcd_dvd_right n m
  generalize Nat.gcd n m = g at hg hn hm' ⊢
  subst hn hm'
  have hg' : 0 < g := Int.natCast_pos.mp hg
  rw [Nat.mul_div_cancel_left n' hg', Nat.mul_div_cancel_left m' hg', Int.natCast_mul,
    Int.natCast_mul, Int.mul_left_comm, Int.mul_tdiv_mul_of_pos _ _ hg]

/-- The cast to a period that divides the duration's own. -/
theorem durationCast_exact {p q : Period} (d : Duration p) {k : Nat}
    (h : p.num * q.den = k * (p.den * q.num)) : (durationCast q d).count = d.count * k := by
  have hm : ((p.den * q.num : Nat) : Int) ≠ 0 :=
    Int.natCast_ne_zero.mpr (Nat.ne_of_gt (Nat.mul_pos p.den_pos q.num_pos))
  rw [durationCast_count, h, Int.natCast_mul, ← Int.mul_assoc, Int.mul_tdiv_cancel _ hm]

theorem durationCast_nonneg {p q : Period} {d : Duration p} (h : 0 ≤ d.count) :
    0 ≤ (durationCast q d).count := by
  rw [durationCast_count]
  exact Int.tdiv_nonneg (Int.mul_nonneg h (Int.natCast_nonneg _)) (Int.natCast_nonneg _)

namespace Duration

variable {p q : Period}

def zero : Duration p := ⟨0⟩

/-- `d - e`. -/
def sub (d : Duration p) (e : Duration q) : Duration (p.common q) :=
  ⟨(durationCast (p.common q) d).count - (durationCast (p.common q) e).count⟩

/-- `d - e` of two durations of one type. -/
def minus (d e : Duration p) : Duration p := ⟨d.count - e.count⟩

/-- `d < e`. -/
def lt (d : Duration p) (e : Duration q) : Bool :=
  decide ((durationCast (p.common q) d).count < (durationCast (p.common q) e).count)

/-- `std::max(d, e)`. -/
def max (d e : Duration p) : Duration p := if d.lt e then e else d

end Duration

/-- `std::chrono::high_resolution_clock::duration`, and readings of that clock
as the time since its epoch. -/
abbrev ClockDuration := Duration .nanoseconds

/-- `::timeval`. -/
structure Timeval where
  tvSec : Int
  tvUsec : Int
  deriving DecidableEq, Repr

/-- `timeValue(duration)`. -/
def timeValue {p : Period} (duration : Duration p) : Timeval :=
  let seconds := durationCast .seconds duration
  { tvSec := seconds.count
    tvUsec := (durationCast .microseconds (duration.sub seconds)).count }

/-- `durationValue<Duration>(tv)`. -/
def durationValue (p : Period) (tv : Timeval) : Duration p :=
  ⟨(durationCast p (⟨tv.tvSec⟩ : Duration .seconds)).count
    + (durationCast p (⟨tv.tvUsec⟩ : Duration .microseconds)).count⟩

/-! ## At the periods of the clock -/

theorem ClockDuration.lt_iff (d e : ClockDuration) : d.lt e = decide (d.count < e.count) := by
  have hcast (d : ClockDuration) :
      (durationCast (Period.common .nanoseconds .nanoseconds) d).count = d.count * (1 : Nat) :=
    durationCast_exact d rfl
  rw [Duration.lt, hcast, hcast]
  simp only [Int.natCast_one, Int.mul_one]

theorem ClockDuration.max_count (d e : ClockDuration) :
    (d.max e).count = Max.max d.count e.count := by
  rw [Duration.max, ClockDuration.lt_iff]
  split
  · next h => exact (Int.max_eq_right (Int.le_of_lt (of_decide_eq_true h))).symm
  · next h => exact (Int.max_eq_left (Int.not_lt.mp (fun hlt => h (decide_eq_true hlt)))).symm

/-- `timeValue` of nanoseconds. -/
theorem ClockDuration.timeValue_eq (d : ClockDuration) :
    timeValue d =
      ⟨d.count.tdiv 1000000000, (d.count - d.count.tdiv 1000000000 * 1000000000).tdiv 1000⟩ := by
  have hseconds : (durationCast .seconds d).count = d.count.tdiv 1000000000 := by
    rw [durationCast_count]
    show (d.count * (1 : Nat)).tdiv (1000000000 : Nat) = _
    rw [Int.natCast_one, Int.mul_one]
    rfl
  have hrest : (d.sub (durationCast .seconds d)).count =
      d.count - d.count.tdiv 1000000000 * 1000000000 := by
    rw [Duration.sub, durationCast_exact d (k := 1) rfl,
      durationCast_exact (durationCast .seconds d) (k := 1000000000) rfl, hseconds,
      Int.natCast_one, Int.mul_one]
    rfl
  have husec : (durationCast .microseconds (d.sub (durationCast .seconds d))).count =
      (d.count - d.count.tdiv 1000000000 * 1000000000).tdiv 1000 := by
    rw [durationCast_count, hrest]
    show ((_ : Int) * (1000000 : Nat)).tdiv (1000000000 : Nat) = _
    generalize d.count - _ = n
    have h := Int.mul_tdiv_mul_of_pos n 1000 (show (0 : Int) < 1000000 by decide)
    rw [← h, Int.mul_comm]
    rfl
  rw [timeValue, hseconds, husec]

example : timeValue (⟨1500⟩ : Duration { num := 1, den := 1000 }) = ⟨1, 500000⟩ := by decide

end RmqCxx
