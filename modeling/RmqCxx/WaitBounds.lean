/-
# `RmqCxx.WaitBounds` — the timevals that the consumers hand to the library

Whatever the clock says, and whatever is received, the timeouts of a consumer never grow
and are never negative, and `timeValue` splits what is not negative into a normalised
`timeval`.  What `amqp_consume_message` is handed is read off the log of a connection.
-/
import RmqCxx.Deadlines
import RmqCxx.Observations

namespace RmqCxx

open Cpp Code

/-! ## The timevals of a connection -/

/-- The timevals of the calls of `amqp_consume_message` that were logged. -/
def World.timevals (w : World) : List Timeval :=
  w.log.filterMap fun e =>
    match e with
    | .call .consumeMessage _ [.timeval (some tv), .num _] => some tv
    | _ => none

/-- The timeval of a call of `amqp_consume_message`. -/
def firstTimeval : CFunction → List Arg → Option Timeval
  | .consumeMessage, [.timeval (some tv), .num _] => some tv
  | _, _ => none

theorem firstTimeval_ofWaits : OfWaits firstTimeval := ⟨rfl, fun _ => rfl⟩

theorem timevals_eq (w : World) : w.timevals = w.observe firstTimeval := by
  refine List.filterMap_congr fun e _ => ?_
  split
  · rfl
  · next hother =>
      split
      · rw [firstTimeval.eq_def]
        split
        · exact absurd rfl (hother _ _ _)
        · rfl
      · rfl

theorem connection_records [Library] (self : Connection) :
    self.source.Records World.timevals timeValue where
  take timeout w := by
    rw [timevals_eq, timevals_eq, source_take_observe firstTimeval_ofWaits]
    have hseen : seenWaits firstTimeval (some (timeValue timeout)) w = [timeValue timeout] := by
      rw [seenWaits]
      cases secondOf (some (timeValue timeout)) w <;> rfl
    rw [hseen]
  leave timeout w w' := by
    rw [timevals_eq, timevals_eq]
    exact source_leave_observe firstTimeval_ofWaits timeout w w'
  ignored received w := by
    rw [timevals_eq, timevals_eq]
    exact observe_ignored firstTimeval w received
  tick _ := rfl

/-! ## The timeouts never grow -/

theorem nextTimeout_bounds (timeout start now : ClockDuration) :
    0 ≤ (nextTimeout timeout start now).count ∧
      (nextTimeout timeout start now).count ≤ max timeout.count 0 := by
  have hcount := nextTimeout_count timeout start now
  split at hcount <;> omega

/-- The induction is on the readings, with what is left of the timeout. -/
theorem internalTimeouts_bounds (start : ClockDuration) (readings : List ClockDuration)
    (timeout : ClockDuration) :
    (∀ t ∈ internalTimeouts start timeout readings, 0 ≤ t.count ∧ t.count ≤ max timeout.count 0) ∧
      (internalTimeouts start timeout readings).Pairwise (fun a b => b.count ≤ a.count) := by
  induction readings generalizing timeout with
  | nil => exact ⟨fun _ h => (List.not_mem_nil h).elim, List.Pairwise.nil⟩
  | cons now readings ih =>
      obtain ⟨hnonneg, hle⟩ := nextTimeout_bounds timeout start now
      obtain ⟨hall, hpairs⟩ := ih (nextTimeout timeout start now)
      rw [Int.max_eq_left hnonneg] at hall
      rw [internalTimeouts]
      refine ⟨fun t ht => ?_, List.pairwise_cons.mpr ⟨fun t ht => (hall t ht).2, hpairs⟩⟩
      rcases List.mem_cons.mp ht with rfl | ht
      · exact ⟨hnonneg, hle⟩
      · exact ⟨(hall t ht).1, Int.le_trans (hall t ht).2 hle⟩

/-! ## Their timevals -/

/-- A timeval in microseconds. -/
def Timeval.micros (tv : Timeval) : Int := tv.tvSec * 1000000 + tv.tvUsec

def Timeval.Normalised (tv : Timeval) : Prop :=
  0 ≤ tv.tvSec ∧ 0 ≤ tv.tvUsec ∧ tv.tvUsec < 1000000

theorem timeValue_of_nonneg {d : ClockDuration} (h : 0 ≤ d.count) :
    timeValue d = ⟨d.count / 1000000000, d.count % 1000000000 / 1000⟩ := by
  rw [ClockDuration.timeValue_eq, Int.tdiv_eq_ediv_of_nonneg h]
  congr 1
  rw [Int.tdiv_eq_ediv_of_nonneg (by omega)]
  omega

theorem timeValue_normalised {d : ClockDuration} (h : 0 ≤ d.count) :
    (timeValue d).Normalised := by
  rw [timeValue_of_nonneg h, Timeval.Normalised]
  dsimp only
  omega

theorem timeValue_micros {d : ClockDuration} (h : 0 ≤ d.count) :
    (timeValue d).micros = d.count / 1000 := by
  rw [timeValue_of_nonneg h, Timeval.micros]
  dsimp only
  omega

/-- What is zero in microseconds is zero. -/
theorem Timeval.eq_zero_of_micros {tv : Timeval} (hnormalised : tv.Normalised)
    (h : tv.micros ≤ 0) : tv = ⟨0, 0⟩ := by
  obtain ⟨sec, usec⟩ := tv
  obtain ⟨hsec, husec, -⟩ := hnormalised
  rw [Timeval.micros] at h
  dsimp only at h hsec husec
  congr 1 <;> omega

/-- The cast to nanoseconds rounds towards zero. -/
theorem nanoseconds_le {p : Period} (d : Duration p) :
    max (durationCast .nanoseconds d).count 0 * p.den ≤ max d.count 0 * p.num * 1000000000 := by
  have hcount : (durationCast .nanoseconds d).count =
      (d.count * (p.num * 1000000000 : Nat)).tdiv (p.den * 1 : Nat) :=
    durationCast_count .nanoseconds d
  rw [Nat.mul_one] at hcount
  have hfactor : (0 : Int) ≤ (p.num * 1000000000 : Nat) := Int.natCast_nonneg _
  rcases Int.le_total 0 d.count with hd | hd
  · rw [Int.tdiv_eq_ediv_of_nonneg (Int.mul_nonneg hd hfactor)] at hcount
    rw [Int.max_eq_left (durationCast_nonneg hd), Int.max_eq_left hd, hcount, Int.mul_assoc]
    exact Int.ediv_mul_le _ (Int.natCast_ne_zero.mpr (Nat.ne_of_gt p.den_pos))
  · have hneg : 0 ≤ (-(d.count * (p.num * 1000000000 : Nat))).tdiv p.den :=
      Int.tdiv_nonneg (Int.neg_nonneg_of_nonpos
        (Int.mul_nonpos_of_nonpos_of_nonneg hd hfactor)) (Int.natCast_nonneg _)
    rw [Int.neg_tdiv, ← hcount] at hneg
    rw [Int.max_eq_right (by omega), Int.max_eq_right hd, Int.zero_mul, Int.zero_mul]
    exact Int.le_refl 0

/-- What is handed to `amqp_consume_message` by a consumer with this timeout. -/
structure ValidWaits {p : Period} (timeout : Duration p) (tvs : List Timeval) : Prop where
  normalised : ∀ tv ∈ tvs, tv.Normalised
  bounded : ∀ tv ∈ tvs, tv.micros * p.den ≤ max timeout.count 0 * p.num * 1000000
  shrinking : tvs.Pairwise (fun before after => after.micros ≤ before.micros)
  zero : tvs.Pairwise (fun before after => before = ⟨0, 0⟩ → after = ⟨0, 0⟩)

theorem validWaits_of_readings {p : Period} (timeout : Duration p) (start : ClockDuration)
    (readings : List ClockDuration) :
    ValidWaits timeout
      ((internalTimeouts start (durationCast .nanoseconds timeout) readings).map timeValue) := by
  obtain ⟨hall, hpairs⟩ :=
    internalTimeouts_bounds start readings (durationCast .nanoseconds timeout)
  have hnormalised (tv : Timeval) (htv : tv ∈ (internalTimeouts start
      (durationCast .nanoseconds timeout) readings).map timeValue) : tv.Normalised := by
    obtain ⟨t, ht, rfl⟩ := List.mem_map.mp htv
    exact timeValue_normalised (hall t ht).1
  have hshrinking : ((internalTimeouts start (durationCast .nanoseconds timeout) readings).map
      timeValue).Pairwise (fun before after => after.micros ≤ before.micros) := by
    rw [List.pairwise_map]
    refine hpairs.imp_of_mem fun {a b} ha hb hle => ?_
    rw [timeValue_micros (hall a ha).1, timeValue_micros (hall b hb).1]
    exact Int.ediv_le_ediv (by decide) hle
  refine ⟨hnormalised, fun tv htv => ?_, hshrinking, ?_⟩
  · obtain ⟨t, ht, rfl⟩ := List.mem_map.mp htv
    obtain ⟨hnonneg, hle⟩ := hall t ht
    have hnanoseconds := nanoseconds_le timeout
    rw [timeValue_micros hnonneg]
    have hden : (0 : Int) ≤ p.den := Int.natCast_nonneg _
    have hmul : t.count * p.den ≤ max (durationCast .nanoseconds timeout).count 0 * p.den :=
      Int.mul_le_mul_of_nonneg_right hle hden
    have hdiv : t.count / 1000 * p.den * 1000 ≤ t.count * p.den := by
      rw [Int.mul_right_comm]
      exact Int.mul_le_mul_of_nonneg_right (Int.ediv_mul_le _ (by decide)) hden
    omega
  · refine hshrinking.imp_of_mem fun {a b} ha hb hle hzero => ?_
    refine Timeval.eq_zero_of_micros (hnormalised b hb) (Int.le_trans hle ?_)
    rw [hzero]
    exact Int.le_refl 0

/-- Under any clock, and whatever is received: the timevals that a consumer hands to
`amqp_consume_message` before it ends are valid and bounded, and on its way out it hands none. -/
theorem waits_valid [Library] (kind : MessageKind) (self : Connection) {p : Period}
    (timeout : Duration p) (fuel : Nat) (w : World) :
    ∃ (progress : Progress) (tvs : List Timeval),
      (∀ callback, (kind.timed self.consuming timeout callback fuel).run w =
        kind.conclude callback progress) ∧
      progress.world.timevals = w.timevals ++ tvs ∧
      (∀ ending ∈ progress.ending, ∀ w', (ending.2 w').timevals = w'.timevals) ∧
      ValidWaits timeout tvs := by
  have hrecords := progress_records (connection_records self) kind (Library.now w.calls) fuel
    (durationCast .nanoseconds timeout) w.tick
  refine ⟨_, _, fun callback => ?_, hrecords, fun ending hending => ?_,
    validWaits_of_readings timeout _ _⟩
  · rw [Connection.consuming_eq, timed_run]
  · obtain ⟨t, w₁, hleave⟩ := progress_leaves self.source kind (Library.now w.calls) fuel
      (durationCast .nanoseconds timeout) w.tick ending hending
    intro w'
    rw [hleave]
    exact (connection_records self).leave t w₁ w'

end RmqCxx
