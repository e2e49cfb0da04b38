/-
# `RmqCxx.Polling` — turns with nothing left of the timeout

A consumer with a timeout of zero asks `amqp_consume_message` to wait for nothing in every turn,
whatever the clock says.  Only where something other than a delivery has arrived does it wait
again, and then no longer than the clock went on during the first wait (`turn_waits`).
-/
import RmqCxx.Deliveries
import RmqCxx.SecondWait

namespace RmqCxx

open Cpp Code

variable [Library]

/-! ## Brief waits -/

/-- A wait for no time, or a second one that is at most as long as the first took. -/
def Brief (wait : Option Timeval) : Prop :=
  ∃ tv, wait = some tv ∧ tv.Normalised ∧
    (tv = ⟨0, 0⟩ ∨ ∃ n, Unexpected (Library.consumeMessage (n + 1)).reply ∧
      tv.micros * 1000 ≤ max ((Library.now (n + 2)).count - (Library.now n).count) 0)

/-- From `w` to `w'`, all waits were brief. -/
def World.WaitsBriefly (w w' : World) : Prop :=
  ∃ waits, w'.waits = w.waits ++ waits ∧ ∀ wait ∈ waits, Brief wait

theorem brief_zero : Brief (some ⟨0, 0⟩) :=
  ⟨_, rfl, ⟨Int.le_refl 0, Int.le_refl 0, by decide⟩, .inl rfl⟩

/-- The second wait of a call from `w` that was given no time. -/
theorem brief_remaining {w : World} {start now : ClockDuration}
    (h : secondReadings w = some (start, now)) :
    Brief (some (Connection.remaining ⟨0, 0⟩ start now)) := by
  have hzero : (⟨0, 0⟩ : Timeval).Normalised := ⟨Int.le_refl 0, Int.le_refl 0, by decide⟩
  obtain ⟨hnormalised, hmicros⟩ := remaining_micros hzero start now
  rw [secondReadings] at h
  split at h
  · next hunexpected =>
      cases h
      refine ⟨_, rfl, hnormalised, .inr ⟨w.calls, hunexpected, ?_⟩⟩
      rw [hmicros, show (⟨0, 0⟩ : Timeval).micros = 0 from rfl]
      split <;> omega
  · cases h

/-! ## The turns -/

omit [Library] in
theorem nextTimeout_zero (start now : ClockDuration) : nextTimeout ⟨0⟩ start now = ⟨0⟩ := by
  obtain ⟨hnonneg, hle⟩ := nextTimeout_bounds ⟨0⟩ start now
  rw [Int.max_self] at hle
  exact congrArg Duration.mk (Int.le_antisymm hle hnonneg)

/-- The waits of a call of `consume` that is given no time. -/
theorem callWaits_zero (w : World) :
    ∀ tv ∈ callWaits (secondReadings w) (⟨0⟩ : ClockDuration), Brief (some tv) := by
  cases hsecond : secondReadings w with
  | none => exact List.forall_mem_singleton.mpr brief_zero
  | some readings =>
      refine List.forall_mem_cons.mpr ⟨brief_zero, List.forall_mem_singleton.mpr ?_⟩
      exact brief_remaining hsecond

/-- All waits of a turn are brief if nothing is left of the timeout. -/
theorem Consumer.turn_waits (locals : Locals) (start : ClockDuration)
    {vars : ClockDuration × Bool} (hvars : vars.1 = ⟨0⟩) (w : World) :
    w.WaitsBriefly ((locals.turn start vars).run ([], w)).2.2 := by
  have hwaits := (turn_takes locals start vars w).waits
  rw [hvars, nextTimeout_zero, seenWaits_eq] at hwaits
  refine ⟨_, hwaits, fun wait hwait => ?_⟩
  obtain ⟨tv, htv, rfl⟩ := List.mem_map.mp hwait
  exact callWaits_zero w.tick tv htv

end RmqCxx
