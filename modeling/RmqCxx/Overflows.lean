/-
# `RmqCxx.Overflows` — the timeout arithmetic of the timed members

Which of the clock's readings a member computes with depends on what it receives.
`secondReadings` and `Connection.turns` are the readings of one call of `consume` and of the
turns of a consumer; `seenWaits_eq` and `progress_waits` say that the timevals handed to the
library are exactly those computed from them.  So the question whether a run overflows is one
about these readings, and `no_overflow_iff` answers it.
-/
import RmqCxx.TimedArithmetic

namespace RmqCxx

open Cpp Code

/-- The timeouts of both waits. -/
def anyWait : CFunction → List Arg → Option (Option Timeval)
  | .consumeMessage, [.timeval tv, .num _] => some tv
  | .simpleWaitFrameNoblock, [.timeval tv] => some tv
  | _, _ => none

theorem anyWait_ofWaits : OfWaits anyWait := ⟨rfl, fun _ => rfl⟩

/-- The timeouts handed to the library, in the order of the calls. -/
def World.waits (w : World) : List (Option Timeval) := w.observe anyWait

section Readings

variable [Library]

/-- The readings of a call from `w`. -/
def secondReadings (w : World) : SecondReadings :=
  if Unexpected (deliveryAnswer w).reply then some (Library.now w.calls, Library.now (w.calls + 2))
  else none

theorem seenWaits_eq {p : Period} (timeout : Duration p) (w : World) :
    seenWaits anyWait (some (timeValue timeout)) w =
      (callWaits (secondReadings w) timeout).map some := by
  rw [seenWaits, secondOf, secondReadings]
  split <;> rfl

/-- The turns of a consumer on a connection, `timeout` being what is left of it. -/
def Connection.turns (self : Connection) (kind : MessageKind) (start : ClockDuration) :
    Nat → ClockDuration → World → List Turn
  | 0, _, _ => []
  | fuel + 1, timeout, w =>
      let now := Library.now w.calls
      let timeout := nextTimeout timeout start now
      let (received, w') := self.source.take (some timeout) w.tick
      let turn := ⟨now, secondReadings w.tick⟩
      if kind.stops received then [turn]
      else
        let left := self.source.leave (some timeout) w.tick (received.ignored w')
        turn :: self.turns kind start fuel timeout left

/-- Those of a consumer that is called in `w`. -/
def Connection.consumerTurns (self : Connection) (kind : MessageKind) {p : Period}
    (timeout : Duration p) (fuel : Nat) (w : World) : List Turn :=
  self.turns kind (Library.now w.calls) fuel (durationCast .nanoseconds timeout) w.tick

variable {self : Connection} {kind : MessageKind} {start timeout : ClockDuration}

/-- The induction is on the number of turns. -/
theorem progress_waits (fuel : Nat) (timeout : ClockDuration) (w : World) :
    (self.source.progress kind start fuel timeout w).world.waits =
        w.waits ++ (turnWaits start timeout (self.turns kind start fuel timeout w)).map some ∧
      (self.turns kind start fuel timeout w).map Turn.now =
        (self.source.progress kind start fuel timeout w).readings := by
  induction fuel generalizing timeout w with
  | zero => exact ⟨(List.append_nil _).symm, rfl⟩
  | succ fuel ih =>
      generalize ht : nextTimeout timeout start (Library.now w.calls) = timeout'
      obtain ⟨received, w', htake⟩ : ∃ received w',
          self.source.take (some timeout') w.tick = (received, w') := ⟨_, _, rfl⟩
      have hwaits : w'.waits =
          w.waits ++ (callWaits (secondReadings w.tick) timeout').map some := by
        have h := @source_take_observe _ self _ _ anyWait_ofWaits timeout' w.tick
        rw [htake, seenWaits_eq] at h
        exact h
      rw [Source.progress, Connection.turns, ht, htake]
      dsimp only
      cases h : kind.stops received with
      | true =>
          simp only [if_true, turnWaits, ht, List.append_nil]
          exact ⟨hwaits, rfl⟩
      | false =>
          simp only [if_neg Bool.false_ne_true, Progress.after, turnWaits, ht, List.map_cons,
            List.map_append]
          obtain ⟨hlater, hreadings⟩ := ih timeout'
            (self.source.leave (some timeout') w.tick (received.ignored w'))
          have hleft : (self.source.leave (some timeout') w.tick (received.ignored w')).waits =
              w'.waits :=
            (source_leave_observe anyWait_ofWaits timeout' _ _).trans
              (observe_ignored anyWait w' received)
          rw [hlater, hreadings, hleft, hwaits, List.append_assoc]
          exact ⟨rfl, rfl⟩

/-- A call of `consume` with this timeout: the timevals it hands on. -/
def Connection.ConsumesFor (self : Connection) {p : Period} (timeout : Duration p) (w : World) :
    Prop :=
  ∃ memory item w', self.Consumes (some (timeValue timeout)) w memory item w' ∧
    w'.waits = w.waits ++ (callWaits (secondReadings w) timeout).map some

/-- A consumer with this timeout: where it gets to in these turns, by these readings of the
clock, and the timevals it hands on. -/
def Connection.TakesTurns (self : Connection) (kind : MessageKind) {p : Period}
    (timeout : Duration p) (fuel : Nat) (w : World) (turns : List Turn) : Prop :=
  ∃ progress : Progress,
    (∀ callback, (kind.timed self.consuming timeout callback fuel).run w =
      kind.conclude callback progress) ∧
    turns.map Turn.now = progress.readings ∧
    progress.world.waits =
      w.waits ++ (consumerWaits (Library.now w.calls) turns timeout).map some ∧
    ∀ ending ∈ progress.ending, ∀ w', (ending.2 w').waits = w'.waits

theorem consumesFor (self : Connection) {p : Period} (timeout : Duration p) (w : World) :
    self.ConsumesFor timeout w := by
  obtain ⟨contents, item, w', hreceive, -⟩ := @receive_fits _ self (some (timeValue timeout)) w
  have hwaits := @receive_observe _ self _ _ anyWait_ofWaits (some (timeValue timeout)) w
  rw [Leaves, hreceive, seenWaits_eq] at hwaits
  exact ⟨_, item, w', consumes_of_receive hreceive, hwaits⟩

theorem takesTurns (self : Connection) (kind : MessageKind) {p : Period} (timeout : Duration p)
    (fuel : Nat) (w : World) :
    self.TakesTurns kind timeout fuel w (self.consumerTurns kind timeout fuel w) := by
  obtain ⟨hwaits, hreadings⟩ := @progress_waits _ self kind (Library.now w.calls) fuel
    (durationCast .nanoseconds timeout) w.tick
  refine ⟨_, fun callback => ?_, hreadings, hwaits, fun ending hending w' => ?_⟩
  · rw [Connection.consuming_eq, timed_run]
  · obtain ⟨t, w₁, hleave⟩ := progress_leaves self.source kind (Library.now w.calls) fuel
      (durationCast .nanoseconds timeout) w.tick ending hending
    rw [hleave]
    exact source_leave_observe anyWait_ofWaits t w₁ w'

/-- The timeout arithmetic of a call of `consume`, and of each consumer in any number of
turns, does not overflow if and only if the values it starts from fit. -/
theorem no_overflow_iff (self : Connection) {u : StandardUnit} (timeout : Duration u.period)
    (w : World) (hfits : Fits64 timeout.count) (hnonneg : 0 ≤ timeout.count) :
    (self.ConsumesFor timeout w ∧
      (NoOverflow (fun _ => callWaits64 (secondReadings w))
          (fun _ => callWaits (secondReadings w)) timeout ↔
        CallFits (secondReadings w) timeout.inNanos)) ∧
    ∀ kind fuel, ∃ turns, turns = self.consumerTurns kind timeout fuel w ∧
      self.TakesTurns kind timeout fuel w turns ∧
      (NoOverflow (fun _ => consumerWaits64 (Library.now w.calls) turns)
          (fun _ => consumerWaits (Library.now w.calls) turns) timeout ↔
        Fits64 timeout.inNanos ∧ TurnsFit (Library.now w.calls) ⟨timeout.inNanos⟩ turns) :=
  ⟨⟨consumesFor self timeout w, call_noOverflow_iff _ hfits hnonneg⟩,
    fun kind fuel => ⟨_, rfl, takesTurns self kind timeout fuel w,
      consumer_noOverflow_iff _ _ hfits hnonneg⟩⟩

end Readings

/-- A timeout of 55 seconds. -/
theorem no_overflow_iff_seconds :
    (@Connection.ConsumesFor allSucceed ⟨some 1, ""⟩ _ (⟨55⟩ : Duration StandardUnit.seconds.period)
        .initial ∧
      (@NoOverflow (fun _ => callWaits64 none) (fun _ => callWaits none) .seconds ⟨55⟩ ↔
        CallFits none 55000000000)) ∧
    ∀ kind fuel, ∃ turns, turns = @Connection.consumerTurns allSucceed ⟨some 1, ""⟩ kind _
        (⟨55⟩ : Duration StandardUnit.seconds.period) fuel .initial ∧
      @Connection.TakesTurns allSucceed ⟨some 1, ""⟩ kind _
        (⟨55⟩ : Duration StandardUnit.seconds.period) fuel .initial turns ∧
      (@NoOverflow (fun _ => consumerWaits64 ⟨0⟩ turns) (fun _ => consumerWaits ⟨0⟩ turns)
          .seconds ⟨55⟩ ↔
        Fits64 55000000000 ∧ TurnsFit ⟨0⟩ ⟨55000000000⟩ turns) :=
  @no_overflow_iff allSucceed ⟨some 1, ""⟩ .seconds ⟨55⟩ .initial (by decide) (by decide)

/-- `hours::max()` can not be cast to nanoseconds. -/
theorem hours_max_overflows :
    ¬ @NoOverflow
      (fun _ => consumerWaits64 ⟨0⟩ (@Connection.consumerTurns allSucceed ⟨some 1, ""⟩ .envelope _
        (⟨9223372036854775807⟩ : Duration StandardUnit.hours.period) 1 .initial))
      (fun _ => consumerWaits ⟨0⟩ (@Connection.consumerTurns allSucceed ⟨some 1, ""⟩ .envelope _
        (⟨9223372036854775807⟩ : Duration StandardUnit.hours.period) 1 .initial))
      .hours ⟨9223372036854775807⟩ := by
  rw [consumer_noOverflow_iff _ _ (by decide) (by decide)]
  rintro ⟨hcast, -⟩
  exact absurd hcast (by decide)

end RmqCxx
