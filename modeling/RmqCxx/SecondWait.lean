/-
# `RmqCxx.SecondWait` — the timeout of the second wait of a consume call

When something other than a delivery has arrived, `consumeImpl` waits a second time, for
the frame, with what is left of the timeout.  It takes `start - now` for the time spent,
which is negative: the time spent is added to the timeout, and the second wait can be
longer than the first (`second_wait_right_iff`).
-/
import RmqCxx.Arrivals
import RmqCxx.WaitBounds

namespace RmqCxx

open Cpp Code

/-! ## What the code computes -/

theorem remaining_eq (tv : Timeval) (start now : ClockDuration) :
    Connection.remaining tv start now =
      if now.count < start.count ∨ tv.micros * 1000 < start.count - now.count then ⟨0, 0⟩
      else timeValue (⟨tv.micros * 1000 - (start.count - now.count)⟩ : ClockDuration) := by
  have hinitial : (durationValue .microseconds tv).count = tv.micros := by
    show (durationCast .microseconds (⟨tv.tvSec⟩ : Duration .seconds)).count +
      (durationCast .microseconds (⟨tv.tvUsec⟩ : Duration .microseconds)).count = _
    rw [durationCast_exact (k := 1000000) _ rfl, durationCast_exact (k := 1) _ rfl, Timeval.micros]
    simp
  have hspent : (start.sub now).count = start.count - now.count := by
    rw [Duration.sub, durationCast_exact (k := 1) start rfl, durationCast_exact (k := 1) now rfl]
    simp
  have hlt : (durationValue .microseconds tv).lt (start.sub now) =
      decide (tv.micros * 1000 < start.count - now.count) := by
    rw [Duration.lt, durationCast_exact (k := 1000) _ rfl,
      durationCast_exact (k := 1) (start.sub now) rfl, hinitial, hspent]
    simp
  have hsub : ((durationValue .microseconds tv).sub (start.sub now)).count =
      tv.micros * 1000 - (start.count - now.count) := by
    rw [Duration.sub, durationCast_exact (k := 1000) _ rfl,
      durationCast_exact (k := 1) (start.sub now) rfl, hinitial, hspent]
    simp
  have hvalue : timeValue ((durationValue .microseconds tv).sub (start.sub now)) =
      timeValue (⟨tv.micros * 1000 - (start.count - now.count)⟩ : ClockDuration) := by
    rw [← hsub]
    rfl
  rw [Connection.remaining, ClockDuration.lt_iff]
  dsimp only
  rw [hlt, hvalue]
  by_cases hback : now.count < start.count
  · simp [hback]
  · simp [hback]

/-! ## What is right -/

/-- The timeout less the time spent, in microseconds; zero if the clock went back or the
timeout has passed. -/
def leftMicros (tv : Timeval) (start now : ClockDuration) : Int :=
  if now.count < start.count ∨ tv.micros * 1000 < now.count - start.count then 0
  else (tv.micros * 1000 - (now.count - start.count)) / 1000

/-- What the second wait should be given, with the consequences for how long both take. -/
structure RightSecondWait (tv : Option Timeval) (start now : ClockDuration)
    (second : Option Timeval) : Prop where
  null : tv = none → second = none
  exact : ∀ first ∈ tv, second =
    some ⟨leftMicros first start now / 1000000, leftMicros first start now % 1000000⟩
  bounded : ∀ first ∈ tv, ∀ rest ∈ second, now.count - start.count + rest.micros * 1000 ≤
    max (first.micros * 1000) (now.count - start.count)
  noLonger : ∀ first ∈ tv, ∀ rest ∈ second, rest.micros ≤ first.micros

/-- No time to speak of has passed, or there is nothing to add it to. -/
def NoTimeSpent (tv : Option Timeval) (start now : ClockDuration) : Prop :=
  ∀ first ∈ tv, now.count ≤ start.count ∨
    first.micros = 0 ∧ now.count - start.count < 1000

theorem Timeval.micros_nonneg {tv : Timeval} (htv : tv.Normalised) : 0 ≤ tv.micros := by
  obtain ⟨hsec, husec, -⟩ := htv
  rw [Timeval.micros]
  omega

/-- A normalised timeval is its microseconds. -/
theorem Timeval.eq_iff_micros {tv : Timeval} (htv : tv.Normalised) (m : Int) :
    tv = ⟨m / 1000000, m % 1000000⟩ ↔ tv.micros = m := by
  obtain ⟨sec, usec⟩ := tv
  obtain ⟨hsec, husec, hlt⟩ := htv
  dsimp only at hsec husec hlt
  rw [Timeval.mk.injEq, Timeval.micros]
  dsimp only
  omega

/-- What is handed on: the time spent is added. -/
theorem remaining_micros {tv : Timeval} (htv : tv.Normalised) (start now : ClockDuration) :
    (Connection.remaining tv start now).Normalised ∧
      (Connection.remaining tv start now).micros =
        if now.count < start.count then 0
        else (tv.micros * 1000 + (now.count - start.count)) / 1000 := by
  have hmicros := Timeval.micros_nonneg htv
  rw [remaining_eq]
  by_cases hback : now.count < start.count
  · rw [if_pos (Or.inl hback), if_pos hback]
    exact ⟨⟨Int.le_refl 0, Int.le_refl 0, by decide⟩, rfl⟩
  · rw [if_neg (by omega), if_neg hback]
    have hnonneg : 0 ≤ tv.micros * 1000 - (start.count - now.count) := by omega
    refine ⟨timeValue_normalised hnonneg, (timeValue_micros hnonneg).trans ?_⟩
    dsimp only
    congr 1
    omega

/-- It is right if and only if no time was spent. -/
theorem remaining_right_iff {tv : Timeval} (htv : tv.Normalised) (start now : ClockDuration) :
    RightSecondWait (some tv) start now (some (Connection.remaining tv start now)) ↔
      NoTimeSpent (some tv) start now := by
  have hmicros := Timeval.micros_nonneg htv
  obtain ⟨hnormalised, hremaining⟩ := remaining_micros htv start now
  have hleft : leftMicros tv start now =
      if now.count < start.count ∨ tv.micros * 1000 < now.count - start.count then 0
      else (tv.micros * 1000 - (now.count - start.count)) / 1000 := rfl
  constructor
  · intro hright first hfirst
    cases hfirst
    have hexact := Option.some.inj (hright.exact tv rfl)
    rw [Timeval.eq_iff_micros hnormalised, hremaining, hleft] at hexact
    split at hexact
    · omega
    · split at hexact <;> omega
  · intro hspent
    have hspent := hspent tv rfl
    refine ⟨(by nofun), ?_, ?_, ?_⟩
    · rintro first hfirst
      cases hfirst
      rw [Option.some.injEq, Timeval.eq_iff_micros hnormalised, hremaining, hleft]
      split
      · rw [if_pos (by omega)]
      · split <;> omega
    · rintro first hfirst rest hrest
      cases hfirst
      cases hrest
      rw [hremaining]
      split <;> omega
    · rintro first hfirst rest hrest
      cases hfirst
      cases hrest
      rw [hremaining]
      split <;> omega

/-! ## What is handed on -/

/-- The timeouts of the calls of `amqp_simple_wait_frame_noblock` that were logged. -/
def World.secondWaits (w : World) : List (Option Timeval) :=
  w.log.filterMap fun e =>
    match e with
    | .call .simpleWaitFrameNoblock _ [.timeval tv] => some tv
    | _ => none

/-- The timeout of a call of `amqp_simple_wait_frame_noblock`. -/
def secondWait : CFunction → List Arg → Option (Option Timeval)
  | .simpleWaitFrameNoblock, [.timeval tv] => some tv
  | _, _ => none

theorem secondWait_ofWaits : OfWaits secondWait := ⟨rfl, fun _ => rfl⟩

theorem secondWaits_eq (w : World) : w.secondWaits = w.observe secondWait := by
  refine List.filterMap_congr fun e _ => ?_
  split
  · rfl
  · next hother =>
      split
      · rw [secondWait.eq_def]
        split
        · exact absurd rfl (hother _ _)
        · rfl
      · rfl

section Receive

variable [Library] {self : Connection}

theorem receive_secondWaits {tv : Option Timeval} {w : World}
    (h : Unexpected (Library.consumeMessage (w.calls + 1)).reply) :
    Leaves World.secondWaits (w.secondWaits ++
      [secondTimeval tv (Library.now w.calls) (Library.now (w.calls + 2))])
      (self.receive tv) w := by
  have hreceive := @receive_observe _ self _ secondWait secondWait_ofWaits tv w
  have harrived : Unexpected (deliveryAnswer w).reply := h
  have hseen : seenWaits secondWait tv w =
      [secondTimeval tv (Library.now w.calls) (Library.now (w.calls + 2))] := by
    rw [seenWaits, secondOf, if_pos harrived]
    rfl
  rw [Leaves, hseen] at hreceive
  rw [Leaves, secondWaits_eq, secondWaits_eq]
  exact hreceive

/-- When something other than a delivery has arrived, the second wait of a consume call is
given what is left of its timeout if and only if no time was spent. -/
theorem second_wait_right_iff (self : Connection) (tv : Option Timeval) (w : World)
    (htv : ∀ first ∈ tv, first.Normalised)
    (hreply : Unexpected (Library.consumeMessage (w.calls + 1)).reply) :
    ∃ memory item w' second, self.Consumes tv w memory item w' ∧
      w'.secondWaits = w.secondWaits ++ [second] ∧
      (RightSecondWait tv (Library.now w.calls) (Library.now (w.calls + 2)) second ↔
        NoTimeSpent tv (Library.now w.calls) (Library.now (w.calls + 2))) := by
  obtain ⟨contents, item, w', hreceive, -⟩ := @receive_fits _ self tv w
  have hwaits := @receive_secondWaits _ self tv w hreply
  rw [Leaves, hreceive] at hwaits
  refine ⟨_, item, w', _, consumes_of_receive hreceive, hwaits, ?_⟩
  cases tv with
  | none => exact iff_of_true ⟨fun _ => rfl, by simp, by simp, by simp⟩ (by simp [NoTimeSpent])
  | some tv => exact remaining_right_iff (htv tv rfl) _ _

end Receive

/-- A frame other than a delivery arrives within a second of the start of the call, and the
second wait times out. -/
@[reducible] def frameAfterOneSecond : Library :=
  { allSucceed with
    consumeMessage := fun _ =>
      ⟨⟨.libraryException, 0, none, .unexpectedState⟩, ⟨0, "", 0, false, "", "", ⟨[], ""⟩⟩, []⟩
    now := fun n => ⟨500000000 * n⟩ }

theorem ten_seconds_normalised : ∀ first ∈ some (⟨10, 0⟩ : Timeval), first.Normalised := by
  rintro first hfirst
  cases hfirst
  exact ⟨by decide, by decide, by decide⟩

theorem second_wait_right_iff_late :
    ∃ memory item w' second,
      @Connection.Consumes frameAfterOneSecond ⟨some 1, ""⟩ (some ⟨10, 0⟩) .initial memory item
        w' ∧
      w'.secondWaits = [second] ∧
      (RightSecondWait (some ⟨10, 0⟩) ⟨0⟩ ⟨1000000000⟩ second ↔
        NoTimeSpent (some ⟨10, 0⟩) ⟨0⟩ ⟨1000000000⟩) :=
  @second_wait_right_iff frameAfterOneSecond ⟨some 1, ""⟩ (some ⟨10, 0⟩) .initial
    ten_seconds_normalised ⟨rfl, rfl⟩

/-- Of ten seconds, one has passed when the second wait starts; it is given eleven. -/
theorem second_wait_longer_than_first :
    ∃ memory item w',
      @Connection.Consumes frameAfterOneSecond ⟨some 1, ""⟩ (some ⟨10, 0⟩) .initial memory item
        w' ∧
      w'.secondWaits = [some ⟨11, 0⟩] ∧
      ¬ RightSecondWait (some ⟨10, 0⟩) ⟨0⟩ ⟨1000000000⟩ (some ⟨11, 0⟩) := by
  let _ : Library := frameAfterOneSecond
  obtain ⟨contents, item, w', hreceive, -⟩ :=
    @receive_fits frameAfterOneSecond ⟨some 1, ""⟩ (some ⟨10, 0⟩) .initial
  have hwaits := @receive_secondWaits frameAfterOneSecond ⟨some 1, ""⟩ (some ⟨10, 0⟩) .initial
    ⟨rfl, rfl⟩
  rw [Leaves, hreceive] at hwaits
  refine ⟨_, item, w', consumes_of_receive hreceive, hwaits, fun hright => ?_⟩
  exact absurd (hright.noLonger _ rfl _ rfl) (by decide)

end RmqCxx
