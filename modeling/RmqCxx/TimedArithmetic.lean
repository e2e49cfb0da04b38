/-
# `RmqCxx.TimedArithmetic` — the arithmetic of the timeouts at 64 bits

What the timed members compute with their timeouts and the readings of the clock: the cast
to the clock's duration, the update at the head of a turn, `timeValue`, and for a second
wait `durationValue<microseconds>`, the comparison with the time spent and the difference.
`Turn` has the readings that one call of `consume` makes, so that the same computation can be
made twice: exactly (`callWaits`, `consumerWaits`) and with 64-bit intermediates
(`callWaits64`, `consumerWaits64`).

`callWaits64_iff` and `consumerWaits64_iff` say when all intermediates fit.  The timevals are
the exact ones then, and exact timevals grow with the timeout (`callWaits_mono`,
`consumerWaits_mono`).
-/
import RmqCxx.Chrono64
import RmqCxx.SecondWait

namespace RmqCxx

/-! ## The computations -/

/-- The update of `internalTimeout` at the head of a turn. -/
def nextTimeout64 (internalTimeout start now : ClockDuration) : Option ClockDuration := do
  let back ← now.lt64 start
  if back then pure .zero
  else do
    let spent ← now.minus64 start
    let rest ← internalTimeout.minus64 spent
    pure (rest.max .zero)

/-- The update of `*tv` between the two waits. -/
def remaining64 (tv : Timeval) (start now : ClockDuration) : Option Timeval := do
  let initial ← durationValue64 .microseconds tv
  let back ← now.lt64 start
  if back then pure ⟨0, 0⟩
  else do
    let spent ← start.sub64 now
    let passed ← initial.lt64 spent
    if passed then pure ⟨0, 0⟩
    else do
      let rest ← initial.sub64 spent
      timeValue64 rest

/-- The readings of the clock before the first wait of a call and after it, if there is a
second one. -/
abbrev SecondReadings := Option (ClockDuration × ClockDuration)

/-- What a turn of a consumer reads: the clock at its head, and in its call of `consume`. -/
structure Turn where
  now : ClockDuration
  second : SecondReadings
  deriving DecidableEq

section Waits

variable {p : Period}

/-- The timevals that a call of `consume` hands to the library. -/
def callWaits (second : SecondReadings) (timeout : Duration p) : List Timeval :=
  let tv := timeValue timeout
  match second with
  | none => [tv]
  | some (start, now) => [tv, Connection.remaining tv start now]

def callWaits64 (second : SecondReadings) (timeout : Duration p) : Option (List Timeval) := do
  let tv ← timeValue64 timeout
  match second with
  | none => pure [tv]
  | some (start, now) => do
      let rest ← remaining64 tv start now
      pure [tv, rest]

/-- Those of the turns of a consumer, `timeout` being what is left of it. -/
def turnWaits (start : ClockDuration) : ClockDuration → List Turn → List Timeval
  | _, [] => []
  | timeout, turn :: turns =>
      let timeout := nextTimeout timeout start turn.now
      callWaits turn.second timeout ++ turnWaits start timeout turns

def turnWaits64 (start : ClockDuration) : ClockDuration → List Turn → Option (List Timeval)
  | _, [] => some []
  | timeout, turn :: turns => do
      let timeout ← nextTimeout64 timeout start turn.now
      let waits ← callWaits64 turn.second timeout
      let later ← turnWaits64 start timeout turns
      pure (waits ++ later)

/-- Those of a consumer. -/
def consumerWaits (start : ClockDuration) (turns : List Turn) (timeout : Duration p) :
    List Timeval :=
  turnWaits start (durationCast .nanoseconds timeout) turns

def consumerWaits64 (start : ClockDuration) (turns : List Turn) (timeout : Duration p) :
    Option (List Timeval) := do
  let internalTimeout ← durationCast64 .nanoseconds timeout
  turnWaits64 start internalTimeout turns

end Waits

/-! ## A result is exact -/

theorem nextTimeout64_sound {timeout start now d : ClockDuration}
    (h : nextTimeout64 timeout start now = some d) : d = nextTimeout timeout start now := by
  simp only [nextTimeout64, Option.bind_eq_bind, Option.bind_eq_some_iff] at h
  obtain ⟨back, hback, h⟩ := h
  rw [nextTimeout, ← lt64_sound hback]
  split at h
  · next hb =>
      cases h
      rw [if_pos hb]
  · next hb =>
      simp only [Option.bind_eq_some_iff] at h
      obtain ⟨spent, hspent, rest, hrest, h⟩ := h
      cases h
      rw [if_neg hb, ← minus64_sound hspent, ← minus64_sound hrest]

theorem remaining64_sound {tv tv' : Timeval} {start now : ClockDuration}
    (h : remaining64 tv start now = some tv') : tv' = Connection.remaining tv start now := by
  simp only [remaining64, Option.bind_eq_bind, Option.bind_eq_some_iff] at h
  obtain ⟨initial, hinitial, back, hback, h⟩ := h
  rw [Connection.remaining, ← lt64_sound hback, ← durationValue64_sound hinitial]
  split at h
  · next hb =>
      cases h
      rw [if_pos hb]
  · next hb =>
      simp only [Option.bind_eq_some_iff] at h
      obtain ⟨spent, hspent, passed, hpassed, h⟩ := h
      rw [if_neg hb, ← sub64_sound hspent]
      dsimp only
      rw [← lt64_sound hpassed]
      split at h
      · next hp =>
          cases h
          rw [if_pos hp]
      · next hp =>
          simp only [Option.bind_eq_some_iff] at h
          obtain ⟨rest, hrest, h⟩ := h
          rw [if_neg hp, ← sub64_sound hrest]
          exact timeValue64_sound h

theorem callWaits64_sound {p : Period} {timeout : Duration p} {second : SecondReadings}
    {waits : List Timeval} (h : callWaits64 second timeout = some waits) :
    waits = callWaits second timeout := by
  simp only [callWaits64, Option.bind_eq_bind, Option.bind_eq_some_iff] at h
  obtain ⟨tv, htv, h⟩ := h
  rw [callWaits.eq_def, ← timeValue64_sound htv]
  cases second with
  | none =>
      cases h
      rfl
  | some readings =>
      simp only [Option.bind_eq_some_iff] at h
      obtain ⟨rest, hrest, h⟩ := h
      cases h
      rw [remaining64_sound hrest]

theorem turnWaits64_sound {start timeout : ClockDuration} {turns : List Turn}
    {waits : List Timeval} (h : turnWaits64 start timeout turns = some waits) :
    waits = turnWaits start timeout turns := by
  induction turns generalizing timeout waits with
  | nil =>
      cases h
      rfl
  | cons turn turns ih =>
      simp only [turnWaits64, Option.bind_eq_bind, Option.bind_eq_some_iff] at h
      obtain ⟨rest, hrest, ws, hws, later, hlater, h⟩ := h
      cases h
      rw [turnWaits, ← nextTimeout64_sound hrest, callWaits64_sound hws, ih hlater]

/-! ## When there is one -/

theorem ClockDuration.lt64_eq (d e : ClockDuration) :
    d.lt64 e = some (decide (d.count < e.count)) := by
  rw [Duration.lt64, durationCast64_one d rfl, durationCast64_one e rfl]
  rfl

theorem ClockDuration.sub64_eq (d e : ClockDuration) :
    d.sub64 e = (int64 (d.count - e.count)).map Duration.mk :=
  sub64_of (durationCast64_one d rfl) (durationCast64_one e rfl)

/-- A timeout in nanoseconds: its `timeValue` fits. -/
theorem ClockDuration.timeValue64_eq {d : ClockDuration} (hfits : Fits64 d.count)
    (hnonneg : 0 ≤ d.count) : timeValue64 d = some (timeValue d) := by
  have hunit := timeValue64_unit (u := .nanoseconds) (d := d) hfits hnonneg
  have hnanos : Duration.inNanos (u := .nanoseconds) d = d.count := Int.mul_one d.count
  obtain ⟨hlow, hhigh⟩ := hfits
  rw [hnanos, if_pos ⟨by omega, by omega⟩] at hunit
  exact hunit.trans (congrArg some (timeValue64_sound hunit))

/-- The time since the start can be counted, or the clock went back. -/
def SinceFits (start now : ClockDuration) : Prop :=
  now.count < start.count ∨ Fits64 (now.count - start.count)

theorem nextTimeout64_eq {timeout : ClockDuration} (start now : ClockDuration)
    (hnonneg : 0 ≤ timeout.count) (hfits : Fits64 timeout.count) (hsince : SinceFits start now) :
    nextTimeout64 timeout start now = some (nextTimeout timeout start now) := by
  suffices h : ∃ d, nextTimeout64 timeout start now = some d by
    obtain ⟨d, hd⟩ := h
    rw [hd, nextTimeout64_sound hd]
  obtain ⟨hlow, hhigh⟩ := hfits
  rw [nextTimeout64, ClockDuration.lt64_eq]
  by_cases hback : now.count < start.count
  · exact ⟨.zero, by simp [hback]⟩
  · obtain ⟨-, hsince⟩ := hsince.resolve_left hback
    have hspent : now.minus64 start = some ⟨now.count - start.count⟩ := by
      rw [Duration.minus64, int64_of_fits ⟨by omega, hsince⟩]
      rfl
    have hrest : timeout.minus64 ⟨now.count - start.count⟩ =
        some ⟨timeout.count - (now.count - start.count)⟩ := by
      rw [Duration.minus64, int64_of_fits ⟨by dsimp only; omega, by dsimp only; omega⟩]
      rfl
    exact ⟨(⟨timeout.count - (now.count - start.count)⟩ : ClockDuration).max .zero,
      by simp [hback, hspent, hrest]⟩

theorem nextTimeout64_of_not (timeout : ClockDuration) {start now : ClockDuration}
    (hsince : ¬ SinceFits start now) : nextTimeout64 timeout start now = none := by
  obtain ⟨hback, hfits⟩ := not_or.mp hsince
  rw [nextTimeout64, ClockDuration.lt64_eq]
  simp [hback, Duration.minus64, int64_of_not_fits hfits]

/-- A first wait of so many microseconds, and the time spent in it, can be counted together
in nanoseconds. -/
def SecondFits (micros : Int) : SecondReadings → Prop
  | none => True
  | some (start, now) => Fits64 micros ∧
      (now.count < start.count ∨ Fits64 (micros * 1000 + (now.count - start.count)))

theorem durationValue64_eq {tv : Timeval} (htv : tv.Normalised) :
    durationValue64 .microseconds tv =
      (int64 tv.micros).map (Duration.mk : Int → Duration .microseconds) := by
  obtain ⟨hsec, husec, -⟩ := htv
  have hmicros : tv.micros = tv.tvSec * 1000000 + tv.tvUsec := rfl
  rw [durationValue64, durationCast64_one (⟨tv.tvUsec⟩ : Duration .microseconds) rfl]
  by_cases hproduct : Fits64 (tv.tvSec * 1000000)
  · have hcast := durationCast64_of_fits (q := .microseconds) (k := 1000000)
      (⟨tv.tvSec⟩ : Duration .seconds) rfl hproduct
    have hsum : tv.tvSec * (1000000 : Nat) + tv.tvUsec = tv.micros := rfl
    simp only [hcast, hsum, Option.bind_eq_bind, Option.bind_some]
    cases int64 tv.micros <;> rfl
  · have hcast := durationCast64_of_not_fits (q := .microseconds) (k := 1000000)
      (⟨tv.tvSec⟩ : Duration .seconds) (by decide) rfl hproduct
    have hnot : ¬ Fits64 tv.micros := by
      rintro ⟨-, hhigh⟩
      exact hproduct ⟨by omega, by omega⟩
    rw [hcast, int64_of_not_fits hnot]
    rfl

section Remaining

variable {tv : Timeval} {start now : ClockDuration}

/-- The clock went back. -/
theorem remaining64_back (htv : tv.Normalised) (hback : now.count < start.count) :
    remaining64 tv start now = (int64 tv.micros).map fun _ => ⟨0, 0⟩ := by
  rw [remaining64, durationValue64_eq htv, ClockDuration.lt64_eq]
  cases int64 tv.micros with
  | none => rfl
  | some n => simp [hback]

/-- It did not: `initial` and `spent` in nanoseconds are compared, and subtracted. -/
theorem remaining64_forth (htv : tv.Normalised) (hmicros : Fits64 tv.micros)
    (hback : ¬ now.count < start.count) (hspent : Fits64 (start.count - now.count)) :
    remaining64 tv start now =
      ((int64 (tv.micros * 1000)).bind fun initial =>
        (int64 (initial - (start.count - now.count))).bind fun rest =>
          timeValue64 (⟨rest⟩ : ClockDuration)) := by
  have hnonneg := Timeval.micros_nonneg htv
  have hsame := durationCast64_one
    (q := Period.microseconds.common (Period.nanoseconds.common .nanoseconds))
    (⟨start.count - now.count⟩ : Duration (Period.nanoseconds.common .nanoseconds)) rfl
  have hhead : remaining64 tv start now =
      (Duration.lt64 (⟨tv.micros⟩ : Duration .microseconds)
        (⟨start.count - now.count⟩ : Duration (Period.nanoseconds.common .nanoseconds))).bind
        fun passed => if passed then some ⟨0, 0⟩ else
          (Duration.sub64 (⟨tv.micros⟩ : Duration .microseconds)
            (⟨start.count - now.count⟩ :
              Duration (Period.nanoseconds.common .nanoseconds))).bind timeValue64 := by
    rw [remaining64, durationValue64_eq htv, ClockDuration.lt64_eq, ClockDuration.sub64_eq,
      int64_of_fits hmicros, int64_of_fits hspent]
    simp [hback]
  rw [hhead]
  by_cases hproduct : Fits64 (tv.micros * 1000)
  · have hcast := durationCast64_of_fits (k := 1000)
      (q := Period.microseconds.common (Period.nanoseconds.common .nanoseconds))
      (⟨tv.micros⟩ : Duration .microseconds) rfl hproduct
    have hpassed : ¬ tv.micros * 1000 < start.count - now.count := by omega
    have hlt : Duration.lt64 (⟨tv.micros⟩ : Duration .microseconds)
        (⟨start.count - now.count⟩ : Duration (Period.nanoseconds.common .nanoseconds)) =
          some false := by
      simp only [Duration.lt64, hcast, hsame, Option.bind_eq_bind, Option.bind_some]
      exact congrArg some (decide_eq_false hpassed)
    rw [hlt, sub64_of hcast hsame, int64_of_fits hproduct]
    have hrest : tv.micros * (1000 : Nat) - (start.count - now.count) =
        tv.micros * 1000 - (start.count - now.count) := rfl
    simp only [Option.bind_some, if_neg Bool.false_ne_true, hrest]
    cases int64 (tv.micros * 1000 - (start.count - now.count)) <;> rfl
  · have hcast := durationCast64_of_not_fits (k := 1000)
      (q := Period.microseconds.common (Period.nanoseconds.common .nanoseconds))
      (⟨tv.micros⟩ : Duration .microseconds) (by decide) rfl hproduct
    rw [Duration.lt64, hcast, int64_of_not_fits hproduct]
    rfl

theorem remaining64_of_fits (htv : tv.Normalised) (h : SecondFits tv.micros (some (start, now))) :
    remaining64 tv start now = some (Connection.remaining tv start now) := by
  suffices hresult : ∃ rest, remaining64 tv start now = some rest by
    obtain ⟨rest, hrest⟩ := hresult
    rw [hrest, remaining64_sound hrest]
  obtain ⟨hmicros, hsum⟩ := h
  have hnonneg := Timeval.micros_nonneg htv
  by_cases hback : now.count < start.count
  · rw [remaining64_back htv hback, int64_of_fits hmicros]
    exact ⟨⟨0, 0⟩, rfl⟩
  · obtain ⟨-, hsum⟩ := hsum.resolve_left hback
    have hrest : Fits64 (tv.micros * 1000 - (start.count - now.count)) := ⟨by omega, by omega⟩
    have hproduct : Fits64 (tv.micros * 1000) := ⟨by omega, by omega⟩
    rw [remaining64_forth htv hmicros hback ⟨by omega, by omega⟩, int64_of_fits hproduct,
      Option.bind_some, int64_of_fits hrest, Option.bind_some]
    exact ⟨_, ClockDuration.timeValue64_eq hrest (by dsimp only; omega)⟩

theorem remaining64_of_not (htv : tv.Normalised)
    (h : ¬ SecondFits tv.micros (some (start, now))) : remaining64 tv start now = none := by
  have hnonneg := Timeval.micros_nonneg htv
  by_cases hmicros : Fits64 tv.micros
  · obtain ⟨hback, hsum⟩ := not_or.mp fun hor => h ⟨hmicros, hor⟩
    by_cases hspent : Fits64 (start.count - now.count)
    · rw [remaining64_forth htv hmicros hback hspent]
      by_cases hproduct : Fits64 (tv.micros * 1000)
      · have hrest : ¬ Fits64 (tv.micros * 1000 - (start.count - now.count)) := by
          rintro ⟨-, hhigh⟩
          exact hsum ⟨by omega, by omega⟩
        rw [int64_of_fits hproduct, Option.bind_some, int64_of_not_fits hrest]
        rfl
      · rw [int64_of_not_fits hproduct]
        rfl
    · rw [remaining64, durationValue64_eq htv, ClockDuration.lt64_eq, ClockDuration.sub64_eq,
        int64_of_fits hmicros, int64_of_not_fits hspent]
      simp [hback]
  · rw [remaining64, durationValue64_eq htv, int64_of_not_fits hmicros]
    rfl

end Remaining

/-! ## Calls -/

/-- All that a call computes fits: the seconds, and what is computed for a second wait. -/
def CallFits (second : SecondReadings) (nanos : Int) : Prop :=
  Fits64 (nanos / 1000000000) ∧ SecondFits (nanos / 1000) second

theorem callWaits64_of_value {p : Period} {timeout : Duration p} {tv : Timeval}
    (second : SecondReadings) (hvalue : timeValue64 timeout = some tv) (htv : tv.Normalised) :
    callWaits64 second timeout = some (callWaits second timeout) ↔
      SecondFits tv.micros second := by
  obtain rfl := timeValue64_sound hvalue
  cases second with
  | none =>
      refine iff_of_true ?_ trivial
      simp only [callWaits64, hvalue, Option.bind_eq_bind, Option.bind_some]
      rfl
  | some readings =>
      obtain ⟨start, now⟩ := readings
      simp only [callWaits64, hvalue, Option.bind_eq_bind, Option.bind_some]
      by_cases hfits : SecondFits (timeValue timeout).micros (some (start, now))
      · refine iff_of_true ?_ hfits
        rw [remaining64_of_fits htv hfits]
        rfl
      · refine iff_of_false ?_ hfits
        rw [remaining64_of_not htv hfits]
        nofun

section Units

variable {u : StandardUnit} {timeout : Duration u.period}

/-- The first timeval of a call, when it can be computed. -/
theorem timeValue64_value (hfits : Fits64 timeout.count) (hnonneg : 0 ≤ timeout.count)
    (hseconds : Fits64 (timeout.inNanos / 1000000000)) :
    timeValue64 timeout = some (timeValue timeout) ∧ (timeValue timeout).Normalised ∧
      (timeValue timeout).micros = timeout.inNanos / 1000 := by
  have hnanos : 0 ≤ timeout.inNanos := Int.mul_nonneg hnonneg (Int.natCast_nonneg _)
  have hvalue := timeValue64_unit hfits hnonneg
  rw [if_pos hseconds] at hvalue
  rw [← timeValue64_sound hvalue]
  refine ⟨hvalue, ?_, ?_⟩
  · rw [Timeval.Normalised]
    dsimp only
    omega
  · rw [Timeval.micros]
    dsimp only
    omega

theorem callWaits64_iff (second : SecondReadings) (hfits : Fits64 timeout.count)
    (hnonneg : 0 ≤ timeout.count) :
    callWaits64 second timeout = some (callWaits second timeout) ↔
      CallFits second timeout.inNanos := by
  by_cases hseconds : Fits64 (timeout.inNanos / 1000000000)
  · obtain ⟨hvalue, hnormalised, hmicros⟩ := timeValue64_value hfits hnonneg hseconds
    rw [callWaits64_of_value second hvalue hnormalised, hmicros, CallFits]
    exact (and_iff_right hseconds).symm
  · refine iff_of_false ?_ fun h => hseconds h.1
    have hvalue := timeValue64_unit hfits hnonneg
    rw [if_neg hseconds] at hvalue
    rw [callWaits64, hvalue]
    nofun

end Units

/-! ## Consumers -/

/-- All that a turn computes fits; `handed` is what it hands to `consume`. -/
def TurnFits (start : ClockDuration) (turn : Turn) (handed : ClockDuration) : Prop :=
  SinceFits start turn.now ∧ SecondFits (handed.count / 1000) turn.second

/-- All that the turns compute fits. -/
def TurnsFit (start timeout : ClockDuration) (turns : List Turn) : Prop :=
  List.Forall₂ (TurnFits start) turns (internalTimeouts start timeout (turns.map Turn.now))

theorem Fits64.of_le {n m : Int} (hm : Fits64 m) (hnonneg : 0 ≤ n) (hle : n ≤ m) : Fits64 n :=
  ⟨Int.le_trans (by decide) hnonneg, Int.le_trans hle hm.2⟩

/-- The call of a turn. -/
theorem callWaits64_clock {timeout : ClockDuration} (second : SecondReadings)
    (hfits : Fits64 timeout.count) (hnonneg : 0 ≤ timeout.count) :
    callWaits64 second timeout = some (callWaits second timeout) ↔
      SecondFits (timeout.count / 1000) second := by
  rw [callWaits64_of_value second (ClockDuration.timeValue64_eq hfits hnonneg)
    (timeValue_normalised hnonneg), timeValue_micros hnonneg]

/-- The induction is on the turns, with what is left of the timeout. -/
theorem turnWaits64_iff (start : ClockDuration) (turns : List Turn) {timeout : ClockDuration}
    (hfits : Fits64 timeout.count) (hnonneg : 0 ≤ timeout.count) :
    turnWaits64 start timeout turns = some (turnWaits start timeout turns) ↔
      TurnsFit start timeout turns := by
  induction turns generalizing timeout with
  | nil => exact iff_of_true rfl List.Forall₂.nil
  | cons turn turns ih =>
      obtain ⟨hnext, hle⟩ := nextTimeout_bounds timeout start turn.now
      rw [Int.max_eq_left hnonneg] at hle
      have hnextFits := hfits.of_le hnext hle
      have hcall := callWaits64_clock turn.second hnextFits hnext
      rw [TurnsFit, List.map_cons, internalTimeouts, List.forall₂_cons, TurnFits, ← hcall,
        turnWaits64]
      by_cases hsince : SinceFits start turn.now
      · rw [nextTimeout64_eq start turn.now hnonneg hfits hsince]
        simp only [Option.bind_eq_bind, Option.bind_some]
        have hlater := ih hnextFits hnext
        constructor
        · intro h
          simp only [Option.bind_eq_some_iff] at h
          obtain ⟨waits, hwaits, later, hturns, -⟩ := h
          rw [callWaits64_sound hwaits] at hwaits
          rw [turnWaits64_sound hturns] at hturns
          exact ⟨⟨hsince, hwaits⟩, hlater.mp hturns⟩
        · rintro ⟨⟨-, hwaits⟩, hturns⟩
          rw [hwaits, hlater.mpr hturns]
          rfl
      · rw [nextTimeout64_of_not timeout hsince]
        exact iff_of_false (by simp) fun h => hsince h.1.1

theorem consumerWaits64_iff {u : StandardUnit} {timeout : Duration u.period}
    (start : ClockDuration) (turns : List Turn) (hfits : Fits64 timeout.count)
    (hnonneg : 0 ≤ timeout.count) :
    consumerWaits64 start turns timeout = some (consumerWaits start turns timeout) ↔
      Fits64 timeout.inNanos ∧ TurnsFit start ⟨timeout.inNanos⟩ turns := by
  have hnanos : 0 ≤ timeout.inNanos := Int.mul_nonneg hnonneg (Int.natCast_nonneg _)
  by_cases hcast : Fits64 timeout.inNanos
  · have hclock := cast_clock hfits
    rw [if_pos hcast] at hclock
    have hturns := turnWaits64_iff start turns
      (show Fits64 (⟨timeout.inNanos⟩ : ClockDuration).count from hcast) hnanos
    rw [consumerWaits64, consumerWaits, ← durationCast64_sound hclock, hclock, and_iff_right hcast]
    exact hturns
  · have hclock := cast_clock hfits
    rw [if_neg hcast] at hclock
    rw [consumerWaits64, hclock]
    exact iff_of_false (by nofun) fun h => hcast h.1

/-! ## Longer timeouts -/

/-- Waits that are no shorter, one by one. -/
abbrev NoShorter : List Timeval → List Timeval → Prop :=
  List.Forall₂ fun tv tv' => tv.micros ≤ tv'.micros

theorem SecondFits.of_le {n m : Int} {second : SecondReadings} (hm : SecondFits m second)
    (hnonneg : 0 ≤ n) (hle : n ≤ m) : SecondFits n second := by
  cases second with
  | none => trivial
  | some readings =>
      obtain ⟨hmicros, hsum⟩ := hm
      refine ⟨hmicros.of_le hnonneg hle, ?_⟩
      by_cases hback : readings.2.count < readings.1.count
      · exact Or.inl hback
      · exact Or.inr ((hsum.resolve_left hback).of_le (by omega) (by omega))

theorem callWaits_mono {p q : Period} {shorter : Duration p} {timeout : Duration q}
    (second : SecondReadings) (hshorter : (timeValue shorter).Normalised)
    (htimeout : (timeValue timeout).Normalised)
    (hle : (timeValue shorter).micros ≤ (timeValue timeout).micros) :
    NoShorter (callWaits second shorter) (callWaits second timeout) := by
  cases second with
  | none => exact .cons hle .nil
  | some readings =>
      obtain ⟨start, now⟩ := readings
      refine .cons hle (.cons ?_ .nil)
      rw [(remaining_micros hshorter start now).2, (remaining_micros htimeout start now).2]
      split
      · exact Int.le_refl 0
      · exact Int.ediv_le_ediv (by decide) (by omega)

/-- The update of the timeout keeps the order. -/
theorem nextTimeout_mono {shorter timeout : ClockDuration} (start now : ClockDuration)
    (hle : shorter.count ≤ timeout.count) :
    (nextTimeout shorter start now).count ≤ (nextTimeout timeout start now).count := by
  rw [nextTimeout_count, nextTimeout_count]
  split <;> omega

theorem turnWaits_mono (start : ClockDuration) (turns : List Turn)
    {shorter timeout : ClockDuration} (hle : shorter.count ≤ timeout.count) :
    NoShorter (turnWaits start shorter turns) (turnWaits start timeout turns) := by
  induction turns generalizing shorter timeout with
  | nil => exact .nil
  | cons turn turns ih =>
      have hnext := nextTimeout_mono start turn.now hle
      have hshorter := (nextTimeout_bounds shorter start turn.now).1
      have htimeout := (nextTimeout_bounds timeout start turn.now).1
      refine List.rel_append ?_ (ih hnext)
      refine callWaits_mono turn.second (timeValue_normalised hshorter)
        (timeValue_normalised htimeout) ?_
      rw [timeValue_micros hshorter, timeValue_micros htimeout]
      exact Int.ediv_le_ediv (by decide) hnext

theorem turnsFit_mono (start : ClockDuration) (turns : List Turn)
    {shorter timeout : ClockDuration} (hle : shorter.count ≤ timeout.count)
    (h : TurnsFit start timeout turns) : TurnsFit start shorter turns := by
  induction turns generalizing shorter timeout with
  | nil => exact .nil
  | cons turn turns ih =>
      rw [TurnsFit, List.map_cons, internalTimeouts, List.forall₂_cons] at h ⊢
      obtain ⟨⟨hsince, hsecond⟩, hturns⟩ := h
      have hnext := nextTimeout_mono start turn.now hle
      have hnonneg := (nextTimeout_bounds shorter start turn.now).1
      refine ⟨⟨hsince, hsecond.of_le (by omega) ?_⟩, ih hnext hturns⟩
      exact Int.ediv_le_ediv (by decide) hnext

/-! ## What is claimed -/

/-- With 64-bit intermediates the timevals are those of exact arithmetic, and those of any
shorter timeout are no longer. -/
structure NoOverflow (waits64 : (u : StandardUnit) → Duration u.period → Option (List Timeval))
    (waits : (u : StandardUnit) → Duration u.period → List Timeval) {u : StandardUnit}
    (timeout : Duration u.period) : Prop where
  exact : waits64 u timeout = some (waits u timeout)
  monotone (v : StandardUnit) (shorter : Duration v.period) : Fits64 shorter.count →
    0 ≤ shorter.count → shorter.inNanos ≤ timeout.inNanos →
      ∃ tvs, waits64 v shorter = some tvs ∧ NoShorter tvs (waits u timeout)

section Units

variable {u : StandardUnit} {timeout : Duration u.period}

theorem inNanos_nonneg {v : StandardUnit} {d : Duration v.period} (hnonneg : 0 ≤ d.count) :
    0 ≤ d.inNanos :=
  Int.mul_nonneg hnonneg (Int.natCast_nonneg _)

theorem call_noOverflow_iff (second : SecondReadings) (hfits : Fits64 timeout.count)
    (hnonneg : 0 ≤ timeout.count) :
    NoOverflow (fun _ => callWaits64 second) (fun _ => callWaits second) timeout ↔
      CallFits second timeout.inNanos := by
  rw [← callWaits64_iff second hfits hnonneg]
  refine ⟨NoOverflow.exact, fun hexact => ⟨hexact, fun v shorter hfits' hnonneg' hle => ?_⟩⟩
  obtain ⟨hseconds, hsecond⟩ := (callWaits64_iff second hfits hnonneg).mp hexact
  have hnanos := inNanos_nonneg hnonneg'
  have hseconds' : Fits64 (shorter.inNanos / 1000000000) :=
    hseconds.of_le (by omega) (Int.ediv_le_ediv (by decide) hle)
  have hsecond' : SecondFits (shorter.inNanos / 1000) second :=
    hsecond.of_le (by omega) (Int.ediv_le_ediv (by decide) hle)
  refine ⟨_, (callWaits64_iff second hfits' hnonneg').mpr ⟨hseconds', hsecond'⟩, ?_⟩
  obtain ⟨-, hnormalised, hmicros⟩ := timeValue64_value hfits hnonneg hseconds
  obtain ⟨-, hnormalised', hmicros'⟩ := timeValue64_value hfits' hnonneg' hseconds'
  refine callWaits_mono second hnormalised' hnormalised ?_
  rw [hmicros, hmicros']
  exact Int.ediv_le_ediv (by decide) hle

theorem consumer_noOverflow_iff (start : ClockDuration) (turns : List Turn)
    (hfits : Fits64 timeout.count) (hnonneg : 0 ≤ timeout.count) :
    NoOverflow (fun _ => consumerWaits64 start turns) (fun _ => consumerWaits start turns)
        timeout ↔
      Fits64 timeout.inNanos ∧ TurnsFit start ⟨timeout.inNanos⟩ turns := by
  rw [← consumerWaits64_iff start turns hfits hnonneg]
  refine ⟨NoOverflow.exact, fun hexact => ⟨hexact, fun v shorter hfits' hnonneg' hle => ?_⟩⟩
  obtain ⟨hcast, hturns⟩ := (consumerWaits64_iff start turns hfits hnonneg).mp hexact
  have hcast' : Fits64 shorter.inNanos := hcast.of_le (inNanos_nonneg hnonneg') hle
  have hturns' : TurnsFit start ⟨shorter.inNanos⟩ turns := turnsFit_mono start turns hle hturns
  refine ⟨_, (consumerWaits64_iff start turns hfits' hnonneg').mpr ⟨hcast', hturns'⟩, ?_⟩
  have hclock := durationCast_exact shorter v.period_nanos
  have hclock' := durationCast_exact timeout u.period_nanos
  refine turnWaits_mono start turns ?_
  rw [hclock, hclock']
  exact hle

end Units

end RmqCxx
