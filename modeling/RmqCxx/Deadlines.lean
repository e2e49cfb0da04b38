/-
# `RmqCxx.Deadlines` — what the consumers make of their timeouts

A consumer reads the clock once at its start and once for each call of `consume`; at each
reading it takes the time since the start off what is left of the timeout.  But the start
is never moved: the time before the previous call is taken off again.  The timeouts it
hands on are right up to the first call before which time has passed
(`deadline_kept_iff`).

The loop does not look at the clock either: what ends it is only what it receives
(`stops_at_deadline_iff`).
-/
import Mathlib.Data.List.Chain
import Mathlib.Data.List.Forall2
import Mathlib.Data.Nat.Find
import RmqCxx.ConsumerStreams

namespace RmqCxx

open Cpp Code

/-! ## The timeouts at the clock's readings -/

/-- The timeouts handed to `consume` at these readings. -/
def internalTimeouts (start : ClockDuration) : ClockDuration → List ClockDuration →
    List ClockDuration
  | _, [] => []
  | timeout, now :: readings =>
      let timeout := nextTimeout timeout start now
      timeout :: internalTimeouts start timeout readings

/-- A clock that never goes back. -/
def ClockAdvances [Library] : Prop :=
  ∀ n, (Library.now n).count ≤ (Library.now (n + 1)).count

theorem nextTimeout_count (timeout start now : ClockDuration) :
    (nextTimeout timeout start now).count =
      if now.count < start.count then 0
      else max (timeout.count - (now.count - start.count)) 0 := by
  rw [nextTimeout, ClockDuration.lt_iff]
  by_cases h : now.count < start.count
  · rw [if_pos (decide_eq_true h), if_pos h]
    rfl
  · rw [if_neg (by simpa using h), if_neg h, ClockDuration.max_count]
    rfl

/-! ## What is observed of the calls -/

/-- The timeouts of the calls of `consume` that were logged. -/
def World.handed (w : World) : List ClockDuration :=
  w.log.filterMap fun e =>
    match e with
    | .call .consumeMessage none [.num count] => some ⟨count⟩
    | _ => none

/-- A call from `src` adds its mark to what is observed, and nothing else does. -/
structure Source.Records {X : Type} (src : Source) (observe : World → List X)
    (mark : ClockDuration → X) : Prop where
  take (timeout : ClockDuration) (w : World) :
    observe (src.take (some timeout) w).2 = observe w ++ [mark timeout]
  leave (timeout : ClockDuration) (w w' : World) :
    observe (src.leave (some timeout) w w') = observe w'
  ignored (received : Received) (w : World) : observe (received.ignored w) = observe w
  tick (w : World) : observe w.tick = observe w

theorem streamed_records (f : Nat → Received) : (streamed f).Records World.handed id where
  take timeout w := by
    simp [streamed, World.handed, World.tell]
  leave _ _ _ := rfl
  ignored received w := by
    cases received with
    | envelope _ | returned _ _ =>
        simp [Received.ignored, World.envelopeDestroyed, World.messageDestroyed, World.handed,
          World.tell]
    | nothing | acknowledge _ | failed _ => rfl
  tick _ := rfl

section Progress

variable [Library]

theorem progress_records {X : Type} {src : Source} {observe : World → List X}
    {mark : ClockDuration → X} (hrecords : src.Records observe mark) (kind : MessageKind)
    (start : ClockDuration) (fuel : Nat) (timeout : ClockDuration) (w : World) :
    observe (src.progress kind start fuel timeout w).world =
      observe w ++ (internalTimeouts start timeout
        (src.progress kind start fuel timeout w).readings).map mark := by
  induction fuel generalizing timeout w with
  | zero => exact (List.append_nil _).symm
  | succ fuel ih =>
      generalize ht : nextTimeout timeout start (Library.now w.calls) = timeout'
      obtain ⟨received, w', htake⟩ : ∃ received w',
          src.take (some timeout') w.tick = (received, w') := ⟨_, _, rfl⟩
      have hobserve : observe w' = observe w ++ [mark timeout'] := by
        have h := hrecords.take timeout' w.tick
        rw [htake, hrecords.tick] at h
        exact h
      rw [Source.progress, ht, htake]
      dsimp only
      cases h : kind.stops received with
      | true =>
          simp only [if_true, internalTimeouts, ht]
          exact hobserve
      | false =>
          simp only [if_neg Bool.false_ne_true, Progress.after, internalTimeouts, ht]
          rw [ih, hrecords.leave, hrecords.ignored, hobserve, List.map_cons, List.append_assoc]
          rfl

/-- The way out of the last call is one of the source's. -/
theorem progress_leaves (src : Source) (kind : MessageKind) (start : ClockDuration) (fuel : Nat)
    (timeout : ClockDuration) (w : World) :
    ∀ ending ∈ (src.progress kind start fuel timeout w).ending,
      ∃ t w', ending.2 = src.leave (some t) w' := by
  induction fuel generalizing timeout w with
  | zero =>
      intro _ h
      cases h
  | succ fuel ih =>
      intro ending hending
      rw [Source.progress] at hending
      dsimp only at hending
      split at hending
      · cases hending
        exact ⟨_, _, rfl⟩
      · exact ih _ _ ending hending

end Progress

/-! ## The deadline -/

/-- What is left of the timeout at a reading of the clock. -/
def left (timeout start now : ClockDuration) : ClockDuration :=
  (timeout.minus (now.minus start)).max .zero

theorem left_count (timeout start now : ClockDuration) :
    (left timeout start now).count = max (timeout.count - (now.count - start.count)) 0 :=
  ClockDuration.max_count _ _

/-- Each call is handed what is left of the timeout when it starts, and so ends no sooner
than the timeout does. -/
structure KeepsDeadline (timeout start : ClockDuration) (readings handed : List ClockDuration) :
    Prop where
  exact : handed = readings.map (left timeout start)
  late : List.Forall₂ (fun now rest : ClockDuration =>
    start.count + timeout.count ≤ now.count + rest.count) readings handed

/-- No time had passed since the start when the call before started, or the timeout has
passed when this one does. -/
def NothingSpentTwice (timeout start before now : ClockDuration) : Prop :=
  before = start ∨ timeout.count ≤ now.count - start.count

section Exact

variable {timeout start : ClockDuration}

/-- The induction is on the readings.  `rest` is what the turns before left of the timeout:
all of it as long as no time has passed. -/
theorem internalTimeouts_eq_iff (htimeout : 0 ≤ timeout.count) (readings : List ClockDuration)
    (before rest : ClockDuration) (hbefore : start.count ≤ before.count)
    (hclock : (before :: readings).IsChain (fun a b => a.count ≤ b.count))
    (hrest : 0 ≤ rest.count ∧ rest.count ≤ timeout.count)
    (hall : before = start → rest = timeout)
    (hless : before ≠ start → rest.count < timeout.count ∨ timeout.count = 0) :
    internalTimeouts start rest readings = readings.map (left timeout start) ↔
      (before :: readings).IsChain (NothingSpentTwice timeout start) := by
  induction readings generalizing before rest with
  | nil => exact iff_of_true rfl (List.isChain_singleton before)
  | cons now readings ih =>
      obtain ⟨hnow, hclock⟩ := List.isChain_cons_cons.mp hclock
      have hcount := nextTimeout_count rest start now
      rw [if_neg (Int.not_lt.mpr (Int.le_trans hbefore hnow))] at hcount
      have hleft := left_count timeout start now
      have hhead : nextTimeout rest start now = left timeout start now ↔
          NothingSpentTwice timeout start before now := by
        constructor
        · intro heq
          by_cases hb : before = start
          · exact Or.inl hb
          · refine Or.inr ?_
            have heq := congrArg Duration.count heq
            rcases hless hb with h | h <;> omega
        · rintro (hb | hpassed)
          · have hall := congrArg Duration.count (hall hb)
            refine Duration.ext ?_
            omega
          · refine Duration.ext ?_
            omega
      rw [internalTimeouts, List.map_cons, List.cons.injEq, List.isChain_cons_cons, hhead]
      refine and_congr_right fun _ => ?_
      refine ih now _ (Int.le_trans hbefore hnow) hclock ?_ ?_ ?_
      · omega
      · intro hstart
        have hb : before = start := Duration.ext (by
          have := congrArg Duration.count hstart
          omega)
        have hall := congrArg Duration.count (hall hb)
        have hstart := congrArg Duration.count hstart
        refine Duration.ext ?_
        omega
      · intro hstart
        have hne : now.count ≠ start.count := fun h => hstart (Duration.ext h)
        omega

end Exact

/-! ## Runs on a stream -/

section Runs

variable [Library] {kind : MessageKind} {f : Nat → Received} {p : Period} {timeout : Duration p}
  {fuel : Nat} {w w' : World} {readings handed : List ClockDuration}

/-- In `fuel` turns on the stream, a consumer starts its calls of `consume` at these readings
of the clock, the first one after the start, and hands them these timeouts; `w'` is the world
after the last of them. -/
structure Waited (kind : MessageKind) (f : Nat → Received) (timeout : Duration p) (fuel : Nat)
    (w : World) (readings handed : List ClockDuration) (w' : World) : Prop where
  clock : readings = (List.range' (w.calls + 1) readings.length).map Library.now
  taken : w'.taken = w.taken + readings.length
  timeouts : w'.handed = w.handed ++ handed
  run (callback : kind.Handler) :
    (kind.timed (streamed f).consuming timeout callback fuel).run w =
      kind.verdict callback (upcoming f w.taken fuel) w'

/-- What a consumer does in `fuel` turns. -/
theorem waited (kind : MessageKind) (f : Nat → Received) (timeout : Duration p) (fuel : Nat)
    (w : World) : ∃ readings w',
      readings.length = (upToFirst kind.stops (upcoming f w.taken fuel)).length ∧
      Waited kind f timeout fuel w readings (internalTimeouts (Library.now w.calls)
        (durationCast .nanoseconds timeout) readings) w' := by
  have hrecords := progress_records (streamed_records f) kind (Library.now w.calls) fuel
    (durationCast .nanoseconds timeout) w.tick
  obtain ⟨hending, hworld, hreadings⟩ := @streamed_progress _ f kind (Library.now w.calls) fuel
    (durationCast .nanoseconds timeout) w.tick
  have hlength := congrArg List.length hreadings
  rw [List.length_map, List.length_range'] at hlength
  rw [← hlength] at hworld hreadings
  rw [List.map_id] at hrecords
  refine ⟨_, _, hlength, hreadings, hworld, hrecords, fun callback => ?_⟩
  rw [timed_run]
  exact conclude_streamed hending

theorem readings_isChain (hclock : ClockAdvances) (first n : Nat) :
    (Library.now first :: (List.range' (first + 1) n).map Library.now).IsChain
      (fun a b => a.count ≤ b.count) := by
  have hrange : Library.now first :: (List.range' (first + 1) n).map Library.now =
      (List.range' first (n + 1)).map Library.now := rfl
  rw [hrange, List.isChain_map]
  refine (List.isChain_range' first (n + 1) 1).imp ?_
  rintro a b rfl
  exact hclock a

/-- The timeouts that a consumer hands on keep its deadline if and only if it spends no time
twice. -/
theorem deadline_kept_iff (kind : MessageKind) (f : Nat → Received) (timeout : Duration p)
    (fuel : Nat) (w : World) (htimeout : 0 ≤ timeout.count) (hclock : ClockAdvances) :
    ∃ readings handed w', Waited kind f timeout fuel w readings handed w' ∧
      (KeepsDeadline (durationCast .nanoseconds timeout) (Library.now w.calls) readings handed ↔
        (Library.now w.calls :: readings).IsChain
          (NothingSpentTwice (durationCast .nanoseconds timeout) (Library.now w.calls))) := by
  obtain ⟨readings, w', -, hwaited⟩ := waited kind f timeout fuel w
  refine ⟨readings, _, w', hwaited, ?_⟩
  have hnonneg : 0 ≤ (durationCast .nanoseconds timeout).count := durationCast_nonneg htimeout
  generalize durationCast .nanoseconds timeout = total at hnonneg ⊢
  have hchain := readings_isChain hclock w.calls readings.length
  rw [← hwaited.clock] at hchain
  rw [← internalTimeouts_eq_iff hnonneg readings (Library.now w.calls) total (Int.le_refl _)
    hchain ⟨hnonneg, Int.le_refl _⟩ (fun _ => rfl) (fun h => absurd rfl h)]
  refine ⟨KeepsDeadline.exact, fun heq => ⟨heq, ?_⟩⟩
  rw [heq, List.forall₂_map_right_iff, List.forall₂_same]
  intro now _
  have hleft := left_count total (Library.now w.calls) now
  omega

end Runs

/-- A clock that goes on by four seconds from one reading to the next. -/
@[reducible] def fourSeconds : Library :=
  { allSucceed with now := fun n => ⟨4000000000 * n⟩ }

/-- One acknowledgement, and then nothing. -/
def anAcknowledgement : Nat → Received
  | 0 => .acknowledge ⟨1, false⟩
  | _ + 1 => .nothing

/-- An acknowledgement is received after four seconds, and nothing after that. -/
theorem deadline_kept_iff_acknowledged :
    @ClockAdvances fourSeconds ∧
    ∃ readings handed w',
      @Waited fourSeconds _ .envelope anAcknowledgement (⟨10⟩ : Duration .seconds) 2 .initial
        readings handed w' ∧
      (KeepsDeadline (durationCast .nanoseconds (⟨10⟩ : Duration .seconds)) ⟨0⟩ readings handed ↔
        (⟨0⟩ :: readings : List ClockDuration).IsChain
          (NothingSpentTwice (durationCast .nanoseconds (⟨10⟩ : Duration .seconds)) ⟨0⟩)) := by
  have hclock : @ClockAdvances fourSeconds := fun n => by
    show (4000000000 * n : Int) ≤ 4000000000 * (n + 1 : Nat)
    omega
  exact ⟨hclock, @deadline_kept_iff fourSeconds _ .envelope anAcknowledgement ⟨10⟩ 2 .initial
    (by decide) hclock⟩

/-- Of ten seconds, eight have passed when the second call starts; it is handed none. -/
theorem second_wait_ends_early :
    ∃ readings handed w',
      @Waited fourSeconds _ .envelope anAcknowledgement (⟨10⟩ : Duration .seconds) 2 .initial
        readings handed w' ∧
      readings = [⟨4000000000⟩, ⟨8000000000⟩] ∧ handed = [⟨6000000000⟩, ⟨0⟩] ∧
      ¬ KeepsDeadline ⟨10000000000⟩ ⟨0⟩ readings handed := by
  let _ : Library := fourSeconds
  obtain ⟨readings, w', hlength, hwaited⟩ :=
    @waited fourSeconds _ .envelope anAcknowledgement (⟨10⟩ : Duration .seconds) 2 .initial
  have hreadings := hwaited.clock
  rw [hlength] at hreadings
  have hreadings : readings = [⟨4000000000⟩, ⟨8000000000⟩] := hreadings
  subst hreadings
  refine ⟨_, _, w', hwaited, rfl, by decide, fun hkeeps => ?_⟩
  exact absurd hkeeps.exact (by decide)

section Runs

variable [Library] {kind : MessageKind} {f : Nat → Received} {p : Period} {timeout : Duration p}
  {fuel : Nat} {w w' : World} {readings handed : List ClockDuration}

/-! ## The end at the deadline -/

/-- The timeout has passed at the reading of the clock. -/
def timeIsUp (timeout start now : ClockDuration) : Bool :=
  decide (timeout.count ≤ now.count - start.count)

/-- At most one call starts when the time is up, and the consumer ends with it. -/
structure StopsAtDeadline (kind : MessageKind) (f : Nat → Received) (timeout : Duration p)
    (fuel : Nat) (w : World) (readings : List ClockDuration) : Prop where
  once : readings.countP
    (timeIsUp (durationCast .nanoseconds timeout) (Library.now w.calls)) ≤ 1
  ends : 0 < readings.countP
      (timeIsUp (durationCast .nanoseconds timeout) (Library.now w.calls)) →
    ∀ callback : kind.Handler,
      ((kind.timed (streamed f).consuming timeout callback fuel).run w).1 ≠ .ret none

/-- The `n`-th call is the first to start when the time is up, and the consumer gets to it. -/
structure FirstLate (kind : MessageKind) (f : Nat → Received) (timeout : Duration p) (w : World)
    (n : Nat) : Prop where
  reached : ∀ m < n, kind.stops (f (w.taken + m)) = false
  late : timeIsUp (durationCast .nanoseconds timeout) (Library.now w.calls)
    (Library.now (w.calls + 1 + n)) = true
  first : ∀ m < n, timeIsUp (durationCast .nanoseconds timeout) (Library.now w.calls)
    (Library.now (w.calls + 1 + m)) = false

/-- The first late call of a run, if it has one. -/
theorem firstLate_of_countP {n : Nat}
    (hlength : n = (upToFirst kind.stops (upcoming f w.taken fuel)).length)
    (hlate : 0 < ((List.range' (w.calls + 1) n).map Library.now).countP
      (timeIsUp (durationCast .nanoseconds timeout) (Library.now w.calls))) :
    ∃ m < n, FirstLate kind f timeout w m := by
  have hex : ∃ m, m < n ∧ timeIsUp (durationCast .nanoseconds timeout) (Library.now w.calls)
      (Library.now (w.calls + 1 + m)) = true := by
    obtain ⟨now, hnow, hup⟩ := List.countP_pos_iff.mp hlate
    obtain ⟨i, hi, rfl⟩ := List.mem_map.mp hnow
    obtain ⟨m, hm, rfl⟩ := List.mem_range'.mp hi
    refine ⟨m, hm, ?_⟩
    rwa [Nat.one_mul] at hup
  obtain ⟨hm, hup⟩ := Nat.find_spec hex
  refine ⟨Nat.find hex, hm, fun k hk => ?_, hup, fun k hk => ?_⟩
  · refine skipped_of_lt fuel w.taken k ?_
    omega
  · have hk' := Nat.find_min hex hk
    rw [not_and] at hk'
    exact Bool.eq_false_iff.mpr (hk' (Nat.lt_trans hk hm))

omit [Library] in
theorem verdict_ne_none {items : List Received} {callback : kind.Handler}
    (h : items.find? kind.stops ≠ none) : (kind.verdict callback items w').1 ≠ .ret none := by
  obtain ⟨received, hfind⟩ := Option.ne_none_iff_exists'.mp h
  rw [MessageKind.verdict, hfind]
  show ((kind.finish callback received).run w').1.map some ≠ _
  cases ((kind.finish callback received).run w').1 <;> simp [Outcome.map]

/-- A callback that does nothing. -/
def MessageKind.doNothing : (kind : MessageKind) → kind.Handler
  | .envelope | .returnedMessage => pure ()
  | .acknowledge => fun _ => pure ()

omit [Library] in
theorem verdict_none {items : List Received} {callback : kind.Handler}
    (h : items.find? kind.stops = none) : kind.verdict callback items w' = (.ret none, w') := by
  rw [MessageKind.verdict, h]

/-- If the first late call receives what is skipped, the consumer goes on. -/
theorem goes_on_of_skipped {n : Nat} (hn : FirstLate kind f timeout w n)
    (hskip : kind.stops (f (w.taken + n)) = false)
    (hwaited : Waited kind f timeout (n + 1) w readings handed w') :
    ¬ StopsAtDeadline kind f timeout (n + 1) w readings := by
  intro hstop
  have hskipped : ∀ m < n + 1, kind.stops (f (w.taken + m)) = false := by
    intro m hm
    rcases Nat.lt_succ_iff_lt_or_eq.mp hm with hm | rfl
    · exact hn.reached m hm
    · exact hskip
  obtain ⟨hall, hfind⟩ := upToFirst_of_skipped (n + 1) w.taken hskipped
  obtain ⟨readings', w'', hlength', hwaited'⟩ := waited kind f timeout (n + 1) w
  have hrun := hwaited.run kind.doNothing
  have hsame := hrun.symm.trans (hwaited'.run kind.doNothing)
  rw [verdict_none hfind] at hrun
  rw [verdict_none hfind, verdict_none hfind] at hsame
  cases hsame
  have htaken := hwaited.taken.symm.trans hwaited'.taken
  have hlength : readings.length = n + 1 := by omega
  refine hstop.ends (List.countP_pos_iff.mpr ⟨_, ?_, hn.late⟩) kind.doNothing (by rw [hrun])
  rw [hwaited.clock, hlength]
  refine List.mem_map_of_mem (List.mem_range'.mpr ⟨n, Nat.lt_succ_self n, ?_⟩)
  rw [Nat.one_mul]

/-- If it does not, the consumer ends with it. -/
theorem stops_of_last {n : Nat} (hn : FirstLate kind f timeout w n)
    (hlast : kind.stops (f (w.taken + n)) = true)
    (hlength : readings.length = (upToFirst kind.stops (upcoming f w.taken fuel)).length)
    (hreached : n < readings.length)
    (hwaited : Waited kind f timeout fuel w readings handed w') :
    StopsAtDeadline kind f timeout fuel w readings := by
  have hend : readings.length = n + 1 := by
    refine Nat.le_antisymm (Nat.not_lt.mp fun hlt => ?_) hreached
    rw [hlength] at hlt
    exact ne_true_of_eq_false (skipped_of_lt fuel w.taken n hlt) hlast
  refine ⟨?_, fun _ callback => ?_⟩
  · have hclock := hwaited.clock
    rw [hend, List.range'_concat, Nat.one_mul, List.map_append] at hclock
    have hbefore : ((List.range' (w.calls + 1) n).map Library.now).countP
        (timeIsUp (durationCast .nanoseconds timeout) (Library.now w.calls)) = 0 := by
      refine List.countP_eq_zero.mpr fun now hnow => ?_
      obtain ⟨i, hi, rfl⟩ := List.mem_map.mp hnow
      obtain ⟨m, hm, rfl⟩ := List.mem_range'.mp hi
      rw [Nat.one_mul]
      exact ne_true_of_eq_false (hn.first m hm)
    rw [hclock, List.countP_append, hbefore, Nat.zero_add]
    exact List.countP_le_length
  · rw [hwaited.run callback]
    refine verdict_ne_none fun hnone => ?_
    refine List.find?_eq_none.mp hnone (f (w.taken + n)) ?_ hlast
    refine List.mem_map_of_mem (List.mem_range'.mpr ⟨n, ?_, ?_⟩)
    · have hle := upToFirst_length_le kind.stops (upcoming f w.taken fuel)
      rw [upcoming, List.length_map, List.length_range'] at hle
      rw [upcoming] at hlength
      omega
    · rw [Nat.one_mul]

/-- A consumer stops at its deadline, in any number of turns, if and only if the first call
that starts when the time is up does not receive what is skipped. -/
theorem stops_at_deadline_iff (kind : MessageKind) (f : Nat → Received) (timeout : Duration p)
    (w : World) :
    (∀ fuel, ∃ readings handed w', Waited kind f timeout fuel w readings handed w' ∧
      StopsAtDeadline kind f timeout fuel w readings) ↔
      ∀ n, FirstLate kind f timeout w n → kind.stops (f (w.taken + n)) = true := by
  constructor
  · intro hstops n hn
    by_contra hskip
    obtain ⟨readings, handed, w', hwaited, hstop⟩ := hstops (n + 1)
    exact goes_on_of_skipped hn (Bool.eq_false_iff.mpr hskip) hwaited hstop
  · intro hlast fuel
    obtain ⟨readings, w', hlength, hwaited⟩ := waited kind f timeout fuel w
    refine ⟨readings, _, w', hwaited, ?_⟩
    rcases Nat.eq_zero_or_pos (readings.countP (timeIsUp (durationCast .nanoseconds timeout)
      (Library.now w.calls))) with hnone | hlate
    · exact ⟨Nat.le_of_eq hnone |>.trans (Nat.zero_le 1), fun hpos => absurd hnone hpos.ne'⟩
    · rw [hwaited.clock] at hlate
      obtain ⟨n, hreached, hn⟩ := firstLate_of_countP hlength hlate
      exact stops_of_last hn (hlast n hn) hlength hreached hwaited

end Runs
/-- With acknowledgements arriving, a consumer of envelopes goes on after its deadline. -/
theorem waits_after_deadline :
    ∃ readings handed w',
      @Waited fourSeconds _ .envelope (fun _ => .acknowledge ⟨1, false⟩)
        (⟨4⟩ : Duration .seconds) 2 .initial readings handed w' ∧
      ¬ @StopsAtDeadline fourSeconds _ .envelope (fun _ => .acknowledge ⟨1, false⟩)
        (⟨4⟩ : Duration .seconds) 2 .initial readings := by
  let _ : Library := fourSeconds
  obtain ⟨readings, w', hlength, hwaited⟩ := @waited fourSeconds _ .envelope
    (fun _ => .acknowledge ⟨1, false⟩) (⟨4⟩ : Duration .seconds) 2 .initial
  have hreadings := hwaited.clock
  rw [hlength] at hreadings
  have hreadings : readings = [⟨4000000000⟩, ⟨8000000000⟩] := hreadings
  subst hreadings
  refine ⟨_, _, w', hwaited, fun hstops => ?_⟩
  exact absurd hstops.once (by decide)

end RmqCxx
