/-
# `RmqCxx.ConsumerStreams` — the consumers are the first match of a stream

On a stream of things received, a consumer with a timeout takes the things up to the
first one of its kind, or that is nothing, or an exception, and `verdict` says how it
ends on that one.  A consumer without takes them up to the first one of its kind or that
is an exception: it behaves as the other does on the stream without its nothings.
-/
import RmqCxx.ConsumerRuns

namespace RmqCxx

open Cpp Code

/-! ## Lists up to their first match -/

/-- The list up to its first element with the property, which it includes. -/
def upToFirst {α : Type} (p : α → Bool) : List α → List α
  | [] => []
  | a :: as => if p a then [a] else a :: upToFirst p as

/-- What the next `fuel` calls of `consume` receive. -/
def upcoming (f : Nat → Received) (taken fuel : Nat) : List Received :=
  (List.range' taken fuel).map f

theorem upcoming_succ (f : Nat → Received) (taken fuel : Nat) :
    upcoming f taken (fuel + 1) = f taken :: upcoming f (taken + 1) fuel := rfl

section UpToFirst

variable {f : Nat → Received} {p : Received → Bool}

theorem upToFirst_length_le {α : Type} (p : α → Bool) (as : List α) :
    (upToFirst p as).length ≤ as.length := by
  induction as with
  | nil => exact Nat.le_refl _
  | cons a as ih =>
      rw [upToFirst]
      split
      · exact Nat.succ_le_succ (Nat.zero_le _)
      · exact Nat.succ_le_succ ih

/-- All but the last of the list do not have the property. -/
theorem skipped_of_lt (fuel taken n : Nat)
    (h : n + 1 < (upToFirst p (upcoming f taken fuel)).length) : p (f (taken + n)) = false := by
  induction fuel generalizing taken n with
  | zero => exact absurd h (Nat.not_lt_zero _)
  | succ fuel ih =>
      rw [upcoming_succ, upToFirst] at h
      cases hp : p (f taken) with
      | true =>
          rw [hp, if_pos rfl, List.length_singleton] at h
          omega
      | false =>
          rw [hp, if_neg Bool.false_ne_true, List.length_cons] at h
          cases n with
          | zero => exact hp
          | succ n =>
              have hn := ih (taken + 1) n (Nat.lt_of_succ_lt_succ h)
              rwa [Nat.add_right_comm] at hn

/-- Nothing on the way has the property. -/
theorem upToFirst_of_skipped (fuel taken : Nat) (h : ∀ n < fuel, p (f (taken + n)) = false) :
    (upToFirst p (upcoming f taken fuel)).length = fuel ∧
      (upcoming f taken fuel).find? p = none := by
  induction fuel generalizing taken with
  | zero => exact ⟨rfl, rfl⟩
  | succ fuel ih =>
      have hp : p (f taken) = false := h 0 (Nat.succ_pos fuel)
      obtain ⟨hlength, hfind⟩ := ih (taken + 1) fun n hn => by
        have hn' := h (n + 1) (Nat.succ_lt_succ hn)
        rwa [Nat.add_right_comm]
      rw [upcoming_succ, upToFirst, List.find?_cons, hp]
      exact ⟨congrArg (· + 1) hlength, hfind⟩

end UpToFirst

def withoutNothings (items : List Received) : List Received := items.filter (· ≠ .nothing)

theorem withoutNothings_cons {received : Received} (items : List Received)
    (h : received ≠ .nothing) :
    withoutNothings (received :: items) = received :: withoutNothings items :=
  List.filter_cons_of_pos (by simpa using h)

namespace MessageKind

/-- The thing is of the kind, or an exception. -/
def stopsWaiting (kind : MessageKind) : Received → Bool
  | .nothing => false
  | received => kind.stops received

theorem stopsWaiting_eq {kind : MessageKind} {received : Received} (h : received ≠ .nothing) :
    kind.stopsWaiting received = kind.stops received := by
  cases received with
  | nothing => exact absurd rfl h
  | envelope _ | returned _ _ | acknowledge _ | failed _ => rfl

/-- How a consumer ends that received these things. -/
def verdict (kind : MessageKind) (callback : kind.Handler) (items : List Received) (w : World) :
    Outcome Exc (Option Bool) × World :=
  match items.find? kind.stops with
  | none => (.ret none, w)
  | some received =>
      let (o, w) := (kind.finish callback received).run w
      (o.map some, w)

variable {kind : MessageKind} {received : Received} {items : List Received}
  (callback : kind.Handler) (w : World)

theorem verdict_here (h : kind.stopsWaiting received = true) :
    kind.verdict callback (withoutNothings (received :: items)) w =
      (((kind.finish callback received).run w).1.map some,
        ((kind.finish callback received).run w).2) := by
  have hne : received ≠ .nothing := by
    rintro rfl
    cases h
  rw [stopsWaiting_eq hne] at h
  rw [verdict, withoutNothings_cons items hne, List.find?_cons_of_pos h]

/-- What is passed over without a timeout is no match with one either. -/
theorem verdict_past (h : kind.stopsWaiting received = false) :
    kind.verdict callback (withoutNothings (received :: items)) w =
      kind.verdict callback (withoutNothings items) w := by
  by_cases hnothing : received = .nothing
  · rw [hnothing]
    rfl
  · rw [stopsWaiting_eq hnothing] at h
    rw [verdict, verdict, withoutNothings_cons items hnothing,
      List.find?_cons_of_neg (ne_true_of_eq_false h)]

end MessageKind

/-! ## The world on the way -/

section Taken

variable (w : World) (received : Received)

theorem taken_tell (args : List Arg) :
    (w.tell (.call .consumeMessage none args)).taken = w.taken + 1 := by
  simp [World.taken, World.tell]

theorem taken_ignored : (received.ignored w).taken = w.taken := by
  cases received with
  | envelope _ | returned _ _ =>
      simp [Received.ignored, World.envelopeDestroyed, World.messageDestroyed, World.taken,
        World.tell]
  | nothing | acknowledge _ | failed _ => rfl

theorem calls_ignored : (received.ignored w).calls = w.calls := by
  cases received <;> rfl

end Taken

/-! ## With a timeout -/

section Streams

variable [Library] {f : Nat → Received} {kind : MessageKind}

theorem streamed_progress (start : ClockDuration) (fuel : Nat) (timeout : ClockDuration)
    (w : World) :
    ((streamed f).progress kind start fuel timeout w).ending =
        ((upcoming f w.taken fuel).find? kind.stops).map (·, id) ∧
      ((streamed f).progress kind start fuel timeout w).world.taken =
        w.taken + (upToFirst kind.stops (upcoming f w.taken fuel)).length ∧
      ((streamed f).progress kind start fuel timeout w).readings =
        (List.range' w.calls (upToFirst kind.stops (upcoming f w.taken fuel)).length).map
          Library.now := by
  induction fuel generalizing timeout w with
  | zero => exact ⟨rfl, rfl, rfl⟩
  | succ fuel ih =>
      generalize ht : nextTimeout timeout start (Library.now w.calls) = timeout'
      obtain ⟨w', hw', htake⟩ : ∃ w', w' = w.tick.tell (.call .consumeMessage none
          [.num timeout'.count]) ∧ (streamed f).take (some timeout') w.tick = (f w.taken, w') :=
        ⟨_, rfl, rfl⟩
      have htaken : w'.taken = w.taken + 1 := by
        rw [hw']
        exact taken_tell w.tick _
      rw [Source.progress, ht, htake, upcoming_succ, List.find?_cons, upToFirst]
      dsimp only
      cases h : kind.stops (f w.taken) with
      | true => exact ⟨rfl, htaken, rfl⟩
      | false =>
          obtain ⟨hending, hworld, hreadings⟩ := ih timeout' ((f w.taken).ignored w')
          have hcalls : ((f w.taken).ignored w').calls = w.calls + 1 := by
            rw [calls_ignored, hw']
            rfl
          rw [taken_ignored, htaken] at hending hworld hreadings
          rw [hcalls] at hreadings
          simp only [if_neg Bool.false_ne_true]
          refine ⟨hending, ?_, ?_⟩
          · refine hworld.trans ?_
            rw [List.length_cons]
            omega
          · exact congrArg (Library.now w.calls :: ·) hreadings

omit [Library] in
theorem conclude_streamed {callback : kind.Handler} {p : Progress} {items : List Received}
    (h : p.ending = (items.find? kind.stops).map (·, id)) :
    kind.conclude callback p = kind.verdict callback items p.world := by
  rw [MessageKind.conclude, MessageKind.verdict, h]
  cases items.find? kind.stops with
  | none => rfl
  | some received =>
      simp only [Option.map_some, scopeExit_idle]

/-! ## Without a timeout -/

/-- One turn of the consumer's loop. -/
def MessageKind.blockingTurn (kind : MessageKind) (src : Source) (callback : kind.Handler) :
    Unit → Code (Bool × World) Exc (Bool × Unit) :=
  src.consuming.blockingTurn (kind.onEnvelope callback) (kind.onReturned callback)
    (kind.onAcknowledge callback)

section BlockingTurn

variable {callback : kind.Handler} {received : Received} {w w' : World}

omit [Library] in
/-- What the consumer does not stop at, or nothing. -/
theorem dispatch_passed_over (h : kind.stopsWaiting received = false) :
    ∃ r, (kind.dispatch callback received).run (false, w) =
      (.ret r, (false, received.ignored w)) := by
  by_cases hnothing : received = .nothing
  · rw [hnothing]
    exact ⟨false, rfl⟩
  · rw [MessageKind.stopsWaiting_eq hnothing] at h
    exact ⟨true, dispatch_skipped h false w⟩

omit [Library] in
theorem blockingTurn_skips (htake : (streamed f).take none w = (received, w'))
    (h : kind.stopsWaiting received = false) :
    (kind.blockingTurn (streamed f) callback ()).run (false, w) =
      (.ret (true, ()), (false, received.ignored w')) := by
  obtain ⟨r, hdispatch⟩ := @dispatch_passed_over kind callback received w' h
  have hconsume := (source_consume_run kind callback htake).trans (scopeExit_of_ret hdispatch)
  have hdrop := run_drop ((streamed f).consume none (kind.onEnvelope callback)
    (kind.onReturned callback) (kind.onAcknowledge callback)) (false, w)
  rw [hconsume] at hdrop
  rw [MessageKind.blockingTurn, Consume.blockingTurn]
  exact bind_of_ret hdrop

omit [Library] in
/-- The loop has found what it waits for, or lets an exception out. -/
theorem dispatch_stopsWaiting (h : kind.stopsWaiting received = true) :
    ∃ done, (∀ r, ((kind.finish callback received).run w).1 = .ret r → done = true) ∧
      (kind.dispatch callback received).run (false, w) =
        (((kind.finish callback received).run w).1,
          (done, ((kind.finish callback received).run w).2)) := by
  cases received with
  | nothing => cases h
  | failed e => exact ⟨false, by nofun, rfl⟩
  | envelope _ | returned _ _ | acknowledge _ =>
      refine ⟨true, fun _ _ => rfl, ?_⟩
      rw [finish_accepted h, dispatch_accepted h]

omit [Library] in
theorem blockingTurn_stops (htake : (streamed f).take none w = (received, w'))
    (h : kind.stopsWaiting received = true) {o : Outcome Exc Bool} {w₂ : World}
    (hfinish : (kind.finish callback received).run w' = (o, w₂)) :
    ∃ done, (kind.blockingTurn (streamed f) callback ()).run (false, w) =
      ((o.map fun _ => ()).map (fun u => (false, u)), (done, w₂)) := by
  obtain ⟨done, hdone, hdispatch⟩ := @dispatch_stopsWaiting kind callback received w' h
  rw [hfinish] at hdispatch hdone
  have hconsume : ((streamed f).consume none (kind.onEnvelope callback)
      (kind.onReturned callback) (kind.onAcknowledge callback)).run (false, w) =
        (o, (done, w₂)) := by
    rw [source_consume_run kind callback htake, ← hdispatch]
    show (scopeExit (modify id) (kind.dispatch callback received)).run (false, w') = _
    rw [scopeExit_idle]
  have hdrop := run_drop ((streamed f).consume none (kind.onEnvelope callback)
    (kind.onReturned callback) (kind.onAcknowledge callback)) (false, w)
  rw [hconsume] at hdrop
  refine ⟨done, ?_⟩
  rw [MessageKind.blockingTurn, Consume.blockingTurn]
  cases o with
  | ret r =>
      cases hdone r rfl
      exact bind_of_ret hdrop
  | thrown e => exact bind_of_thrown hdrop
  | terminate => exact bind_of_terminate hdrop

end BlockingTurn

omit [Library] in
theorem blockingLoop_run (fuel : Nat) (w : World) :
    ∃ w', w'.taken =
        w.taken + (upToFirst kind.stopsWaiting (upcoming f w.taken fuel)).length ∧
      ∀ callback : kind.Handler, ∃ done,
        (doWhile (kind.blockingTurn (streamed f) callback) fuel ()).run (false, w) =
          ((kind.verdict callback (withoutNothings (upcoming f w.taken fuel)) w').1.map
              (Option.map fun _ => ()),
            (done, (kind.verdict callback
              (withoutNothings (upcoming f w.taken fuel)) w').2)) := by
  induction fuel generalizing w with
  | zero => exact ⟨w, rfl, fun callback => ⟨false, rfl⟩⟩
  | succ fuel ih =>
      obtain ⟨w₁, htaken, htake⟩ : ∃ w₁, w₁.taken = w.taken + 1 ∧
          (streamed f).take none w = (f w.taken, w₁) := ⟨_, taken_tell w _, rfl⟩
      rw [upcoming_succ, upToFirst]
      cases h : kind.stopsWaiting (f w.taken) with
      | true =>
          refine ⟨w₁, htaken, fun callback => ?_⟩
          obtain ⟨o, w₂, hfinish⟩ : ∃ o w₂, (kind.finish callback (f w.taken)).run w₁ = (o, w₂) :=
            ⟨_, _, rfl⟩
          obtain ⟨done, hturn⟩ := blockingTurn_stops htake h hfinish
          refine ⟨done, (doWhile_last hturn).trans ?_⟩
          rw [MessageKind.verdict_here callback w₁ h, hfinish]
          cases o <;> rfl
      | false =>
          obtain ⟨w', hworld, hloop⟩ := ih ((f w.taken).ignored w₁)
          rw [taken_ignored, htaken] at hworld hloop
          refine ⟨w', ?_, fun callback => ?_⟩
          · refine hworld.trans ?_
            rw [if_neg Bool.false_ne_true, List.length_cons]
            omega
          · obtain ⟨done, hrun⟩ := hloop callback
            refine ⟨done, (doWhile_again (blockingTurn_skips htake h)).trans (hrun.trans ?_)⟩
            rw [MessageKind.verdict_past callback w' h]

/-- The consumers are the first match of the stream. -/
theorem consumers_first_match (kind : MessageKind) (f : Nat → Received) {p : Period}
    (timeout : Duration p) (fuel : Nat) (w : World) :
    (∃ w', w'.taken = w.taken + (upToFirst kind.stops (upcoming f w.taken fuel)).length ∧
      ∀ callback, (kind.timed (streamed f).consuming timeout callback fuel).run w =
        kind.verdict callback (upcoming f w.taken fuel) w') ∧
    (∃ w', w'.taken =
        w.taken + (upToFirst kind.stopsWaiting (upcoming f w.taken fuel)).length ∧
      ∀ callback, (kind.blocking (streamed f).consuming callback fuel).run w =
        ((kind.verdict callback (withoutNothings (upcoming f w.taken fuel)) w').1.map
            (Option.map fun _ => ()),
          (kind.verdict callback
            (withoutNothings (upcoming f w.taken fuel)) w').2)) := by
  refine ⟨?_, ?_⟩
  · obtain ⟨hending, hworld, -⟩ := @streamed_progress _ f kind (Library.now w.calls) fuel
      (durationCast .nanoseconds timeout) w.tick
    refine ⟨_, hworld, fun callback => ?_⟩
    rw [timed_run]
    exact conclude_streamed hending
  · obtain ⟨w', hworld, hloop⟩ := @blockingLoop_run f kind fuel w
    refine ⟨w', hworld, fun callback => ?_⟩
    obtain ⟨done, hrun⟩ := hloop callback
    rw [MessageKind.blocking_eq, Consume.blockingUntilDone]
    exact withLocal_of_idle hrun rfl

end Streams
end RmqCxx
