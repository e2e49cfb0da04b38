/-
# `RmqCxx.AdvConsumerSteps` — what a step can do

The inversion of `Turn.step`: `Worked` lists what a step of the worker can be, with what
`RmqCxx.AdvConsumerCalls` says of its calls, and `Turned` what a step of anybody can be.
The invariants of `RmqCxx.AdvConsumerRuns` are case analyses of the two.  When the worker
has no step is said by `work_eq_none_iff`.
-/
import RmqCxx.AdvConsumerCalls

namespace RmqCxx

open Cpp Code

namespace Worker

/-- The locals of the `try` block, while the worker is in its loop. -/
def locals : Worker → Option Consumer.Locals
  | .polling locals | .consuming locals _ _ | .emplacing locals _ => some locals
  | .acking locals | .sending locals => some locals
  | _ => none

/-- What is left of the timeout of `consumeEnvelope`. -/
def timeout : Worker → Option ClockDuration
  | .consuming _ _ vars => some vars.1
  | _ => none

/-- What the callback was given, and has not put into `messages_` yet. -/
def arrived : Worker → List Consumer.Message
  | .emplacing _ arrived => arrived
  | _ => []

/-- The mutex that the worker locks next. -/
def wants : Worker → Option Consumer.Mutex
  | .acking _ | .clearing => some .ackMtx
  | .caught => some .messageMtx
  | _ => none

/-- The mutex that the worker has locked. -/
def holds : Worker → Option Consumer.Mutex
  | .sending _ | .forgetting => some .ackMtx
  | .dropping => some .messageMtx
  | _ => none

/-- Where the worker is when it has locked the mutex it wants. -/
def locked : Worker → Worker
  | .acking locals => .sending locals
  | .caught => .dropping
  | .clearing => .forgetting
  | worker => worker

/-- Between the call of `consumeEnvelope` and its end. -/
def inPoll : Worker → Bool
  | .consuming _ _ _ | .emplacing _ _ => true
  | _ => false

/-- In the handler. -/
def handling : Worker → Bool
  | .caught | .dropping | .clearing | .forgetting => true
  | _ => false

/-- There is no thread, or its function has returned. -/
def ended : Worker → Bool
  | .absent | .finished => true
  | _ => false

/-- How many steps are left to a worker that was stopped outside `consumeEnvelope`. -/
def rank : Worker → Nat
  | .absent | .finished => 0
  | .top => 1
  | .polling _ | .forgetting => 2
  | .clearing => 3
  | .dropping => 4
  | .caught => 5
  | .sending _ => 6
  | .acking _ | .consuming _ _ _ | .emplacing _ _ => 7

theorem rank_le (worker : Worker) : worker.rank ≤ 7 := by
  cases worker <;> simp [rank]

theorem rank_eq_zero_iff (worker : Worker) : worker.rank = 0 ↔ worker.ended = true := by
  cases worker <;> simp [rank, ended]

section Locked

variable {worker : Worker} {m : Consumer.Mutex}

@[simp] theorem locked_locals : worker.locked.locals = worker.locals := by
  cases worker <;> rfl

@[simp] theorem locked_handling : worker.locked.handling = worker.handling := by
  cases worker <;> rfl

@[simp] theorem locked_arrived : worker.locked.arrived = worker.arrived := by
  cases worker <;> rfl

theorem locked_timeout (h : worker.wants = some m) : worker.locked.timeout = none := by
  cases worker <;> first | rfl | cases h

/-- The worker has nothing locked when it locks a mutex. -/
theorem holds_of_wants (h : worker.wants = some m) : worker.holds = none := by
  cases worker <;> first | rfl | cases h

theorem locked_holds (h : worker.wants = some m) : worker.locked.holds = some m := by
  cases worker <;> first | exact h | cases h

theorem locked_rank (h : worker.wants = some m) : worker.locked.rank < worker.rank := by
  cases worker <;> first | exact Nat.lt_succ_self _ | cases h

theorem locked_inPoll : worker.locked.inPoll = worker.inPoll := by
  cases worker <;> rfl

end Locked
end Worker

namespace Consumer

section Next

variable (locals : Locals) (start : ClockDuration) (again : Bool) (vars : ClockDuration × Bool)
  (arrived : List Message)

@[simp] theorem next_locals : (locals.next start again vars arrived).locals = some locals := by
  cases arrived with
  | nil => cases again <;> rfl
  | cons _ _ => rfl

@[simp] theorem next_arrived : (locals.next start again vars arrived).arrived = arrived := by
  cases arrived with
  | nil => cases again <;> rfl
  | cons _ _ => rfl

@[simp] theorem next_holds : (locals.next start again vars arrived).holds = none := by
  cases arrived with
  | nil => cases again <;> rfl
  | cons _ _ => rfl

@[simp] theorem next_handling : (locals.next start again vars arrived).handling = false := by
  cases arrived with
  | nil => cases again <;> rfl
  | cons _ _ => rfl

theorem next_timeout {t : ClockDuration}
    (h : t ∈ (locals.next start again vars arrived).timeout) : t = vars.1 := by
  cases arrived with
  | nil =>
      cases again with
      | true => exact (Option.mem_some.mp h).symm
      | false => cases h
  | cons _ _ => cases h

end Next

/-- The worker's locals are over one handle, and it polls with a timeout of zero. -/
structure System.Placed (s : System) : Prop where
  handle : ∀ locals, s.worker_.locals = some locals → ∃ n, locals.Over n
  timeout : ∀ t ∈ s.worker_.timeout, t = ⟨0⟩

section Steps

variable {s t : System} {locals : Locals} {n : Nat}

variable [Library]

/-- What a step of the worker can do.  While it is in the loop of the `try` block, the
calls are over the handle `n` of its connection. -/
inductive Worked (s : System) : System → Prop
  | connected {locals : Locals} {w : World} (hat : s.worker_ = .top)
      (hrun : s.consumer.run_ = true) (hconnects : Connects s.world (.ret locals, w)) :
      Worked s { s with worker_ := .polling locals, world := w }
  | refused {e : Exc} {w : World} (hat : s.worker_ = .top)
      (hrun : s.consumer.run_ = true) (hconnects : Connects s.world (.thrown e, w)) :
      Worked s { s with worker_ := .caught, world := w }
  | finished (hat : s.worker_ = .top) : Worked s { s with worker_ := .finished }
  | began {locals : Locals} {start : ClockDuration} (hat : s.worker_ = .polling locals)
      (hrun : s.consumer.run_ = true) :
      Worked s { s with worker_ := .consuming locals start (⟨0⟩, false), world := s.world.tick }
  | stopped {locals : Locals} {n : Nat} {w : World} (hat : s.worker_ = .polling locals)
      (hover : locals.Over n) (hrun : s.consumer.run_ = false)
      (hleaves : Leaves n s.world w) : Worked s { s with worker_ := .top, world := w }
  | polled {locals : Locals} {n : Nat} {start : ClockDuration} {vars vars' : ClockDuration × Bool}
      {again : Bool} {arrived : List Message} {w : World}
      (hat : s.worker_ = .consuming locals start vars) (hover : locals.Over n)
      (hpolls : Polls n s.world (.ret (again, vars'), arrived, w)) :
      Worked s { s with
        worker_ := locals.next start again vars' arrived
        world := w
        history := { s.history with delivered := s.history.delivered ++ arrived } }
  | pollFailed {locals : Locals} {n : Nat} {start : ClockDuration} {vars : ClockDuration × Bool}
      {e : Exc} {v w : World} (hat : s.worker_ = .consuming locals start vars)
      (hover : locals.Over n) (hpolls : Polls n s.world (.thrown e, [], v))
      (hleaves : Leaves n v w) : Worked s { s with worker_ := .caught, world := w }
  | emplaced {locals : Locals} {arrived : List Message}
      (hat : s.worker_ = .emplacing locals arrived) :
      Worked s { s with
        consumer := { s.consumer with messages_ := s.consumer.messages_ ++ arrived }
        worker_ := .acking locals }
  | locked {m : Mutex} (hwants : s.worker_.wants = some m) (hfree : s.consumer.owner m = none) :
      Worked s { s with
        consumer := s.consumer.setOwner (some .worker) m
        worker_ := s.worker_.locked }
  | idle {locals : Locals} (hat : s.worker_ = .sending locals)
      (hempty : s.consumer.ackQueue_ = []) :
      Worked s { s with consumer := s.consumer.unlock .ackMtx, worker_ := .polling locals }
  | acked {locals : Locals} {n : Nat} {id : UInt64} {ackQueue : List UInt64} {w : World}
      (hat : s.worker_ = .sending locals) (hover : locals.Over n)
      (hqueue : s.consumer.ackQueue_ = id :: ackQueue) (hacks : Acks n id s.world w) :
      Worked s { s with
        consumer := { s.consumer with ackQueue_ := ackQueue }.unlock .ackMtx
        worker_ := .polling locals
        world := w }
  | ackFailed {locals : Locals} {n : Nat} {id : UInt64} {ackQueue : List UInt64} {v w : World}
      (hat : s.worker_ = .sending locals) (hover : locals.Over n)
      (hqueue : s.consumer.ackQueue_ = id :: ackQueue) (hacks : Acks n id s.world v)
      (hleaves : Leaves n v w) :
      Worked s { s with consumer := s.consumer.unlock .ackMtx, worker_ := .caught, world := w }
  | dropMessages (hat : s.worker_ = .dropping) :
      Worked s { s with
        consumer := { s.consumer with messages_ := [] }.unlock .messageMtx
        worker_ := .clearing }
  | dropAcks (hat : s.worker_ = .forgetting) :
      Worked s { s with
        consumer := { s.consumer with ackQueue_ := [] }.unlock .ackMtx
        worker_ := .top }

theorem leave_leaves (h : locals.Over n) (s : System) (next : Worker) :
    ∃ w, s.leave locals next = some { s with worker_ := next, world := w } ∧
      Leaves n s.world w := by
  obtain ⟨w, hrun, hleaves⟩ := destroy_leaves h s.world
  refine ⟨w, ?_, hleaves⟩
  rw [System.leave, hrun]

/-- The handler takes what is thrown. -/
theorem fail_leaves (h : locals.Over n) (s : System) {e : Exc} (he : e.Own) :
    ∃ w, s.fail locals e = some { s with worker_ := .caught, world := w } ∧
      Leaves n s.world w := by
  obtain ⟨w, hleave, hleaves⟩ := leave_leaves h s .caught
  refine ⟨w, ?_, hleaves⟩
  rw [System.fail, if_pos (caughtBy_of_own he), hleave]

omit [Library] in
theorem lock_eq_none_iff (s : System) (m : Mutex) (next : Worker) :
    s.lock m next = none ↔ ∃ party, s.consumer.owner m = some party := by
  rw [System.lock, Consumer.lock]
  cases s.consumer.owner m <;> simp

theorem work_locks {m : Mutex} (hwants : s.worker_.wants = some m) :
    s.work = s.lock m s.worker_.locked := by
  cases hat : s.worker_ with
  | acking | caught | clearing =>
      rw [hat] at hwants
      cases hwants
      rw [System.work, hat]
      rfl
  | absent | top | polling | consuming | emplacing | sending | dropping | forgetting | finished =>
      rw [hat] at hwants
      cases hwants

/-- A worker that has not ended goes on unless it waits for a mutex: the handler takes everything
that is thrown, and nothing ends the program. -/
theorem work_goes (hplaced : s.Placed) (hended : s.worker_.ended = false)
    (hfree : ∀ m, s.worker_.wants = some m → s.consumer.owner m = none) :
    ∃ t, s.work = some t ∧ Worked s t := by
  have hlocks {m : Mutex} (hwants : s.worker_.wants = some m) :
      ∃ t, s.work = some t ∧ Worked s t := by
    refine ⟨_, ?_, .locked hwants (hfree m hwants)⟩
    rw [work_locks hwants, System.lock, lock_eq_some_iff.mpr ⟨hfree m hwants, rfl⟩]
    rfl
  cases hat : s.worker_ with
  | absent | finished =>
      rw [hat] at hended
      cases hended
  | acking | caught | clearing => exact hlocks (by rw [hat]; rfl)
  | top =>
      simp only [System.work, hat]
      cases hrun : s.consumer.run_ with
      | false => exact ⟨_, if_neg (by simp), .finished hat⟩
      | true =>
          have hconnects := s.consumer.connect_connects s.world
          have hown := own_connect s.consumer s.world
          rw [if_pos rfl]
          generalize s.consumer.connect.run s.world = r at hconnects hown
          match r with
          | (.ret locals, w) => exact ⟨_, rfl, .connected hat hrun hconnects⟩
          | (.thrown e, w) => exact ⟨_, if_pos (caughtBy_of_own hown), .refused hat hrun hconnects⟩
          | (.terminate, w) => cases hown
  | polling locals =>
      obtain ⟨n, hn⟩ := hplaced.handle locals (by rw [hat]; rfl)
      simp only [System.work, hat]
      cases hrun : s.consumer.run_ with
      | false =>
          obtain ⟨w, hleave, hleaves⟩ := leave_leaves hn s .top
          exact ⟨_, (if_neg (by simp)).trans hleave, .stopped hat hn hrun hleaves⟩
      | true => exact ⟨_, if_pos rfl, .began hat hrun⟩
  | consuming locals start vars =>
      obtain ⟨n, hn⟩ := hplaced.handle locals (by rw [hat]; rfl)
      have hpolls := turn_polls hn start (hplaced.timeout vars.1 (by rw [hat]; rfl)) s.world
      have hown := own_turn locals start vars ([], s.world)
      simp only [System.work, hat]
      generalize (locals.turn start vars).run ([], s.world) = r at hpolls hown
      match r with
      | (.ret (again, vars'), arrived, w) => exact ⟨_, rfl, .polled hat hn hpolls⟩
      | (.thrown e, arrived, v) =>
          obtain ⟨w, hfail, hleaves⟩ := fail_leaves hn { s with world := v } hown
          obtain rfl : arrived = [] := hpolls.last.resolve_right fun ⟨_, h⟩ => by cases h
          rw [hat] at hfail
          exact ⟨_, hfail, .pollFailed hat hn hpolls hleaves⟩
      | (.terminate, _, _) => cases hown
  | emplacing locals arrived =>
      simp only [System.work, hat]
      exact ⟨_, rfl, .emplaced hat⟩
  | sending locals =>
      obtain ⟨n, hn⟩ := hplaced.handle locals (by rw [hat]; rfl)
      simp only [System.work, hat]
      cases hqueue : s.consumer.ackQueue_ with
      | nil => exact ⟨_, rfl, .idle hat hqueue⟩
      | cons id ackQueue =>
          obtain ⟨o, w, hrun, hacks⟩ := ack_acks hn id s.world
          have hown := own_ack locals id s.world
          rw [hrun] at hown
          dsimp only
          rw [hrun]
          cases o with
          | ret _ => exact ⟨_, rfl, .acked hat hn hqueue hacks⟩
          | thrown e =>
              obtain ⟨w', hfail, hleaves⟩ := fail_leaves hn
                { s with consumer := s.consumer.unlock .ackMtx, world := w } hown
              rw [hat] at hfail
              exact ⟨_, hfail, .ackFailed hat hn hqueue hacks hleaves⟩
          | terminate => cases hown
  | dropping =>
      simp only [System.work, hat]
      exact ⟨_, rfl, .dropMessages hat⟩
  | forgetting =>
      simp only [System.work, hat]
      exact ⟨_, rfl, .dropAcks hat⟩

/-- The worker wants a mutex that somebody has locked. -/
def System.Blocked (s : System) : Prop :=
  ∃ m party, s.worker_.wants = some m ∧ s.consumer.owner m = some party

omit [Library] in
theorem free_of_not_blocked (h : ¬ s.Blocked) {m : Mutex} (hwants : s.worker_.wants = some m) :
    s.consumer.owner m = none := by
  cases howner : s.consumer.owner m with
  | none => rfl
  | some party => exact absurd ⟨m, party, hwants, howner⟩ h

theorem work_eq_none_iff (hplaced : s.Placed) :
    s.work = none ↔ s.worker_.ended = true ∨ s.Blocked := by
  constructor
  · intro hnone
    by_contra hgoes
    rw [not_or] at hgoes
    obtain ⟨t, hwork, -⟩ :=
      work_goes hplaced (by simpa using hgoes.1) fun _ => free_of_not_blocked hgoes.2
    rw [hnone] at hwork
    cases hwork
  · rintro (hended | ⟨m, party, hwants, howner⟩)
    · cases hat : s.worker_ with
      | absent | finished => rw [System.work, hat]
      | _ =>
          rw [hat] at hended
          cases hended
    · rw [work_locks hwants]
      exact (lock_eq_none_iff s m _).mpr ⟨party, howner⟩

theorem work_worked (hplaced : s.Placed) (h : s.work = some t) : Worked s t := by
  have hsome : ¬ s.work = none := by simp [h]
  rw [work_eq_none_iff hplaced, not_or] at hsome
  obtain ⟨t', hwork, hworked⟩ :=
    work_goes hplaced (by simpa using hsome.1) fun _ => free_of_not_blocked hsome.2
  rw [h] at hwork
  cases hwork
  exact hworked

/-- Only clients change the flag. -/
theorem worked_run (h : Worked s t) : t.consumer.run_ = s.consumer.run_ := by
  cases h with
  | locked => exact setOwner_run_ _ _ _
  | _ => rfl

/-- What a turn can do. -/
inductive Turned (s : System) : Turn → System → Prop
  | work {t : System} (h : Worked s t) : Turned s .work t
  | enter {i : Nat} {m : Mutex} (hfree : s.consumer.owner m = none) :
      Turned s (.enter i m) { s with consumer := s.consumer.setOwner (some (.client i)) m }
  | nothing {i : Nat} (hheld : s.consumer.messageMtx_ = some (.client i))
      (hempty : s.consumer.messages_ = []) :
      Turned s (.receive i) { s with consumer := s.consumer.unlock .messageMtx }
  | receive {i : Nat} {dst : Message} {messages : List Message}
      (hheld : s.consumer.messageMtx_ = some (.client i))
      (hmessages : s.consumer.messages_ = dst :: messages) :
      Turned s (.receive i) { s with
        consumer := { s.consumer with messages_ := messages }.unlock .messageMtx
        history := { s.history with received := s.history.received ++ [dst] } }
  | acknowledge {i : Nat} (id : UInt64) (hheld : s.consumer.ackMtx_ = some (.client i)) :
      Turned s (.acknowledge i id) (s.push id)
  | start (hat : s.worker_ = .absent) :
      Turned s .start { s with consumer := { s.consumer with run_ := true }, worker_ := .top }
  | stop : Turned s .stop { s with consumer := { s.consumer with run_ := false } }
  | absent : Turned s .join s
  | join (hat : s.worker_ = .finished) : Turned s .join { s with worker_ := .absent }

theorem step_turned {turn : Turn} (hplaced : s.Placed) (h : turn.step s = some t) :
    Turned s turn t := by
  cases turn with
  | work => exact .work (work_worked hplaced h)
  | enter i m =>
      obtain ⟨consumer, hlock, rfl⟩ := Option.map_eq_some_iff.mp h
      obtain ⟨hfree, rfl⟩ := lock_eq_some_iff.mp hlock
      exact .enter hfree
  | receive i =>
      simp only [Turn.step] at h
      split at h
      · next hheld =>
          cases h
          cases hmessages : s.consumer.messages_ with
          | nil =>
              rw [System.pop, hmessages]
              exact .nothing hheld hmessages
          | cons dst messages =>
              rw [System.pop, hmessages]
              exact .receive hheld hmessages
      · cases h
  | acknowledge i id =>
      simp only [Turn.step] at h
      split at h
      · next hheld =>
          cases h
          exact .acknowledge id hheld
      · cases h
  | start =>
      simp only [Turn.step] at h
      split at h
      · next hat =>
          cases h
          exact .start hat
      · cases h
  | stop =>
      cases h
      exact .stop
  | join =>
      simp only [Turn.step] at h
      split at h
      · cases h
        exact .absent
      · next hat =>
          cases h
          exact .join hat
      · cases h

end Steps
end Consumer
end RmqCxx
