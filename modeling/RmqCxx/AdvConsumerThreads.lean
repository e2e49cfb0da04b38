/-
# `RmqCxx.AdvConsumerThreads` — how the threads of the reconnecting consumer get on

In every interleaving of the worker and the clients:

* nobody uses a queue while somebody else does, except for the callback, which takes no lock,
  and a client in `receive` (`conflict_iff_racing`);
* the worker has a next step unless it waits for a mutex, so no exception leaves its
  function (`worker_goes_on`);
* after `stop`, and once it has left `consumeEnvelope`, the worker is finished within seven of
  its steps (`join_returns`).

The steps the worker takes in `consumeEnvelope` are the turns of its loop (`consuming_steps`), which
does not look at `run_`: a broker can keep it there (`consuming_again`).
-/
import RmqCxx.AdvConsumerRuns

namespace RmqCxx.Consumer

open Cpp Code

/-! ## The mutexes -/

/-- What the worker has locked is what it needs where it is. -/
def System.Locked (s : System) : Prop :=
  ∀ m, s.consumer.owner m = some .worker ↔ s.worker_.holds = some m

/-- `party` is about to use the queue that `m` is there for. -/
def System.touches (s : System) (m : Mutex) : Party → Prop
  | .worker =>
      match s.worker_ with
      | .emplacing _ _ => m = .messageMtx
      | worker => worker.holds = some m
  | .client i => s.consumer.owner m = some (.client i)

/-- Two threads are about to use the same queue. -/
def System.Conflict (s : System) : Prop :=
  ∃ m party party', party ≠ party' ∧ s.touches m party ∧ s.touches m party'

section Locked

variable {s t : System}

theorem locked_of_same (hs : s.Locked) (howner : ∀ m, t.consumer.owner m = s.consumer.owner m)
    (hholds : t.worker_.holds = s.worker_.holds) : t.Locked := by
  intro m
  rw [howner, hholds]
  exact hs m

/-- The worker unlocks what it has locked. -/
theorem locked_unlocked {m : Mutex} (hs : s.Locked) (hheld : s.worker_.holds = some m)
    (howner : ∀ m', t.consumer.owner m' = if m' = m then none else s.consumer.owner m')
    (hholds : t.worker_.holds = none) : t.Locked := by
  intro m'
  rw [howner, hholds]
  refine iff_of_false (fun h => ?_) nofun
  split at h
  · cases h
  · next hne =>
      have hheld' := (hs m').mp h
      rw [hheld] at hheld'
      exact hne (Option.some.inj hheld').symm

theorem locked_worked [Library] (hs : s.Locked) (h : Worked s t) : t.Locked := by
  cases h with
  | connected hat | refused hat | finished hat | began hat | stopped hat | pollFailed hat =>
      exact locked_of_same hs (fun _ => rfl) (by rw [hat]; rfl)
  | polled hat =>
      exact locked_of_same hs (fun _ => rfl) (by rw [hat]; exact next_holds _ _ _ _ _)
  | emplaced hat =>
      exact locked_of_same hs (fun m => by cases m <;> rfl) (by rw [hat]; rfl)
  | @locked m hwants hfree =>
      intro m'
      rw [owner_setOwner, Worker.locked_holds hwants]
      split
      · next heq => simp [heq]
      · next hne =>
          refine iff_of_false (fun h => ?_) fun h => hne (Option.some.inj h).symm
          have hheld := (hs m').mp h
          rw [Worker.holds_of_wants hwants] at hheld
          cases hheld
  | idle hat | ackFailed hat =>
      exact locked_unlocked hs (m := .ackMtx) (by rw [hat]; rfl) (owner_setOwner _ _ _) rfl
  | acked hat | dropAcks hat =>
      exact locked_unlocked hs (m := .ackMtx) (by rw [hat]; rfl)
        (fun m => by cases m <;> rfl) rfl
  | dropMessages hat =>
      exact locked_unlocked hs (m := .messageMtx) (by rw [hat]; rfl)
        (fun m => by cases m <;> rfl) rfl

/-- The worker leaves the clients what they have locked. -/
theorem worked_clients [Library] (hs : s.Locked) (h : Worked s t) (m : Mutex) (i : Nat) :
    t.consumer.owner m = some (.client i) ↔ s.consumer.owner m = some (.client i) := by
  have hunlocked (m' : Mutex) (hheld : s.worker_.holds = some m')
      (howner : t.consumer.owner m = if m = m' then none else s.consumer.owner m) :
      t.consumer.owner m = some (.client i) ↔ s.consumer.owner m = some (.client i) := by
    rw [howner]
    split
    · next heq => simp [heq, (hs m').mpr hheld]
    · rfl
  cases h with
  | connected | refused | finished | began | stopped | pollFailed | polled => rfl
  | emplaced => cases m <;> rfl
  | @locked m' _ hfree =>
      rw [owner_setOwner]
      split
      · next heq => simp [heq, hfree]
      · rfl
  | idle hat | ackFailed hat =>
      exact hunlocked .ackMtx (by rw [hat]; rfl) (owner_setOwner _ _ _ m)
  | acked hat | dropAcks hat =>
      exact hunlocked .ackMtx (by rw [hat]; rfl) (by cases m <;> rfl)
  | dropMessages hat =>
      exact hunlocked .messageMtx (by rw [hat]; rfl) (by cases m <;> rfl)

/-- A worker that has locked a mutex goes on and unlocks it. -/
theorem work_unlocks [Library] {m : Mutex} (hplaced : s.Placed) (hheld : s.worker_.holds = some m) :
    ∃ t, s.work = some t ∧ t.consumer.owner m = none := by
  have hended : s.worker_.ended = false := by
    cases hat : s.worker_ with
    | absent | finished =>
        rw [hat] at hheld
        cases hheld
    | _ => rfl
  obtain ⟨t, hwork, hworked⟩ := work_goes hplaced hended fun m' hwants => by
    rw [Worker.holds_of_wants hwants] at hheld
    cases hheld
  refine ⟨t, hwork, ?_⟩
  cases hworked with
  | locked hwants =>
      rw [Worker.holds_of_wants hwants] at hheld
      cases hheld
  | connected hat | refused hat | finished hat | began hat | stopped hat | polled hat
  | pollFailed hat | emplaced hat =>
      rw [hat] at hheld
      cases hheld
  | idle hat | acked hat | ackFailed hat | dropMessages hat | dropAcks hat =>
      rw [hat] at hheld
      cases hheld
      rfl

/-- A client that has locked a mutex unlocks it. -/
theorem locked_left {m : Mutex} {i : Nat} (hs : s.Locked)
    (hheld : s.consumer.owner m = some (.client i))
    (howner : ∀ m', t.consumer.owner m' = if m' = m then none else s.consumer.owner m')
    (hholds : t.worker_.holds = s.worker_.holds) : t.Locked := by
  intro m'
  rw [howner, hholds, ← hs m']
  split
  · next heq => simp [heq, hheld]
  · rfl

theorem locked_turned [Library] {turn : Turn} (hs : s.Locked) (h : Turned s turn t) :
    t.Locked := by
  cases h with
  | work h => exact locked_worked hs h
  | absent => exact hs
  | @enter i m hfree =>
      intro m'
      rw [owner_setOwner, ← hs m']
      split
      · next heq => simp [heq, hfree]
      · rfl
  | nothing hheld =>
      exact locked_left hs (m := .messageMtx) hheld (owner_setOwner _ _ _) rfl
  | receive hheld =>
      exact locked_left hs (m := .messageMtx) hheld (fun m => by cases m <;> rfl) rfl
  | acknowledge _ hheld =>
      exact locked_left hs (m := .ackMtx) hheld (fun m => by cases m <;> rfl) rfl
  | stop => exact locked_of_same hs (fun m => by cases m <;> rfl) rfl
  | start hat | join hat =>
      exact locked_of_same hs (fun m => by cases m <;> rfl) (by rw [hat]; rfl)

theorem locked_initial (self : Consumer) : (System.initial self).Locked := by
  intro m
  cases m <;> exact iff_of_false nofun nofun

theorem visits_locked [Library] (self : Consumer) (turns : List Turn) :
    Visits Turn.step (fun s => s.Sound ∧ s.Locked) (System.initial self) turns := by
  refine visits_of_step (fun ⟨hs, hlocked⟩ h => ?_) ⟨sound_initial self, locked_initial self⟩
  have hturned := step_turned hs.toPlaced h
  exact ⟨sound_turned hs hturned, locked_turned hlocked hturned⟩

theorem racing_iff : s.racing = true ↔
    (∃ locals arrived, s.worker_ = .emplacing locals arrived) ∧
      ∃ i, s.consumer.messageMtx_ = some (.client i) := by
  rw [System.racing]
  split
  · next hat howner => exact iff_of_true rfl ⟨⟨_, _, hat⟩, _, howner⟩
  · next hnot =>
      refine iff_of_false nofun ?_
      rintro ⟨⟨locals, arrived, hat⟩, i, howner⟩
      exact hnot locals arrived i hat howner

/-- The worker and a client. -/
theorem racing_of_touches (hs : s.Locked) {m : Mutex} {i : Nat} (h : s.touches m .worker)
    (h' : s.touches m (.client i)) : s.racing = true := by
  have howner : s.consumer.owner m = some (.client i) := h'
  cases hat : s.worker_ with
  | emplacing locals arrived =>
      simp only [System.touches, hat] at h
      subst h
      exact racing_iff.mpr ⟨⟨_, _, hat⟩, i, howner⟩
  | _ =>
      simp only [System.touches, hat] at h
      have hheld := (hs m).mpr (by rw [hat]; exact h)
      rw [howner] at hheld
      cases hheld

theorem conflict_iff (hs : s.Locked) : s.Conflict ↔ s.racing = true := by
  constructor
  · rintro ⟨m, party, party', hne, h, h'⟩
    cases party with
    | worker =>
        cases party' with
        | worker => exact absurd rfl hne
        | client i => exact racing_of_touches hs h h'
    | client i =>
        cases party' with
        | worker => exact racing_of_touches hs h' h
        | client j =>
            have hsame : s.consumer.owner m = some (.client i) := h
            exact absurd (Option.some.inj (hsame.symm.trans h')) hne
  · intro hracing
    obtain ⟨⟨locals, arrived, hat⟩, i, howner⟩ := racing_iff.mp hracing
    refine ⟨.messageMtx, .worker, .client i, nofun, ?_, howner⟩
    simp only [System.touches, hat]

/-- In every run, the mutexes keep the threads apart except where the callback takes none. -/
theorem conflict_iff_racing [Library] (self : Consumer) (turns : List Turn) :
    Visits Turn.step (fun s => s.Conflict ↔ s.racing = true) (System.initial self) turns :=
  (visits_locked self turns).mono fun _ hs => conflict_iff hs.2

end Locked

/-! ## The worker goes on -/

/-- In every state that can be reached, the worker has a next step unless there is none or it
waits for a mutex: whatever the broker does and whenever it fails, no exception leaves the
worker's function, and nothing ends the program. -/
theorem worker_goes_on [Library] (self : Consumer) (turns : List Turn) :
    Visits Turn.step (fun s => s.work = none ↔ s.worker_.ended = true ∨ s.Blocked)
      (System.initial self) turns :=
  (visits_sound self turns).mono fun _ hs => work_eq_none_iff hs.toPlaced

/-! ## A poll, step by step -/

section Poll

variable [Library] {s : System} {locals : Locals} {start : ClockDuration}

/-- The steps that the worker takes in `consumeEnvelope` are the turns of its loop.  The induction
is on the number of turns; a turn that the loop goes on after has called no callback. -/
theorem consuming_steps {fuel : Nat} {vars : ClockDuration × Bool}
    {o : Outcome Exc (Option (ClockDuration × Bool))} {arrived : List Message} {w : World}
    (hat : s.worker_ = .consuming locals start vars)
    (hrun : (doWhile (locals.turn start) fuel vars).run ([], s.world) = (o, (arrived, w)))
    (hends : o ≠ .ret none) :
    ∃ steps vars' w', ∃ o' : Outcome Exc (ClockDuration × Bool), steps < fuel ∧
      Ends Turn.step s (List.replicate steps .work) =
        { s with worker_ := .consuming locals start vars', world := w' } ∧
      (locals.turn start vars').run ([], w') =
        (o'.map fun vars => (false, vars), (arrived, w)) ∧ o = o'.map some := by
  induction fuel generalizing s vars with
  | zero =>
      cases hrun
      exact absurd rfl hends
  | succ fuel ih =>
      have hlast (o' : Outcome Exc (ClockDuration × Bool)) {arrived' : List Message} {w' : World}
          (hturn : (locals.turn start vars).run ([], s.world) =
            (o'.map fun vars => (false, vars), (arrived', w'))) :
          ∃ steps vars' w', ∃ o' : Outcome Exc (ClockDuration × Bool), steps < fuel + 1 ∧
            Ends Turn.step s (List.replicate steps .work) =
              { s with worker_ := .consuming locals start vars', world := w' } ∧
            (locals.turn start vars').run ([], w') =
              (o'.map fun vars => (false, vars), (arrived, w)) ∧ o = o'.map some := by
        rw [doWhile_last hturn] at hrun
        cases hrun
        refine ⟨0, vars, s.world, o', Nat.succ_pos fuel, ?_, hturn, rfl⟩
        rw [← hat]
        rfl
      match hturn : (locals.turn start vars).run ([], s.world) with
      | (.ret (false, vars'), (_, _)) => exact hlast (.ret vars') hturn
      | (.thrown e, (_, _)) => exact hlast (.thrown e) hturn
      | (.terminate, (_, _)) => exact hlast .terminate hturn
      | (.ret (true, vars₁), (arrived₁, w₁)) =>
          have htakes := turn_takes locals start vars s.world
          rw [hturn] at htakes
          obtain rfl : arrived₁ = [] := htakes.last.resolve_right fun ⟨_, h⟩ => by cases h
          have hstep : Turn.step .work s =
              some { s with worker_ := .consuming locals start vars₁, world := w₁ } := by
            simp only [Turn.step, System.work, hat, hturn, List.append_nil]
            rfl
          rw [doWhile_again hturn] at hrun
          obtain ⟨steps, vars', w', o', hlt, hsteps, hrest⟩ :=
            ih (s := { s with worker_ := .consuming locals start vars₁, world := w₁ }) rfl hrun
          refine ⟨steps + 1, vars', w', o', Nat.succ_lt_succ hlt, ?_, hrest⟩
          rw [List.replicate_succ, Ends, hstep]
          exact hsteps

end Poll

/-! ## Stopping -/

def Turn.isWork : Turn → Bool
  | .work => true
  | _ => false

/-- What clients do after they called `stop` and before `join` returned. -/
def Turn.waiting : Turn → Bool
  | .start | .join => false
  | _ => true

/-- The invariant: the worker does not get into `consumeEnvelope` any more. -/
structure System.Stopped (s : System) : Prop extends s.Sound where
  locked : s.Locked
  run : s.consumer.run_ = false
  left : s.worker_.inPoll = false

/-- A worker that was stopped goes on unless a client has locked what it wants, and when its
function has returned, so does `join`. -/
structure System.Ending [Library] (s : System) : Prop where
  goes : s.worker_.ended = false → (∃ t, Turn.step .work s = some t) ∨
    ∃ m i, s.worker_.wants = some m ∧ s.consumer.owner m = some (.client i)
  joins : s.worker_.ended = true → ∃ t, Turn.step .join s = some t ∧ t.worker_ = .absent

section Stopping

variable {s t : System} {turn : Turn}

theorem stopped_worked [Library] (hrun : s.consumer.run_ = false)
    (hleft : s.worker_.inPoll = false) (h : Worked s t) :
    (t.consumer.run_ = false ∧ t.worker_.inPoll = false) ∧ t.worker_.rank < s.worker_.rank := by
  cases h with
  | connected _ hrun' | refused _ hrun' | began _ hrun' =>
      rw [hrun] at hrun'
      cases hrun'
  | polled hat | pollFailed hat | emplaced hat =>
      rw [hat] at hleft
      cases hleft
  | locked hwants _ =>
      exact ⟨⟨(setOwner_run_ _ _ _).trans hrun, Worker.locked_inPoll.trans hleft⟩,
        Worker.locked_rank hwants⟩
  | finished hat | stopped hat | idle hat | acked hat | ackFailed hat | dropMessages hat
  | dropAcks hat => exact ⟨⟨hrun, rfl⟩, by simp [hat, Worker.rank]⟩

theorem stopped_turned [Library] (hs : s.Stopped) (hwaiting : turn.waiting = true)
    (h : Turned s turn t) : t.Stopped ∧ t.worker_.rank ≤ s.worker_.rank := by
  have hsound := sound_turned hs.toSound h
  have hlocked := locked_turned hs.locked h
  cases h with
  | work h =>
      obtain ⟨⟨hrun, hleft⟩, hrank⟩ := stopped_worked hs.run hs.left h
      exact ⟨⟨hsound, hlocked, hrun, hleft⟩, Nat.le_of_lt hrank⟩
  | enter =>
      exact ⟨⟨hsound, hlocked, (setOwner_run_ _ _ _).trans hs.run, hs.left⟩, Nat.le_refl _⟩
  | nothing | receive | acknowledge =>
      exact ⟨⟨hsound, hlocked, hs.run, hs.left⟩, Nat.le_refl _⟩
  | stop => exact ⟨⟨hsound, hlocked, rfl, hs.left⟩, Nat.le_refl _⟩
  | start | absent | join => cases hwaiting

variable [Library]

theorem step_join (hended : s.worker_.ended = true) :
    ∃ t, Turn.step .join s = some t ∧ t.worker_ = .absent := by
  cases hat : s.worker_ with
  | absent =>
      simp only [Turn.step, hat]
      exact ⟨s, rfl, hat⟩
  | finished =>
      simp only [Turn.step, hat]
      exact ⟨_, rfl, rfl⟩
  | _ =>
      rw [hat] at hended
      cases hended

theorem ending_of_stopped (hs : s.Stopped) : s.Ending := by
  refine ⟨fun hended => ?_, step_join⟩
  rw [Turn.step]
  cases hwork : s.work with
  | some t => exact .inl ⟨t, rfl⟩
  | none =>
      rcases (work_eq_none_iff hs.toPlaced).mp hwork with h | ⟨m, party, hwants, howner⟩
      · rw [hended] at h
        cases h
      · cases party with
        | client i => exact .inr ⟨m, i, hwants, howner⟩
        | worker =>
            have hheld := (hs.locked m).mp howner
            rw [Worker.holds_of_wants hwants] at hheld
            cases hheld

/-- After `stop`, and once the worker has left `consumeEnvelope`, it takes seven steps at most,
whatever clients do in between; when it has taken its last one, `join` returns. -/
theorem join_returns (self : Consumer) (before after : List Turn)
    (hstop : (Ends Turn.step (System.initial self) before).consumer.run_ = false)
    (hleft : (Ends Turn.step (System.initial self) before).worker_.inPoll = false)
    (hwaiting : ∀ turn ∈ after, turn.waiting = true)
    (hgoes : Goes Turn.step (Ends Turn.step (System.initial self) before) after) :
    after.countP Turn.isWork ≤ 7 ∧
      System.Ending (Ends Turn.step (Ends Turn.step (System.initial self) before) after) := by
  obtain ⟨hsound, hlocked⟩ := (visits_locked self before).ends
  have hstopped : System.Stopped (Ends Turn.step (System.initial self) before) :=
    ⟨hsound, hlocked, hstop, hleft⟩
  obtain ⟨hend, hcount⟩ := countP_add_rank_le (I := System.Stopped)
    (P := fun turn => turn.waiting = true) (fun s => s.worker_.rank) Turn.isWork
    (fun hs hw h => stopped_turned hs hw (step_turned hs.toPlaced h))
    (fun {turn s t} hs hp h => by
      cases turn with
      | work => exact (stopped_worked hs.run hs.left (work_worked hs.toPlaced h)).2
      | _ => cases hp) hstopped hwaiting hgoes
  refine ⟨?_, ending_of_stopped hend⟩
  have hle := Worker.rank_le (Ends Turn.step (System.initial self) before).worker_
  omega

end Stopping

/-- It is stopped while it waits for a client that has locked `ackMtx_`. -/
theorem aDelivery_join_returns :
    letI := deliversSeven
    ([.acknowledge 0 7, .work, .enter 1 .messageMtx, .work, .work, .receive 1, .work] :
        List Turn).countP Turn.isWork ≤ 7 ∧
      System.Ending (Ends Turn.step (Ends Turn.step (System.initial aConsumer)
        [.start, .work, .work, .work, .work, .enter 0 .ackMtx, .stop])
          [.acknowledge 0 7, .work, .enter 1 .messageMtx, .work, .work, .receive 1, .work]) := by
  let _ := deliversSeven
  exact join_returns aConsumer [.start, .work, .work, .work, .work, .enter 0 .ackMtx, .stop]
    [.acknowledge 0 7, .work, .enter 1 .messageMtx, .work, .work, .receive 1, .work] rfl rfl
    (by decide) ⟨_, rfl, _, rfl, _, rfl, _, rfl, _, rfl, _, rfl, _, rfl, trivial⟩

/-- A broker that sends acknowledgements, and nothing else. -/
@[reducible] def acknowledgesOnly : Library :=
  { allSucceed with
    consumeMessage := fun _ =>
      ⟨⟨.libraryException, 0, none, .unexpectedState⟩, ⟨0, "", 0, false, "", "", ⟨[], ""⟩⟩, []⟩
    simpleWaitFrameNoblock := fun _ => ⟨.ok, 1, .method (.basicAck ⟨1, false⟩), []⟩ }

/-- The loop of `consumeEnvelope` does not look at `run_`. -/
theorem consuming_again (steps : Nat) {s : System} {locals : Locals} {start : ClockDuration}
    {vars : ClockDuration × Bool} (hat : s.worker_ = .consuming locals start vars) :
    letI := acknowledgesOnly
    (Ends Turn.step s (List.replicate steps .work)).worker_.inPoll = true := by
  let _ := acknowledgesOnly
  induction steps generalizing s vars with
  | zero =>
      rw [List.replicate_zero, Ends, hat]
      rfl
  | succ steps ih =>
      have hturn : ∃ vars' w, (locals.turn start vars).run ([], s.world) =
          (.ret (true, vars'), ([], w)) := ⟨_, _, rfl⟩
      obtain ⟨vars', w, hturn⟩ := hturn
      have hwork : s.work = some { s with
          worker_ := .consuming locals start vars'
          world := w
          history := { s.history with delivered := s.history.delivered ++ [] } } := by
        simp only [System.work, hat, hturn]
        rfl
      rw [List.replicate_succ, Ends, Turn.step, hwork]
      exact ih rfl

/-- So a worker that gets nothing else stays there, whatever clients have called. -/
example (steps : Nat) :
    letI := acknowledgesOnly
    (Ends Turn.step (Ends Turn.step (System.initial aConsumer) [.start, .work, .work, .stop])
      (List.replicate steps .work)).worker_.inPoll = true :=
  consuming_again steps rfl

end RmqCxx.Consumer
