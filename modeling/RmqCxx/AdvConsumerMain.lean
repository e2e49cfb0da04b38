/-
# `RmqCxx.AdvConsumerMain` — the processing threads of `advconsumer.cpp`

`main` starts a consumer and a number of threads.  Each thread receives a message, works on
it, acknowledges it, and goes on until there was nothing to receive for some time; when all
have left, the consumer is stopped and joined by its destructor.  A move is a step of the
worker, a step of a thread between two looks at what it shares, or one of the destructor.

In every interleaving, what was received is what was acknowledged and what is being worked
on, and the worker sends no tag more often than it was delivered (`crew_accounts`).  Whoever
waits for a mutex waits for somebody who unlocks it with the next step (`crew_goes_on`), and the
destructor returns if `consumeEnvelope` does (`main_returns`).
-/
import RmqCxx.AdvConsumerThreads
import Mathlib.Data.List.Perm.Basic
import Mathlib.Data.List.Perm.Subperm

namespace RmqCxx.Consumer

open Cpp Code

/-! ## The program -/

/-- Where a thread is in its loop. -/
inductive Processing where
  /-- At `receive`, and in it. -/
  | receiving
  | popping
  /-- Between `receive` and `acknowledge`, and in that. -/
  | working (msg : Message)
  | acknowledging (msg : Message)
  /-- At the condition of the loop. -/
  | checking
  | left
  deriving DecidableEq, Repr

namespace Processing

/-- The message that the thread has to acknowledge. -/
def held : Processing → Option UInt64
  | .working msg | .acknowledging msg => some msg.id
  | .receiving | .popping | .checking | .left => none

/-- The mutex that the thread locks next. -/
def wants : Processing → Option Mutex
  | .receiving => some .messageMtx
  | .working _ => some .ackMtx
  | _ => none

/-- The mutex that the thread has locked. -/
def holds : Processing → Option Mutex
  | .popping => some .messageMtx
  | .acknowledging _ => some .ackMtx
  | _ => none

/-- Where the thread is when it has locked the mutex it wants. -/
def locked : Processing → Processing
  | .receiving => .popping
  | .working msg => .acknowledging msg
  | p => p

theorem locked_held (p : Processing) : p.locked.held = p.held := by
  cases p <;> rfl

theorem locked_holds {p : Processing} {m : Mutex} (h : p.wants = some m) :
    p.locked.holds = some m := by
  cases p <;> first | exact h | cases h

theorem holds_of_wants {p : Processing} {m : Mutex} (h : p.wants = some m) : p.holds = none := by
  cases p <;> first | rfl | cases h

end Processing

structure Crew where
  system : System
  threads : List Processing

inductive Crew.Move where
  | worker
  /-- Thread `i` goes on; `idle` is whether it was idle for `kMaxIdle`, if it looks. -/
  | thread (i : Nat) (idle : Bool)
  | stop
  | join

/-- Who makes the move. -/
def Crew.Move.party : Crew.Move → Option Party
  | .worker => some .worker
  | .thread i _ => some (.client i)
  | .stop | .join => none

namespace Crew

/-- `consumer.start()`, and `n` threads. -/
def initial (self : Consumer) (n : Nat) : Crew :=
  let s := System.initial self
  ⟨{ s with consumer := { s.consumer with run_ := true }, worker_ := .top },
    List.replicate n .receiving⟩

/-- `main` of `advconsumer.cpp`. -/
def main : Crew :=
  initial (make "172.17.0.2" 5672 "consumer-test" "guest" "guest" ["queue0"]) 3

section Step

variable [Library]

/-- A turn, after which the threads are `threads`. -/
def turn (c : Crew) (turn : Turn) (threads : List Processing) : Option Crew :=
  (turn.step c.system).map fun s => ⟨s, threads⟩

def Move.step (move : Move) (c : Crew) : Option Crew :=
  match move with
  | .worker => c.turn .work c.threads
  | .thread i idle =>
      match c.threads[i]? with
      | some .receiving => c.turn (.enter i .messageMtx) (c.threads.set i .popping)
      | some .popping =>
          match c.system.consumer.messages_ with
          | [] => c.turn (.receive i) (c.threads.set i .checking)
          | dst :: _ => c.turn (.receive i) (c.threads.set i (.working dst))
      | some (.working msg) => c.turn (.enter i .ackMtx) (c.threads.set i (.acknowledging msg))
      | some (.acknowledging msg) =>
          c.turn (.acknowledge i msg.id) (c.threads.set i .checking)
      | some .checking =>
          some { c with threads := c.threads.set i (if idle then .left else .receiving) }
      | some .left | none => none
  | .stop =>
      if c.threads.all (· = .left) ∧ c.system.consumer.run_ = true then c.turn .stop c.threads
      else none
  | .join =>
      if c.threads.all (· = .left) ∧ c.system.consumer.run_ = false then c.turn .join c.threads
      else none

end Step

/-- A thread may be in `receive` when the callback puts a message into the queue. -/
example :
    letI := deliversSeven
    (Ends Move.step main [.worker, .worker, .worker, .thread 0 false]).system.racing = true := rfl

/-! ## What a move does -/

/-- What the threads have received and not acknowledged. -/
def held (threads : List Processing) : List UInt64 := threads.filterMap Processing.held

section Held

variable {threads : List Processing} {i : Nat} {p q : Processing}

theorem held_set_perm (hat : threads[i]? = some p) (q : Processing) :
    (held (threads.set i q)).Perm (q.held.toList ++ held (threads.eraseIdx i)) := by
  obtain ⟨hlt, -⟩ := List.getElem?_eq_some_iff.mp hat
  have hperm := (List.set_perm_cons_eraseIdx hlt q).filterMap Processing.held
  rw [List.filterMap_cons] at hperm
  cases hheld : q.held <;> rw [hheld] at hperm <;> exact hperm

theorem held_perm (hat : threads[i]? = some p) :
    (held threads).Perm (p.held.toList ++ held (threads.eraseIdx i)) := by
  have hperm := held_set_perm hat p
  obtain ⟨hlt, rfl⟩ := List.getElem?_eq_some_iff.mp hat
  rw [List.set_getElem_self] at hperm
  exact hperm

/-- A thread that holds the same, before and after. -/
theorem held_set_same (hat : threads[i]? = some p) (hsame : q.held = p.held) :
    (held (threads.set i q)).Perm (held threads) := by
  have hset := held_set_perm hat q
  rw [hsame] at hset
  exact hset.trans (held_perm hat).symm

theorem held_receiving (n : Nat) : held (List.replicate n .receiving) = [] := by
  induction n with
  | zero => rfl
  | succ n ih => exact ih

theorem held_left (hleft : ∀ p ∈ threads, p = .left) : held threads = [] := by
  refine List.filterMap_eq_nil_iff.mpr fun p hp => ?_
  rw [hleft p hp]
  rfl

end Held

/-- What a move can do. -/
inductive Moved [Library] (c : Crew) : Crew → Prop
  | worker {t : System} (h : Worked c.system t) : Moved c ⟨t, c.threads⟩
  | enter {i : Nat} {p : Processing} {m : Mutex} (hat : c.threads[i]? = some p)
      (hwants : p.wants = some m) (h : Turned c.system (.enter i m)
        { c.system with consumer := c.system.consumer.setOwner (some (.client i)) m })
      (hfree : c.system.consumer.owner m = none) :
      Moved c ⟨{ c.system with consumer := c.system.consumer.setOwner (some (.client i)) m },
        c.threads.set i p.locked⟩
  | nothing {i : Nat} (hat : c.threads[i]? = some .popping)
      (h : Turned c.system (.receive i)
        { c.system with consumer := c.system.consumer.unlock .messageMtx }) :
      Moved c ⟨{ c.system with consumer := c.system.consumer.unlock .messageMtx },
        c.threads.set i .checking⟩
  | receive {i : Nat} {dst : Message} {messages : List Message}
      (hat : c.threads[i]? = some .popping)
      (h : Turned c.system (.receive i) { c.system with
        consumer := { c.system.consumer with messages_ := messages }.unlock .messageMtx
        history := { c.system.history with received := c.system.history.received ++ [dst] } }) :
      Moved c ⟨{ c.system with
        consumer := { c.system.consumer with messages_ := messages }.unlock .messageMtx
        history := { c.system.history with received := c.system.history.received ++ [dst] } },
        c.threads.set i (.working dst)⟩
  | acknowledge {i : Nat} {msg : Message} (hat : c.threads[i]? = some (.acknowledging msg))
      (h : Turned c.system (.acknowledge i msg.id) (c.system.push msg.id)) :
      Moved c ⟨c.system.push msg.id, c.threads.set i .checking⟩
  | looked {i : Nat} (idle : Bool) (hat : c.threads[i]? = some .checking) :
      Moved c ⟨c.system, c.threads.set i (if idle then .left else .receiving)⟩
  | stop (hleft : ∀ p ∈ c.threads, p = .left) :
      Moved c ⟨{ c.system with consumer := { c.system.consumer with run_ := false } }, c.threads⟩
  | absent : Moved c c
  | join (hat : c.system.worker_ = .finished) :
      Moved c ⟨{ c.system with worker_ := .absent }, c.threads⟩

section Moved

variable [Library] {c d : Crew} {s t : System}

theorem step_moved {move : Move} (hs : c.system.Placed) (h : move.step c = some d) :
    Moved c d := by
  have hturn {turn : Turn} {threads : List Processing} (h : c.turn turn threads = some d) :
      ∃ t, Turned c.system turn t ∧ d = ⟨t, threads⟩ := by
    obtain ⟨t, ht, rfl⟩ := Option.map_eq_some_iff.mp h
    exact ⟨t, step_turned hs ht, rfl⟩
  cases move with
  | worker =>
      obtain ⟨t, ht, rfl⟩ := hturn h
      cases ht with
      | work hworked => exact .worker hworked
  | stop =>
      simp only [Move.step] at h
      split at h
      · next hleft =>
          obtain ⟨t, ht, rfl⟩ := hturn h
          cases ht
          exact .stop (by simpa using hleft.1)
      · cases h
  | join =>
      simp only [Move.step] at h
      split at h
      · obtain ⟨t, ht, rfl⟩ := hturn h
        cases ht with
        | absent => exact .absent
        | join hat => exact .join hat
      · cases h
  | thread i idle =>
      simp only [Move.step] at h
      split at h
      · next hat =>
          obtain ⟨t, ht, rfl⟩ := hturn h
          cases ht with
          | enter hfree => exact .enter (p := .receiving) hat rfl (.enter hfree) hfree
      · next hat =>
          split at h
          · next hmessages =>
              obtain ⟨t, ht, rfl⟩ := hturn h
              cases ht with
              | nothing hheld hempty => exact .nothing hat (.nothing hheld hempty)
              | receive hheld hmessages' =>
                  rw [hmessages] at hmessages'
                  cases hmessages'
          · next hmessages =>
              obtain ⟨t, ht, rfl⟩ := hturn h
              cases ht with
              | nothing hheld hempty =>
                  rw [hmessages] at hempty
                  cases hempty
              | receive hheld hmessages' =>
                  rw [hmessages] at hmessages'
                  cases hmessages'
                  exact .receive hat (.receive hheld hmessages)
      · next hat =>
          obtain ⟨t, ht, rfl⟩ := hturn h
          cases ht with
          | enter hfree => exact .enter (p := .working _) hat rfl (.enter hfree) hfree
      · next hat =>
          obtain ⟨t, ht, rfl⟩ := hturn h
          cases ht with
          | acknowledge _ hheld => exact .acknowledge hat (.acknowledge _ hheld)
      · next hat =>
          cases h
          exact .looked idle hat
      · cases h
      · cases h

/-- The turn of the system in a move, if there is one. -/
theorem Moved.turned (h : Moved c d) :
    d.system = c.system ∨ ∃ turn, Turned c.system turn d.system := by
  cases h with
  | worker h => exact .inr ⟨_, .work h⟩
  | enter _ _ h | nothing _ h | receive _ h | acknowledge _ h => exact .inr ⟨_, h⟩
  | looked | absent => exact .inl rfl
  | stop => exact .inr ⟨_, .stop⟩
  | join hat => exact .inr ⟨_, .join hat⟩

end Moved

/-! ## Runs -/

section Runs

variable [Library] {c d : Crew}

/-- What was received is what was acknowledged, or is held by a thread. -/
def Answered (c : Crew) : Prop :=
  (c.system.history.received.map Message.id).Perm
    (c.system.history.acknowledged ++ held c.threads)

omit [Library] in
/-- The threads hold what they held, and neither receive nor acknowledge anything. -/
theorem answered_of_same (hc : c.Answered)
    (hreceived : d.system.history.received = c.system.history.received)
    (hacknowledged : d.system.history.acknowledged = c.system.history.acknowledged)
    (hheld : (held d.threads).Perm (held c.threads)) : d.Answered := by
  rw [Answered, hreceived, hacknowledged]
  exact hc.trans (hheld.symm.append_left _)

theorem worked_clientHistory {s t : System} (h : Worked s t) :
    t.history.received = s.history.received ∧ t.history.acknowledged = s.history.acknowledged := by
  cases h <;> exact ⟨rfl, rfl⟩

theorem answered_moved (hc : c.Answered) (h : Moved c d) : d.Answered := by
  cases h with
  | worker h =>
      obtain ⟨hreceived, hacknowledged⟩ := worked_clientHistory h
      exact answered_of_same hc hreceived hacknowledged (.refl _)
  | @enter _ p _ hat =>
      exact answered_of_same hc rfl rfl (held_set_same hat p.locked_held)
  | nothing hat => exact answered_of_same hc rfl rfl (held_set_same hat rfl)
  | looked idle hat =>
      exact answered_of_same hc rfl rfl (held_set_same hat (by cases idle <;> rfl))
  | stop | absent | join => exact hc
  | @receive i dst messages hat =>
      have hset := held_set_perm hat (.working dst)
      have hold := held_perm hat
      rw [Answered] at hc ⊢
      rw [List.map_append]
      calc (c.system.history.received.map Message.id ++ [dst.id]).Perm
            (dst.id :: (c.system.history.acknowledged ++ held c.threads)) :=
          (List.perm_append_singleton _ _).trans (hc.cons dst.id)
        _ |>.Perm (c.system.history.acknowledged ++ dst.id :: held (c.threads.eraseIdx i)) :=
          List.perm_middle.symm.trans ((hold.cons dst.id).append_left _)
        _ |>.Perm _ := hset.symm.append_left _
  | @acknowledge i msg hat =>
      have hset := held_set_perm hat .checking
      have hold := held_perm hat
      rw [Answered] at hc ⊢
      show (c.system.history.received.map Message.id).Perm
        (c.system.history.acknowledged ++ [msg.id] ++ held (c.threads.set i .checking))
      rw [List.append_assoc]
      exact hc.trans ((hold.trans (hset.symm.cons msg.id)).append_left _)

/-- The worker was started: `initial` is the system after `start`. -/
theorem initial_turned (self : Consumer) (n : Nat) :
    Turned (System.initial self) .start (initial self n).system := .start rfl

omit [Library] in
theorem initial_answered (self : Consumer) (n : Nat) : (initial self n).Answered := by
  rw [Answered, initial, held_receiving]
  exact .refl _

/-- A mutex that a thread has locked is what the thread needs where it is. -/
def Holding (c : Crew) : Prop :=
  ∀ i m, c.system.consumer.owner m = some (.client i) ↔
    ∃ p, c.threads[i]? = some p ∧ p.holds = some m

section Holding

variable {i : Nat} {p q : Processing} {m : Mutex}

omit [Library] in
/-- A thread moves, and nothing changes for the others. -/
theorem holding_set (hc : c.Holding) (hat : c.threads[i]? = some p)
    (hthreads : d.threads = c.threads.set i q)
    (hothers : ∀ j m, j ≠ i → (d.system.consumer.owner m = some (.client j) ↔
      c.system.consumer.owner m = some (.client j)))
    (hself : ∀ m, d.system.consumer.owner m = some (.client i) ↔ q.holds = some m) :
    d.Holding := by
  intro j m
  rw [hthreads]
  by_cases hj : j = i
  · subst hj
    obtain ⟨hlt, -⟩ := List.getElem?_eq_some_iff.mp hat
    rw [hself, List.getElem?_set_self hlt]
    simp
  · rw [hothers j m hj, List.getElem?_set_ne (Ne.symm hj)]
    exact hc j m

omit [Library] in
theorem owner_iff (hc : c.Holding) (hat : c.threads[i]? = some p) :
    c.system.consumer.owner m = some (.client i) ↔ p.holds = some m := by
  rw [hc i m, hat]
  simp

omit [Library] in
/-- A thread locks the mutex it wants. -/
theorem holding_enter (hc : c.Holding) (hat : c.threads[i]? = some p) (hwants : p.wants = some m)
    (hfree : c.system.consumer.owner m = none) :
    Holding ⟨{ c.system with consumer := c.system.consumer.setOwner (some (.client i)) m },
      c.threads.set i p.locked⟩ := by
  refine holding_set hc hat rfl (fun j m' hj => ?_) fun m' => ?_
  · rw [owner_setOwner]
    split
    · next heq => simp [heq, hfree, Ne.symm hj]
    · rfl
  · rw [owner_setOwner, Processing.locked_holds hwants]
    split
    · next heq => simp [heq]
    · next hne =>
        rw [owner_iff hc hat, Processing.holds_of_wants hwants]
        exact iff_of_false nofun fun h => hne (Option.some.inj h).symm

omit [Library] in
/-- A thread unlocks what it has locked. -/
theorem holding_leave (hc : c.Holding) (hat : c.threads[i]? = some p) (hholds : p.holds = some m)
    (hthreads : d.threads = c.threads.set i q) (hq : q.holds = none)
    (howner : ∀ m', d.system.consumer.owner m' =
      if m' = m then none else c.system.consumer.owner m') : d.Holding := by
  have hheld := (owner_iff hc hat).mpr hholds
  refine holding_set hc hat hthreads (fun j m' hj => ?_) fun m' => ?_
  · rw [howner]
    split
    · next heq => simp [heq, hheld, Ne.symm hj]
    · rfl
  · rw [howner, hq]
    refine iff_of_false (fun h => ?_) nofun
    split at h
    · cases h
    · next hne =>
        rw [owner_iff hc hat, hholds] at h
        exact hne (Option.some.inj h).symm

theorem holding_moved (hlocked : c.system.Locked) (hc : c.Holding) (h : Moved c d) :
    d.Holding := by
  cases h with
  | worker h => exact fun i m => (worked_clients hlocked h m i).trans (hc i m)
  | enter hat hwants _ hfree => exact holding_enter hc hat hwants hfree
  | nothing hat | receive hat =>
      exact holding_leave (m := .messageMtx) hc hat rfl rfl rfl fun m => by cases m <;> rfl
  | acknowledge hat =>
      exact holding_leave (m := .ackMtx) hc hat rfl rfl rfl fun m => by cases m <;> rfl
  | looked idle hat =>
      refine holding_set hc hat rfl (fun _ _ _ => Iff.rfl) fun m => ?_
      refine (owner_iff hc hat).trans (iff_of_false nofun ?_)
      cases idle <;> nofun
  | stop => exact fun i m => Iff.trans (by cases m <;> rfl) (hc i m)
  | absent | join => exact hc

omit [Library] in
theorem initial_holding (self : Consumer) (n : Nat) : (initial self n).Holding := by
  intro i m
  refine iff_of_false (by cases m <;> nofun) ?_
  rintro ⟨p, hat, hholds⟩
  cases List.eq_of_mem_replicate (List.mem_of_getElem? hat)
  cases hholds

end Holding

/-- The invariant. -/
structure Sound (c : Crew) : Prop where
  system : c.system.Sound
  inOrder : c.system.InOrder
  asked : c.system.Asked
  locked : c.system.Locked
  answered : c.Answered
  holding : c.Holding
  stopped : c.system.consumer.run_ = false → ∀ p ∈ c.threads, p = .left

/-- The consumer is stopped when all threads have left. -/
theorem stopped_moved (hc : c.system.consumer.run_ = false → ∀ p ∈ c.threads, p = .left)
    (h : Moved c d) : d.system.consumer.run_ = false → ∀ p ∈ d.threads, p = .left := by
  intro hrun
  have hleft {i : Nat} {p : Processing} (hat : c.threads[i]? = some p)
      (hrun : c.system.consumer.run_ = false) (hp : p ≠ .left) : False :=
    hp (hc hrun p (List.mem_of_getElem? hat))
  cases h with
  | worker h => exact hc ((worked_run h).symm.trans hrun)
  | @enter i p m hat hwants =>
      refine (hleft hat ((setOwner_run_ _ _ _).symm.trans hrun) ?_).elim
      rintro rfl
      cases hwants
  | nothing hat | receive hat | acknowledge hat | looked _ hat => exact (hleft hat hrun nofun).elim
  | stop hleft => exact hleft
  | absent | join => exact hc hrun

theorem sound_moved (hc : c.Sound) (h : Moved c d) : d.Sound := by
  have hanswered := answered_moved hc.answered h
  have hholding := holding_moved hc.locked hc.holding h
  have hstopped := stopped_moved hc.stopped h
  rcases h.turned with hsame | ⟨turn, hturned⟩
  · refine ⟨?_, ?_, ?_, ?_, hanswered, hholding, hstopped⟩
    · exact hsame ▸ hc.system
    · exact hsame ▸ hc.inOrder
    · exact hsame ▸ hc.asked
    · exact hsame ▸ hc.locked
  · exact ⟨sound_turned hc.system hturned, inOrder_turned hc.inOrder hturned,
      asked_turned hc.asked hturned, locked_turned hc.locked hturned, hanswered, hholding, hstopped⟩

theorem crew_sound_initial (self : Consumer) (n : Nat) : (initial self n).Sound := by
  have hturned := initial_turned self n
  have horder : (System.initial self).InOrder := .refl _
  have hasked : (System.initial self).Asked := ⟨[], rfl, .refl _⟩
  exact ⟨sound_turned (sound_initial self) hturned, inOrder_turned horder hturned,
    asked_turned hasked hturned, locked_turned (locked_initial self) hturned,
    initial_answered self n, initial_holding self n, nofun⟩

/-- Every message that was received is acknowledged, or a thread works on it; when all threads
have left, it is acknowledged; no tag is sent more often than it was delivered. -/
structure Accounts (c : Crew) : Prop where
  answered : c.Answered
  left : (∀ p ∈ c.threads, p = .left) →
    (c.system.history.received.map Message.id).Perm c.system.history.acknowledged
  sent : c.system.sent.Subperm
    (c.system.history.delivered.map fun msg => (msg.id.toNat : Int))

omit [Library] in
theorem accounts_of_sound (hc : c.Sound) : c.Accounts := by
  refine ⟨hc.answered, fun hleft => ?_, ?_⟩
  · have hanswered := hc.answered
    rw [Answered, held_left hleft, List.append_nil] at hanswered
    exact hanswered
  have haccounted := accounted_of hc.inOrder hc.asked
  have hacknowledged : c.system.history.acknowledged.Subperm
      (c.system.history.received.map Message.id) :=
    (List.sublist_append_left _ _).subperm.trans hc.answered.symm.subperm
  obtain ⟨ids, hids, hsublist⟩ := hacknowledged
  have hreceived : (c.system.history.acknowledged.map fun id => (id.toNat : Int)).Subperm
      (c.system.history.received.map fun msg => (msg.id.toNat : Int)) := by
    refine ⟨ids.map fun id => (id.toNat : Int), hids.map _, ?_⟩
    have hmap := hsublist.map fun id => (id.toNat : Int)
    rw [List.map_map] at hmap
    exact hmap
  have hdelivered : (c.system.history.received.map fun msg => (msg.id.toNat : Int)).Subperm
      (c.system.history.delivered.map fun msg => (msg.id.toNat : Int)) :=
    (haccounted.received.map _).subperm
  exact haccounted.sent.subperm.trans (hreceived.trans hdelivered)

theorem visits_crew_sound (self : Consumer) (n : Nat) (moves : List Move) :
    Visits Move.step Sound (initial self n) moves :=
  visits_of_step (fun hc h => sound_moved hc (step_moved hc.system.toPlaced h))
    (crew_sound_initial self n)

/-- In every interleaving of the worker and of `n` threads, what was received is accounted
for. -/
theorem crew_accounts (self : Consumer) (n : Nat) (moves : List Move) :
    Visits Move.step Accounts (initial self n) moves :=
  (visits_crew_sound self n moves).mono fun _ hc => accounts_of_sound hc

end Runs

/-! ## Waiting -/

section Waiting

variable [Library] {c d : Crew}

/-- Somebody who wants that mutex has to wait, for a party whose next move unlocks it. -/
def Waits (c : Crew) (wants : Option Mutex) : Prop :=
  ∃ m party, wants = some m ∧ c.system.consumer.owner m = some party ∧
    ∃ move d, Move.party move = some party ∧ Move.step move c = some d ∧
      d.system.consumer.owner m = none

theorem turn_of_step {turn : Turn} {t : System} (threads : List Processing)
    (h : turn.step c.system = some t) : c.turn turn threads = some ⟨t, threads⟩ := by
  rw [Crew.turn, h, Option.map_some]

omit [Library] in
theorem pop_owner (s : System) : s.pop.consumer.owner .messageMtx = none := by
  rw [System.pop]
  split <;> rfl

section Turns

variable {i : Nat} {m : Mutex}

theorem enter_step (hfree : c.system.consumer.owner m = none) :
    Turn.step (.enter i m) c.system = some
      { c.system with consumer := c.system.consumer.setOwner (some (.client i)) m } :=
  Option.map_eq_some_iff.mpr ⟨_, lock_eq_some_iff.mpr ⟨hfree, rfl⟩, rfl⟩

theorem receive_step (hheld : c.system.consumer.messageMtx_ = some (.client i)) :
    Turn.step (.receive i) c.system = some c.system.pop := if_pos hheld

theorem acknowledge_step (hheld : c.system.consumer.ackMtx_ = some (.client i)) (id : UInt64) :
    Turn.step (.acknowledge i id) c.system = some (c.system.push id) := if_pos hheld

/-- A thread that has locked a mutex goes on and unlocks it. -/
theorem thread_unlocks {p : Processing} (hat : c.threads[i]? = some p) (hholds : p.holds = some m)
    (howner : c.system.consumer.owner m = some (.client i)) (idle : Bool) :
    ∃ d, Move.step (.thread i idle) c = some d ∧ d.system.consumer.owner m = none := by
  simp only [Move.step, hat]
  cases p with
  | popping =>
      cases hholds
      have hstep := receive_step howner
      cases c.system.consumer.messages_ with
      | nil => exact ⟨_, turn_of_step _ hstep, pop_owner _⟩
      | cons dst messages => exact ⟨_, turn_of_step _ hstep, pop_owner _⟩
  | acknowledging msg =>
      cases hholds
      exact ⟨_, turn_of_step _ (acknowledge_step howner msg.id), rfl⟩
  | receiving | working | checking | left => cases hholds

/-- A mutex that is locked is unlocked by its owner's next move. -/
theorem waits_of_owner (hc : c.Sound) {party : Party} {wants : Option Mutex}
    (hwants : wants = some m) (howner : c.system.consumer.owner m = some party) :
    c.Waits wants := by
  refine ⟨m, party, hwants, howner, ?_⟩
  cases party with
  | worker =>
      obtain ⟨t, hwork, hunlocked⟩ :=
        work_unlocks hc.system.toPlaced ((hc.locked m).mp howner)
      exact ⟨.worker, _, rfl, turn_of_step c.threads hwork, hunlocked⟩
  | client i =>
      obtain ⟨p, hat, hholds⟩ := (hc.holding i m).mp howner
      obtain ⟨d, hstep, hunlocked⟩ := thread_unlocks hat hholds howner true
      exact ⟨.thread i true, d, rfl, hstep, hunlocked⟩

/-- A thread that wants a mutex locks it, or waits. -/
theorem thread_locks (hc : c.Sound) {p : Processing} (hat : c.threads[i]? = some p)
    (hwants : p.wants = some m) (idle : Bool) :
    (∃ d, Move.step (.thread i idle) c = some d) ∨ c.Waits p.wants := by
  cases howner : c.system.consumer.owner m with
  | some party => exact .inr (waits_of_owner hc hwants howner)
  | none =>
      left
      simp only [Move.step, hat]
      cases p with
      | receiving =>
          cases hwants
          exact ⟨_, turn_of_step _ (enter_step howner)⟩
      | working msg =>
          cases hwants
          exact ⟨_, turn_of_step _ (enter_step howner)⟩
      | popping | acknowledging | checking | left => cases hwants

theorem thread_goes (hc : c.Sound) {p : Processing} (hat : c.threads[i]? = some p)
    (hp : p ≠ .left) (idle : Bool) :
    (∃ d, Move.step (.thread i idle) c = some d) ∨ c.Waits p.wants := by
  cases p with
  | receiving | working => exact thread_locks hc hat rfl idle
  | popping | acknowledging =>
      have howner := (owner_iff hc.holding hat).mpr rfl
      obtain ⟨d, hstep, -⟩ := thread_unlocks hat rfl howner idle
      exact .inl ⟨d, hstep⟩
  | checking =>
      left
      simp only [Move.step, hat]
      exact ⟨_, rfl⟩
  | left => exact absurd rfl hp

theorem worker_goes (hc : c.Sound) (hended : c.system.worker_.ended = false) :
    (∃ d, Move.step .worker c = some d) ∨ c.Waits c.system.worker_.wants := by
  cases hwork : c.system.work with
  | some t => exact .inl ⟨_, turn_of_step c.threads hwork⟩
  | none =>
      rcases (work_eq_none_iff hc.system.toPlaced).mp hwork with h | ⟨m, party, hwants, howner⟩
      · rw [hended] at h
        cases h
      · exact .inr (waits_of_owner hc hwants howner)

theorem stop_goes (hleft : ∀ p ∈ c.threads, p = .left) (hrun : c.system.consumer.run_ = true) :
    ∃ d, Move.step .stop c = some d := by
  have hall : c.threads.all (· = .left) = true := by simpa using hleft
  exact ⟨_, (if_pos ⟨hall, hrun⟩).trans (turn_of_step _ rfl)⟩

end Turns

/-- Every thread that has not left, and the worker, goes on or waits for a mutex; when all
threads have left, the consumer is stopped. -/
structure GoesOn (c : Crew) : Prop where
  thread : ∀ i p idle, c.threads[i]? = some p → p ≠ .left →
    (∃ d, Move.step (.thread i idle) c = some d) ∨ c.Waits p.wants
  worker : c.system.worker_.ended = false →
    (∃ d, Move.step .worker c = some d) ∨ c.Waits c.system.worker_.wants
  stop : (∀ p ∈ c.threads, p = .left) → c.system.consumer.run_ = true →
    ∃ d, Move.step .stop c = some d

/-- In every state that can be reached, nobody waits for a mutex but for somebody who unlocks it
with the next move. -/
theorem crew_goes_on (self : Consumer) (n : Nat) (moves : List Move) :
    Visits Move.step GoesOn (initial self n) moves :=
  (visits_crew_sound self n moves).mono fun _ hc =>
    ⟨fun _ _ idle hat hp => thread_goes hc hat hp idle, worker_goes hc, stop_goes⟩

end Waiting

/-! ## The end of `main` -/

section Ending

variable [Library] {c d : Crew}

def Move.isWorker : Move → Bool
  | .worker => true
  | _ => false

/-- The invariant: the consumer was stopped, and the worker is not in `consumeEnvelope`. -/
structure Stopped (c : Crew) : Prop extends c.Sound where
  run : c.system.consumer.run_ = false
  poll : c.system.worker_.inPoll = false

/-- A step of the worker. -/
theorem stopped_worker (hc : c.Stopped) (h : Move.step .worker c = some d) :
    d.Stopped ∧ d.system.worker_.rank < c.system.worker_.rank := by
  have hsound := sound_moved hc.toSound (step_moved hc.system.toPlaced h)
  obtain ⟨t, hstep, rfl⟩ := Option.map_eq_some_iff.mp h
  obtain ⟨⟨hrun, hpoll⟩, hrank⟩ :=
    stopped_worked hc.run hc.poll (work_worked hc.system.toPlaced hstep)
  exact ⟨⟨hsound, hrun, hpoll⟩, hrank⟩

/-- The worker does not have to wait: no thread is left that could have locked a mutex. -/
theorem stopped_goes (hc : c.Stopped) (hrank : 0 < c.system.worker_.rank) :
    ∃ d, Move.step .worker c = some d := by
  have hended : c.system.worker_.ended = false := by
    rw [← Bool.not_eq_true, ← Worker.rank_eq_zero_iff]
    omega
  obtain ⟨t, hwork, -⟩ := work_goes hc.system.toPlaced hended fun m hwants => by
    cases howner : c.system.consumer.owner m with
    | none => rfl
    | some party =>
        cases party with
        | worker =>
            have hheld := (hc.locked m).mp howner
            rw [Worker.holds_of_wants hwants] at hheld
            cases hheld
        | client i =>
            obtain ⟨p, hat, hholds⟩ := (hc.holding i m).mp howner
            rw [hc.stopped hc.run p (List.mem_of_getElem? hat)] at hholds
            cases hholds
  exact ⟨_, turn_of_step c.threads hwork⟩

/-- After the destructor called `stop`, and once the worker has left `consumeEnvelope`, its
`join` returns within seven steps of the worker. -/
theorem main_returns (self : Consumer) (n : Nat) (before : List Move)
    (hstop : (Ends Move.step (initial self n) before).system.consumer.run_ = false)
    (hpoll : (Ends Move.step (initial self n) before).system.worker_.inPoll = false)
    (steps : Nat) (hsteps : 7 ≤ steps) :
    ∃ d, Move.step .join (Ends Move.step (Ends Move.step (initial self n) before)
      (List.replicate steps .worker)) = some d ∧ d.system.worker_ = .absent := by
  have hstopped : Stopped (Ends Move.step (initial self n) before) :=
    ⟨(visits_crew_sound self n before).ends, hstop, hpoll⟩
  have hle := Worker.rank_le (Ends Move.step (initial self n) before).system.worker_
  have hworker : ∀ move ∈ List.replicate steps Move.worker, move = .worker :=
    fun _ hmove => List.eq_of_mem_replicate hmove
  have hcount : (List.replicate steps Move.worker).countP Move.isWorker = steps := by
    rw [List.countP_replicate]
    rfl
  obtain ⟨hend, hrank⟩ := rank_ends_eq_zero (I := Stopped) (P := (· = .worker))
    (fun c : Crew => c.system.worker_.rank) Move.isWorker
    (fun hc ha h => by
      subst ha
      exact ⟨(stopped_worker hc h).1, Nat.le_of_lt (stopped_worker hc h).2⟩)
    (fun hc ha hpos => by
      subst ha
      exact stopped_goes hc (hpos rfl))
    (fun {a c d} hc hp h => by
      cases a with
      | worker => exact (stopped_worker hc h).2
      | _ => cases hp) hstopped hworker (Nat.le_trans (Nat.le_trans hle hsteps)
      (Nat.le_of_eq hcount.symm))
  generalize Ends Move.step (Ends Move.step (initial self n) before) _ = c at hend hrank
  have hall : c.threads.all (· = .left) = true := by
    simpa using hend.stopped hend.run
  obtain ⟨t, hstep, habsent⟩ := step_join ((Worker.rank_eq_zero_iff _).mp hrank)
  exact ⟨⟨t, c.threads⟩, (if_pos ⟨hall, hend.run⟩).trans (turn_of_step _ hstep), habsent⟩

omit [Library] in
/-- Three threads that find nothing to receive, and then the destructor. -/
theorem main_returns_idle :
    letI := deliversSeven
    ∃ d, Move.step .join (Ends Move.step (Ends Move.step main [.worker, .thread 0 true,
        .thread 0 true, .thread 1 true, .thread 0 true, .thread 1 true, .thread 1 true,
        .thread 2 true, .thread 2 true, .thread 2 true, .stop]) (List.replicate 7 .worker)) =
          some d ∧ d.system.worker_ = .absent := by
  let _ := deliversSeven
  exact main_returns (make "172.17.0.2" 5672 "consumer-test" "guest" "guest" ["queue0"]) 3
    [.worker, .thread 0 true, .thread 0 true, .thread 1 true, .thread 0 true, .thread 1 true,
      .thread 1 true, .thread 2 true, .thread 2 true, .thread 2 true, .stop] rfl rfl 7
    (Nat.le_refl 7)

end Ending

end Crew
end RmqCxx.Consumer
