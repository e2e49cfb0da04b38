/-
# `RmqCxx.AdvConsumer` — the consumer that reconnects

`class Consumer` of `advconsumer.cpp`: a worker thread receives messages into one queue
and acknowledges what clients put into another; on any exception it drops its connection
and both queues, and connects again.  Clients call the other members from threads of
their own.

A step of a thread is what it does between two points where it looks at something that
others change: the flag `run_`, a queue, or a mutex.  The library's functions are called by the
worker only, so a turn of the loop in `consumeEnvelope` is one step, and the callback's
`emplace` the next one.  `emplace` takes no lock: while a client is in `receive`, both change the
queue (`System.racing`), and the program has a data race.  Here one of them does so after the
other, and what is said about messages is said of the program as far as the race does no harm.
`History` is what happened to messages and acknowledgements so far, and `Message.via` the
connection a message came over; the program sees neither.
-/
import RmqCxx.Capturing
import RmqCxx.Sessions

namespace RmqCxx

open Cpp Code

/-! ## The class -/

structure Consumer.Message where
  id : UInt64
  body : String
  via : Handle
  deriving DecidableEq, Repr

inductive Consumer.Mutex where
  | messageMtx
  | ackMtx
  deriving DecidableEq, Repr

/-- Who has locked a mutex: the worker, or one of the threads that call the members. -/
inductive Consumer.Party where
  | worker
  | client (i : Nat)
  deriving DecidableEq, Repr

/-- `class Consumer`, besides its thread. -/
structure Consumer where
  host_ : String
  port_ : Int
  vhost_ : String
  username_ : String
  password_ : String
  queuesToConsume_ : List String
  run_ : Bool
  messages_ : List Consumer.Message
  messageMtx_ : Option Consumer.Party
  ackQueue_ : List UInt64
  ackMtx_ : Option Consumer.Party

/-- The locals of the `try` block. -/
structure Consumer.Locals where
  connection : Connection
  channel : Channel
  arg : TableEntry

namespace Consumer

/-- `Consumer(host, port, vhost, username, password, queuesToConsume)`. -/
def make (host : String) (port : Int) (vhost username password : String)
    (queuesToConsume : List String) : Consumer :=
  ⟨host, port, vhost, username, password, queuesToConsume, false, [], none, [], none⟩

/-- Who has locked `m`. -/
def owner (self : Consumer) : Mutex → Option Party
  | .messageMtx => self.messageMtx_
  | .ackMtx => self.ackMtx_

def setOwner (self : Consumer) (party : Option Party) : Mutex → Consumer
  | .messageMtx => { self with messageMtx_ := party }
  | .ackMtx => { self with ackMtx_ := party }

/-- `std::lock_guard<std::mutex> lk(m)`; `none` while somebody has locked `m`. -/
def lock (self : Consumer) (party : Party) (m : Mutex) : Option Consumer :=
  match self.owner m with
  | none => some (self.setOwner (some party) m)
  | some _ => none

/-- `~lock_guard()`. -/
def unlock (self : Consumer) (m : Mutex) : Consumer := self.setOwner none m

section Owner

variable (self : Consumer) (party : Option Party) (m : Mutex)

@[simp] theorem setOwner_run_ : (self.setOwner party m).run_ = self.run_ := by cases m <;> rfl

@[simp] theorem setOwner_messages_ : (self.setOwner party m).messages_ = self.messages_ := by
  cases m <;> rfl

@[simp] theorem setOwner_ackQueue_ : (self.setOwner party m).ackQueue_ = self.ackQueue_ := by
  cases m <;> rfl

theorem owner_setOwner (m' : Mutex) :
    (self.setOwner party m).owner m' = if m' = m then party else self.owner m' := by
  cases m <;> cases m' <;> rfl

theorem lock_eq_some_iff {self consumer : Consumer} {party : Party} {m : Mutex} :
    self.lock party m = some consumer ↔
      self.owner m = none ∧ consumer = self.setOwner (some party) m := by
  rw [lock]
  cases self.owner m with
  | none => simp [eq_comm]
  | some _ => simp

end Owner

/-- `TableEntry arg("x-queue-type", "classic")`. -/
def queueType : Code World Exc TableEntry :=
  ⟨fun w =>
    let (value, mem) := FieldValue.ofCString "classic".toUTF8.toList .utf8 w.mem
    let (arg, mem) := TableEntry.make "x-queue-type".toUTF8.toList value mem
    (.ret arg, { w with mem := mem })⟩

/-- `~TableEntry()`, of a local. -/
def dropArgument (arg : TableEntry) : Code World Exc Unit :=
  modify fun w => { w with mem := w.mem.free arg.key_.data }

section Code

variable [Library]

/-- The loop over `queuesToConsume_`. -/
def consumeQueues (channel : Channel) (arg : TableEntry) : List String → Code World Exc Unit
  | [] => pure ()
  | x :: queues => do
      let _ ← (Queue.make channel x).consume "" false false false [arg]
      consumeQueues channel arg queues

/-- The `try` block up to its loop: the locals are constructed one after the other, and
an exception destroys those there are. -/
def prepare (self : Consumer) (connection : Connection) (channel : Channel) :
    Code World Exc Locals := do
  let arg ← queueType
  constructing (dropArgument arg) do
    consumeQueues channel arg self.queuesToConsume_
    pure ⟨connection, channel, arg⟩

def openChannel (self : Consumer) (connection : Connection) : Code World Exc Locals := do
  let channel ← Channel.make connection 1
  constructing channel.destroy (self.prepare connection channel)

def connect (self : Consumer) : Code World Exc Locals := do
  let connection ← Connection.makePlain self.host_ self.port_ self.username_ self.password_
    self.vhost_ 0 131072 1 (⟨1⟩ : Duration .seconds)
  constructing connection.destroy (self.openChannel connection)

/-- The end of the `try` block. -/
def Locals.destroy (locals : Locals) : Code World Exc Unit := do
  dropArgument locals.arg
  locals.channel.destroy
  locals.connection.destroy

/-- `[this] (Envelope envelope) { messages_.emplace(Message{...}); }`, which has captured what
it has to put into `messages_`. -/
def emplace (via : Handle) : CapturingCallback Envelope (List Message) :=
  passByValue Envelope.passed.move (fun e => beside (Envelope.destroy e)) <|
    modify fun (envelope, arrived, w) =>
      (envelope, arrived ++ [⟨envelope.memory_.deliveryTag, envelope.body, via⟩], w)

/-- `connection.consumeEnvelope(seconds(0), ...)`. -/
def Locals.poll (locals : Locals) (fuel : Nat) : Code (List Message × World) Exc (Option Bool) :=
  locals.connection.consumeEnvelopeWith (emplace locals.connection.connection_)
    (⟨0⟩ : Duration .seconds) fuel

/-- One turn of its loop, with the variables `internalTimeout` and `r`. -/
def Locals.turn (locals : Locals) (start : ClockDuration) (vars : ClockDuration × Bool) :
    Code (List Message × World) Exc (Bool × ClockDuration × Bool) :=
  locals.connection.turnAlone (emplace locals.connection.connection_) start vars

theorem poll_turns (locals : Locals) (fuel : Nat) :
    locals.poll fuel = (do
      let start ← beside clockNow
      let vars ← doWhile (locals.turn start) fuel
        (durationCast .nanoseconds (⟨0⟩ : Duration .seconds), false)
      pure (vars.map Prod.snd)) :=
  locals.connection.consumeEnvelopeWith_turns _ _ fuel

end Code

end Consumer

/-! ## The threads -/

/-- Where the worker is. -/
inductive Worker where
  /-- Not started, or joined. -/
  | absent
  /-- At the outer `while (run_)`. -/
  | top
  /-- At the inner `while (run_)`. -/
  | polling (locals : Consumer.Locals)
  /-- In `consumeEnvelope`, at the head of a turn of its loop. -/
  | consuming (locals : Consumer.Locals) (start : ClockDuration) (vars : ClockDuration × Bool)
  /-- In the callback, which puts `arrived` into `messages_`. -/
  | emplacing (locals : Consumer.Locals) (arrived : List Consumer.Message)
  /-- At the block that sends an acknowledgement, and in it. -/
  | acking (locals : Consumer.Locals)
  | sending (locals : Consumer.Locals)
  /-- In the handler, at each of its two blocks and in it. -/
  | caught
  | dropping
  | clearing
  | forgetting
  | finished

/-- What the callback was given, what `receive` returned, and what `acknowledge` was called
with. -/
structure Consumer.History where
  delivered : List Consumer.Message
  received : List Consumer.Message
  acknowledged : List UInt64

structure Consumer.System where
  consumer : Consumer
  worker_ : Worker
  world : World
  history : Consumer.History

inductive Consumer.Turn where
  | work
  /-- Client `i` locks `m`, at the head of `receive` or of `acknowledge`. -/
  | enter (i : Nat) (m : Consumer.Mutex)
  /-- The rest of the member. -/
  | receive (i : Nat)
  | acknowledge (i : Nat) (id : UInt64)
  | start
  | stop
  | join

namespace Consumer

/-- An object was constructed. -/
def System.initial (self : Consumer) : System :=
  ⟨make self.host_ self.port_ self.vhost_ self.username_ self.password_ self.queuesToConsume_,
    .absent, .initial, ⟨[], [], []⟩⟩

/-- `catch (const Exception&)` takes it. -/
def caughtBy : Exc → Bool
  | .foreign _ => false
  | _ => true

/-- A data race: the worker is about to change `messages_` without its mutex, and a client with
it. -/
def System.racing (s : System) : Bool :=
  match s.worker_, s.consumer.messageMtx_ with
  | .emplacing _ _, some (.client _) => true
  | _, _ => false

/-- Where a turn of the loop in `consumeEnvelope` leads: out of it, by way of the callback if
that was called, unless the loop goes on. -/
def Locals.next (locals : Locals) (start : ClockDuration) (again : Bool)
    (vars : ClockDuration × Bool) : List Message → Worker
  | [] => if again then .consuming locals start vars else .acking locals
  | arrived => .emplacing locals arrived

section Machine

variable [Library]

/-- The `try` block is left, and the worker goes on at `next`. -/
def System.leave (s : System) (locals : Locals) (next : Worker) : Option System :=
  match locals.destroy.run s.world with
  | (.ret _, w) => some { s with worker_ := next, world := w }
  | (_, _) => none

/-- An exception leaves the `try` block.  What is not caught ends the program. -/
def System.fail (s : System) (locals : Locals) (e : Exc) : Option System :=
  if caughtBy e then s.leave locals .caught else none

omit [Library] in
/-- The worker locks `m`, and is then at `next`. -/
def System.lock (s : System) (m : Mutex) (next : Worker) : Option System :=
  (s.consumer.lock .worker m).map fun consumer => { s with consumer, worker_ := next }

/-- The worker goes on. -/
def System.work (s : System) : Option System :=
  match s.worker_ with
  | .absent | .finished => none
  | .top =>
      if s.consumer.run_ then
        match s.consumer.connect.run s.world with
        | (.ret locals, w) => some { s with worker_ := .polling locals, world := w }
        | (.thrown e, w) =>
            if caughtBy e then some { s with worker_ := .caught, world := w } else none
        | (.terminate, _) => none
      else some { s with worker_ := .finished }
  | .polling locals =>
      if s.consumer.run_ then
        match (clockNow : Code World Exc ClockDuration).run s.world with
        | (.ret start, w) =>
            let timeout := durationCast .nanoseconds (⟨0⟩ : Duration .seconds)
            some { s with worker_ := .consuming locals start (timeout, false), world := w }
        | (_, _) => none
      else s.leave locals .top
  | .consuming locals start vars =>
      match (locals.turn start vars).run ([], s.world) with
      | (.ret (again, vars), (arrived, w)) =>
          some { s with
            worker_ := locals.next start again vars arrived
            world := w
            history := { s.history with delivered := s.history.delivered ++ arrived } }
      | (.thrown e, (_, w)) => { s with world := w }.fail locals e
      | (.terminate, _) => none
  | .emplacing locals arrived =>
      some { s with
        consumer := { s.consumer with messages_ := s.consumer.messages_ ++ arrived }
        worker_ := .acking locals }
  | .acking locals => s.lock .ackMtx (.sending locals)
  | .sending locals =>
      match s.consumer.ackQueue_ with
      | [] => some { s with consumer := s.consumer.unlock .ackMtx, worker_ := .polling locals }
      | id :: ackQueue =>
          match (locals.channel.ack id false).run s.world with
          | (.ret _, w) =>
              some { s with
                consumer := { s.consumer with ackQueue_ := ackQueue }.unlock .ackMtx
                worker_ := .polling locals
                world := w }
          | (.thrown e, w) =>
              { s with consumer := s.consumer.unlock .ackMtx, world := w }.fail locals e
          | (.terminate, _) => none
  | .caught => s.lock .messageMtx .dropping
  | .dropping =>
      some { s with
        consumer := { s.consumer with messages_ := [] }.unlock .messageMtx
        worker_ := .clearing }
  | .clearing => s.lock .ackMtx .forgetting
  | .forgetting =>
      some { s with
        consumer := { s.consumer with ackQueue_ := [] }.unlock .ackMtx
        worker_ := .top }

omit [Library] in
/-- `receive`, with the mutex locked. -/
def System.pop (s : System) : System :=
  match s.consumer.messages_ with
  | [] => { s with consumer := s.consumer.unlock .messageMtx }
  | dst :: messages =>
      { s with
        consumer := { s.consumer with messages_ := messages }.unlock .messageMtx
        history := { s.history with received := s.history.received ++ [dst] } }

omit [Library] in
/-- `acknowledge`, with the mutex locked. -/
def System.push (s : System) (id : UInt64) : System :=
  { s with
    consumer := { s.consumer with ackQueue_ := s.consumer.ackQueue_ ++ [id] }.unlock .ackMtx
    history := { s.history with acknowledged := s.history.acknowledged ++ [id] } }

def Turn.step (turn : Turn) (s : System) : Option System :=
  match turn with
  | .work => s.work
  | .enter i m => (s.consumer.lock (.client i) m).map fun consumer => { s with consumer }
  | .receive i => if s.consumer.messageMtx_ = some (.client i) then some s.pop else none
  | .acknowledge i id => if s.consumer.ackMtx_ = some (.client i) then some (s.push id) else none
  | .start =>
      -- the assignment to a thread that is joinable ends the program
      match s.worker_ with
      | .absent => some { s with consumer := { s.consumer with run_ := true }, worker_ := .top }
      | _ => none
  | .stop => some { s with consumer := { s.consumer with run_ := false } }
  | .join =>
      -- possible when it does not have to wait
      match s.worker_ with
      | .absent => some s
      | .finished => some { s with worker_ := .absent }
      | _ => none

end Machine
end Consumer
end RmqCxx
