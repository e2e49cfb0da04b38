/-
# `RmqCxx.Consumers` — the six consumers of one kind of message

`consumeEnvelope`, `consumeReturnedMessage` and `consumeAcknowledge`, each with a
timeout and without, call `consume` until a message of their kind arrives.  The three
loops differ only in which of the three lambdas calls the user's callback and sets
`done`.

`Consume` stands for the two members `consume` the loops call: those of a connection
(`Connection.consuming`), or any others.  `done` is on top of the state, where the
lambdas find it; the loops are run for a number of turns.
-/
import RmqCxx.Consume
import RmqCxx.Callbacks

namespace RmqCxx

open Cpp Code

/-- The members `consume(timeout, ...)` and `consume(...)`, for callbacks that capture
one flag. -/
structure Consume where
  timed (internalTimeout : ClockDuration) (envelopeCallback : Callback Envelope Bool)
    (returnedMessageCallback : Callback ReturnedMessage Bool)
    (acknowledgeCallback : AcknowledgeCallback Bool) : Code (Bool × World) Exc Bool
  blocking (envelopeCallback : Callback Envelope Bool)
    (returnedMessageCallback : Callback ReturnedMessage Bool)
    (acknowledgeCallback : AcknowledgeCallback Bool) : Code (Bool × World) Exc Unit

/-- A consumer's own callback, before it is wrapped in a lambda. -/
abbrev UserCallback (O : Type) := Code (O × World) Exc Unit

abbrev UserAcknowledge := BasicAck → Code World Exc Unit

/-! ## The lambdas -/

/-- `[&callback, &done] (T v) mutable { done = true; callback(std::move(v)); }`. -/
def Passed.calling {O : Type} (P : Passed O) (callback : UserCallback O) : Callback O Bool :=
  passByValue P.move (fun v => beside (P.destroy v)) do
    modify fun (v, _, w) => (v, true, w)
    past callback

/-- `[&callback, &done] (::amqp_basic_ack_t ack) mutable { done = true; callback(...); }`. -/
def callingAcknowledge (callback : UserAcknowledge) : AcknowledgeCallback Bool := fun ack => do
  modify fun (_, w) => (true, w)
  beside (callback ack)

/-- `[] (const T&) {}`. -/
def ignoring (O : Type) : Callback O Bool := passByRef fun _ => pure ()

def ignoringAcknowledge : AcknowledgeCallback Bool := fun _ => pure ()

/-! ## The loops -/

/-- The update of `internalTimeout` at the head of a turn. -/
def nextTimeout (internalTimeout start now : ClockDuration) : ClockDuration :=
  -- if time changed (now < start), set the internalTimeout to 0
  if now.lt start then .zero
  else (internalTimeout.minus (now.minus start)).max .zero

namespace Consume

variable [Library] (c : Consume) {p : Period} (envelopeCallback : Callback Envelope Bool)
  (returnedMessageCallback : Callback ReturnedMessage Bool)
  (acknowledgeCallback : AcknowledgeCallback Bool)

/-- One turn of a loop with a timeout: whether to go on, and the variables
`internalTimeout` and `r`. -/
def turn (start : ClockDuration) (vars : ClockDuration × Bool) :
    Code (Bool × World) Exc (Bool × ClockDuration × Bool) := do
  let now ← beside clockNow
  let internalTimeout := nextTimeout vars.1 start now
  let r ← c.timed internalTimeout envelopeCallback returnedMessageCallback acknowledgeCallback
  let (done, _) ← get
  pure (r && !done, internalTimeout, r)

/-- The body of a consumer with a timeout; `none` if the loop still runs after `fuel`
turns. -/
def untilDone (timeout : Duration p) (fuel : Nat) : Code World Exc (Option Bool) :=
  withLocal false (fun _ => pure ()) do
    let start ← beside clockNow
    let vars ← doWhile
      (c.turn envelopeCallback returnedMessageCallback acknowledgeCallback start) fuel
      (durationCast .nanoseconds timeout, false)
    pure (vars.map Prod.snd)

omit [Library] in
/-- One turn of a loop without. -/
def blockingTurn (_ : Unit) : Code (Bool × World) Exc (Bool × Unit) := do
  c.blocking envelopeCallback returnedMessageCallback acknowledgeCallback
  let (done, _) ← get
  pure (!done, ())

omit [Library] in
/-- The body of a consumer without a timeout. -/
def blockingUntilDone (fuel : Nat) : Code World Exc (Option Unit) :=
  withLocal false (fun _ => pure ()) do
    doWhile (c.blockingTurn envelopeCallback returnedMessageCallback acknowledgeCallback) fuel ()

end Consume

/-! ## The members -/

namespace Consume

variable [Library] (c : Consume) {p : Period}

/-- `consumeEnvelope(timeout, callback)`. -/
def consumeEnvelope (timeout : Duration p) (callback : UserCallback Envelope) (fuel : Nat) :
    Code World Exc (Option Bool) :=
  c.untilDone (Envelope.passed.calling callback) (ignoring ReturnedMessage) ignoringAcknowledge
    timeout fuel

/-- `consumeReturnedMessage(timeout, callback)`. -/
def consumeReturnedMessage (timeout : Duration p) (callback : UserCallback ReturnedMessage)
    (fuel : Nat) : Code World Exc (Option Bool) :=
  c.untilDone (ignoring Envelope) (ReturnedMessage.passed.calling callback) ignoringAcknowledge
    timeout fuel

/-- `consumeAcknowledge(timeout, callback)`. -/
def consumeAcknowledge (timeout : Duration p) (callback : UserAcknowledge) (fuel : Nat) :
    Code World Exc (Option Bool) :=
  c.untilDone (ignoring Envelope) (ignoring ReturnedMessage) (callingAcknowledge callback)
    timeout fuel

omit [Library] in
/-- `consumeEnvelope(callback)`. -/
def consumeEnvelopeBlocking (callback : UserCallback Envelope) (fuel : Nat) :
    Code World Exc (Option Unit) :=
  c.blockingUntilDone (Envelope.passed.calling callback) (ignoring ReturnedMessage)
    ignoringAcknowledge fuel

omit [Library] in
/-- `consumeReturnedMessage(callback)`. -/
def consumeReturnedMessageBlocking (callback : UserCallback ReturnedMessage) (fuel : Nat) :
    Code World Exc (Option Unit) :=
  c.blockingUntilDone (ignoring Envelope) (ReturnedMessage.passed.calling callback)
    ignoringAcknowledge fuel

omit [Library] in
/-- `consumeAcknowledge(callback)`. -/
def consumeAcknowledgeBlocking (callback : UserAcknowledge) (fuel : Nat) :
    Code World Exc (Option Unit) :=
  c.blockingUntilDone (ignoring Envelope) (ignoring ReturnedMessage)
    (callingAcknowledge callback) fuel

end Consume

/-- The members `consume` of a connection. -/
def Connection.consuming [Library] (self : Connection) : Consume where
  timed internalTimeout envelopeCallback returnedMessageCallback acknowledgeCallback :=
    self.consume internalTimeout envelopeCallback returnedMessageCallback acknowledgeCallback
  blocking envelopeCallback returnedMessageCallback acknowledgeCallback :=
    self.consumeBlocking envelopeCallback returnedMessageCallback acknowledgeCallback

end RmqCxx
