/-
# `RmqCxx.Consume` — Connection::consumeImpl and the two members over it

`consumeImpl` waits for one event and dispatches it to one of three callbacks.  Its
local objects are an `Envelope`, and on the path of a returned message a `Message`;
whether they still own their structures at the end depends on what the callback
did with the object it was given, so callbacks run with that object on top of the
state.  `L` are the variables the callbacks capture.

`receive` is the same function up to the dispatch, without callbacks and scopes:
what has been received, and the locals as they are then.  `consumeImpl_run` says
that `consumeImpl` is `receive`, then the dispatch, with the locals destroyed and
the buffers released on the way out.
-/
import RmqCxx.Wrappers

namespace RmqCxx

open Cpp Code

/-- A callback, given an object as an rvalue. -/
abbrev Callback (O L : Type) := Code (O × L × World) Exc Unit

abbrev AcknowledgeCallback (L : Type) := BasicAck → Code (L × World) Exc Unit

namespace Connection

/-- The timeout of the second wait, from that of the first and the clock's readings
before the first and now. -/
def remaining (tv : Timeval) (start now : ClockDuration) : Timeval :=
  let initial := durationValue .microseconds tv
  -- time changed, we don't know how much, set the tv to 0
  if now.lt start then ⟨0, 0⟩
  else
    let spent := start.sub now
    if initial.lt spent then ⟨0, 0⟩ else timeValue (initial.sub spent)

variable [Library] {L : Type} (self : Connection)

/-- The update of `*tv` between the two waits. -/
def secondTimeout (start : ClockDuration) : Option Timeval → Code World Exc (Option Timeval)
  | none => pure none
  | some tv => do
      let now ← clockNow
      pure (some (remaining tv start now))

/-- The scope of the local `message`, a copy of the structure `ident`. -/
def consumeReturnScope (ident : Nat) (frame : Frame) (decoded : BasicReturn Bytes)
    (returnedMessageCallback : Callback ReturnedMessage L) :
    Code (Message × L × World) Exc Bool := do
  let (reply, memory) ← beside (beside (amqpReadMessage self.connection_ frame.channel ident 0))
  modify fun (message, s) => ({ message with memory_ := memory }, s)
  ofExcept (processReply (self.context_ ++ " Consumer (return method): ") reply)
  let (message, _) ← get
  -- the parameter of the constructor is moved into the member, and destroyed
  let (parameter, message) := message.moveConstruct
  let (returned, parameter) := ReturnedMessage.make parameter decoded
  modify fun (_, s) => (message, s)
  beside (beside (Message.destroy parameter))
  beside (withLocal returned (fun r => beside (ReturnedMessage.destroy r))
    returnedMessageCallback)
  pure true

/-- The case `AMQP_BASIC_RETURN_METHOD`. -/
def consumeReturn (frame : Frame) (decoded : BasicReturn Bytes)
    (returnedMessageCallback : Callback ReturnedMessage L) : Code (L × World) Exc Bool := do
  let ident ← beside newIdent
  withLocal (AMQPStruct.make (.zero ident)) (fun message => beside (Message.destroy message))
    (self.consumeReturnScope ident frame decoded returnedMessageCallback)

/-- The case `AMQP_STATUS_UNEXPECTED_STATE`: a frame other than a delivery is there. -/
def consumeFrame (tv : Option Timeval) (start : ClockDuration) (reply : RpcReply)
    (returnedMessageCallback : Callback ReturnedMessage L)
    (acknowledgeCallback : AcknowledgeCallback L) : Code (L × World) Exc Bool := do
  let tv ← beside (secondTimeout start tv)
  let (status, frame) ← beside (amqpSimpleWaitFrameNoblock self.connection_ tv)
  match status with
  | .ok =>
      match frame.payload with
      | .method method =>
          match method.decoded with
          | .basicAck decoded => do
              acknowledgeCallback decoded
              pure true
          | .basicReturn decoded => self.consumeReturn frame decoded returnedMessageCallback
          | .channelClose decoded =>
              throw (.channelCloseException frame.channel decoded
                (self.context_ ++ "Consumer: Channel close received!"))
          | .connectionClose decoded =>
              throw (.connectionCloseException decoded
                (self.context_ ++ "Consumer: Connection close received!"))
          | .other id =>
              throw (.frame reply frame (self.context_ ++ "Consumer: Received unhandled method: "
                ++ Library.methodName (.other id)))
      | .other _ =>
          throw (.frame reply frame (self.context_ ++ "Consumer: Received unhandled frame type!"))
  | .timeout => pure false
  | status =>
      throw (.frameStatus reply status
        (self.context_ ++ "Consumer: Received unhandled status when waiting for frame"))

/-- The scope of the local `envelope`, a copy of the structure `ident`. -/
def consumeScope (ident : Nat) (tv : Option Timeval) (envelopeCallback : Callback Envelope L)
    (returnedMessageCallback : Callback ReturnedMessage L)
    (acknowledgeCallback : AcknowledgeCallback L) : Code (Envelope × L × World) Exc Bool := do
  let start ← beside (beside clockNow)
  let (reply, memory) ← beside (beside (amqpConsumeMessage self.connection_ ident tv 0))
  modify fun (envelope, s) => ({ envelope with memory_ := memory }, s)
  match reply.replyType with
  | .normal =>
      if memory.channel = 0 then pure false
      else do
        envelopeCallback
        pure true
  | .libraryException =>
      match reply.libraryError with
      | .unexpectedState =>
          beside (self.consumeFrame tv start reply returnedMessageCallback acknowledgeCallback)
      | .timeout => pure false
      | .socketError =>
          throw (.socket .ok (self.context_ ++ "Consumer: Socket Error!"))
      | libraryError =>
          throw (.rpc reply (self.context_
            ++ "Consumer: Received an unhandled library exception, library_error: "
            ++ toString (Library.statusCode libraryError)))
  | _ =>
      throw (.rpc reply (self.context_ ++ "Consumer: Received an unhandled RPC reply!"))

/-- `consumeImpl(tv, envelopeCallback, returnedMessageCallback, acknowledgeCallback)`. -/
def consumeImpl (tv : Option Timeval) (envelopeCallback : Callback Envelope L)
    (returnedMessageCallback : Callback ReturnedMessage L)
    (acknowledgeCallback : AcknowledgeCallback L) : Code (L × World) Exc Bool :=
  defer (beside (amqpMaybeReleaseBuffers self.connection_)) do
    let ident ← beside newIdent
    withLocal (AMQPStruct.make (.zero ident)) (fun e => beside (Envelope.destroy e))
      (self.consumeScope ident tv envelopeCallback returnedMessageCallback acknowledgeCallback)

/-- `consume(timeout, ...)`. -/
def consume {p : Period} (timeout : Duration p) (envelopeCallback : Callback Envelope L)
    (returnedMessageCallback : Callback ReturnedMessage L)
    (acknowledgeCallback : AcknowledgeCallback L) : Code (L × World) Exc Bool :=
  self.consumeImpl (some (timeValue timeout)) envelopeCallback returnedMessageCallback
    acknowledgeCallback

/-- `consume(...)` without a timeout. -/
def consumeBlocking (envelopeCallback : Callback Envelope L)
    (returnedMessageCallback : Callback ReturnedMessage L)
    (acknowledgeCallback : AcknowledgeCallback L) : Code (L × World) Exc Unit := do
  let _ ← self.consumeImpl none envelopeCallback returnedMessageCallback acknowledgeCallback
  pure ()

end Connection

/-! ## Receiving -/

/-- What one call of `consumeImpl` has to dispatch. -/
inductive Item where
  /-- No callback is called and false is returned. -/
  | nothing
  /-- The local envelope was filled. -/
  | envelope
  | acknowledge (decoded : BasicAck)
  | returned (r : ReturnedMessage)
  | failed (e : Exc)
  /-- The content of a returned message could not be read into the local message. -/
  | unreadable (message : Message) (e : Exc)

section Receive

variable [Library] {L : Type} (self : Connection)

/-- `consumeReturn` up to the callback. -/
def Connection.receiveReturn (frame : Frame) (decoded : BasicReturn Bytes) :
    Code World Exc Item := do
  let ident ← newIdent
  let (reply, memory) ← amqpReadMessage self.connection_ frame.channel ident 0
  match Connection.processReply (self.context_ ++ " Consumer (return method): ") reply with
  | .ok () => pure (.returned ⟨AMQPStruct.make memory, decoded⟩)
  | .error e => pure (.unreadable (AMQPStruct.make memory) e)

/-- `consumeFrame` up to the callbacks. -/
def Connection.receiveFrame (tv : Option Timeval) (start : ClockDuration) (reply : RpcReply) :
    Code World Exc Item := do
  let tv ← secondTimeout start tv
  let (status, frame) ← amqpSimpleWaitFrameNoblock self.connection_ tv
  match status with
  | .ok =>
      match frame.payload with
      | .method method =>
          match method.decoded with
          | .basicAck decoded => pure (.acknowledge decoded)
          | .basicReturn decoded => self.receiveReturn frame decoded
          | .channelClose decoded =>
              pure (.failed (.channelCloseException frame.channel decoded
                (self.context_ ++ "Consumer: Channel close received!")))
          | .connectionClose decoded =>
              pure (.failed (.connectionCloseException decoded
                (self.context_ ++ "Consumer: Connection close received!")))
          | .other id =>
              pure (.failed (.frame reply frame (self.context_
                ++ "Consumer: Received unhandled method: " ++ Library.methodName (.other id))))
      | .other _ =>
          pure (.failed (.frame reply frame
            (self.context_ ++ "Consumer: Received unhandled frame type!")))
  | .timeout => pure .nothing
  | status =>
      pure (.failed (.frameStatus reply status
        (self.context_ ++ "Consumer: Received unhandled status when waiting for frame")))

/-- What there is to dispatch after the first wait. -/
def Connection.receiveItem (tv : Option Timeval) (start : ClockDuration) (reply : RpcReply)
    (memory : AmqpEnvelope) : Code World Exc Item :=
  match reply.replyType with
  | .normal => if memory.channel = 0 then pure .nothing else pure .envelope
  | .libraryException =>
      match reply.libraryError with
      | .unexpectedState => self.receiveFrame tv start reply
      | .timeout => pure .nothing
      | .socketError =>
          pure (.failed (.socket .ok (self.context_ ++ "Consumer: Socket Error!")))
      | libraryError =>
          pure (.failed (.rpc reply (self.context_
            ++ "Consumer: Received an unhandled library exception, library_error: "
            ++ toString (Library.statusCode libraryError))))
  | _ => pure (.failed (.rpc reply
      (self.context_ ++ "Consumer: Received an unhandled RPC reply!")))

/-- `consumeImpl` up to the callbacks: the local envelope as it was filled, and what
there is to dispatch. -/
def Connection.receive (tv : Option Timeval) : Code World Exc (Envelope × Item) := do
  let ident ← newIdent
  let start ← clockNow
  let (reply, memory) ← amqpConsumeMessage self.connection_ ident tv 0
  let item ← self.receiveItem tv start reply memory
  pure (AMQPStruct.make memory, item)

section Dispatch

variable (envelopeCallback : Callback Envelope L)
  (returnedMessageCallback : Callback ReturnedMessage L)
  (acknowledgeCallback : AcknowledgeCallback L)

/-- The dispatch outside the scope of the envelope. -/
def Item.dispatchFrame : Item → Code (L × World) Exc Bool
  | .nothing | .envelope => pure false
  | .acknowledge decoded => do
      acknowledgeCallback decoded
      pure true
  | .returned r => do
      withLocal r (fun r => beside (ReturnedMessage.destroy r)) returnedMessageCallback
      pure true
  | .failed e => throw e
  | .unreadable message e =>
      withLocal message (fun m => beside (Message.destroy m)) (throw e)

/-- The dispatch, with the local envelope on top of the state. -/
def Item.dispatch : Item → Code (Envelope × L × World) Exc Bool
  | .envelope => do
      envelopeCallback
      pure true
  | item => beside (item.dispatchFrame returnedMessageCallback acknowledgeCallback)

end Dispatch

end Receive

/-! ## The world while receiving -/

section Primitives

variable (w : World) (h : Handle)

/-- The world with one more structure. -/
def World.fresh : World :=
  { w with nextIdent := w.nextIdent + 1
           freed := fun i => if i = w.nextIdent then false else w.freed i }

/-- The world after a function that takes frames off the connection, and leaves the
frame queue `queued`. -/
def World.afterTaking (f : CFunction) (args : List Arg) (queued : List ChannelId) : World :=
  (w.tick.tell (.call f h args)).setConn h { w.conns h with queued := queued }

theorem newIdent_run : (newIdent : Code World Exc Nat).run w = (.ret w.nextIdent, w.fresh) := rfl

/-- The timeout of the second wait, from the clock's reading when it starts. -/
def secondTimeval (tv : Option Timeval) (start now : ClockDuration) : Option Timeval :=
  tv.map fun tv => Connection.remaining tv start now

/-- The world after the clock was read for the second wait, if that has a timeout. -/
def World.afterReading (tv : Option Timeval) : World := if tv.isSome then w.tick else w

theorem afterReading_conns (tv : Option Timeval) : (w.afterReading tv).conns = w.conns := by
  cases tv <;> rfl

theorem afterReading_nextIdent (tv : Option Timeval) :
    (w.afterReading tv).nextIdent = w.nextIdent := by
  cases tv <;> rfl

theorem afterReading_calls (tv : Option Timeval) :
    (w.afterReading tv).calls = w.calls + tv.toList.length := by
  cases tv <;> rfl

variable [Library]

theorem clockNow_run :
    (clockNow : Code World Exc ClockDuration).run w = (.ret (Library.now w.calls), w.tick) := rfl

theorem amqpConsumeMessage_run (ident : Nat) (tv : Option Timeval) (flags : Int) :
    (amqpConsumeMessage h ident tv flags : Code World Exc (RpcReply × AmqpEnvelope)).run w =
      (.ret ((w.conns h).placeReply h (Library.consumeMessage w.calls).reply,
          (Library.consumeMessage w.calls).envelope.fill ident),
        w.afterTaking h .consumeMessage [.timeval tv, .num flags]
          (Library.consumeMessage w.calls).queued) := rfl

theorem amqpSimpleWaitFrameNoblock_run (tv : Option Timeval) :
    (amqpSimpleWaitFrameNoblock h tv : Code World Exc (Status × Frame)).run w =
      (.ret ((Library.simpleWaitFrameNoblock w.calls).status,
          (w.conns h).placeFrame h (Library.simpleWaitFrameNoblock w.calls).channel
            (Library.simpleWaitFrameNoblock w.calls).payload),
        w.afterTaking h .simpleWaitFrameNoblock [.timeval tv]
          (Library.simpleWaitFrameNoblock w.calls).queued) := rfl

theorem secondTimeout_run (start : ClockDuration) (tv : Option Timeval) :
    (Connection.secondTimeout start tv).run w =
      (.ret (secondTimeval tv start (Library.now w.calls)), w.afterReading tv) := by
  cases tv <;> rfl

end Primitives

/-! ## Receive, then dispatch -/

section Spec

variable [Library] {L : Type} {self : Connection} {envelopeCallback : Callback Envelope L}
  {returnedMessageCallback : Callback ReturnedMessage L}
  {acknowledgeCallback : AcknowledgeCallback L}

/-- The message that is read for the frame, and the reply to that. -/
def Connection.readReply (self : Connection) (w : World) : RpcReply :=
  (w.conns self.connection_).placeReply self.connection_ (Library.readMessage w.calls).reply

def World.readMessage (w : World) : Message :=
  AMQPStruct.make ((Library.readMessage w.calls).message.fill w.nextIdent)

def Connection.afterRead (self : Connection) (frame : Frame) (w : World) : World :=
  w.fresh.afterTaking self.connection_ .readMessage [.channel frame.channel, .num 0]
    (Library.readMessage w.calls).queued

theorem consumeReturnScope_run (frame : Frame) (decoded : BasicReturn Bytes) (l : L) (w : World) :
    (self.consumeReturnScope w.nextIdent frame decoded returnedMessageCallback).run
        (AMQPStruct.make (.zero w.nextIdent), l, w.fresh) =
      match Connection.processReply (self.context_ ++ " Consumer (return method): ")
          (self.readReply w) with
      | .error e => (.thrown e, (w.readMessage, l, self.afterRead frame w))
      | .ok () =>
          let q := (withLocal (⟨w.readMessage, decoded⟩ : ReturnedMessage)
            (fun r => beside (ReturnedMessage.destroy r)) returnedMessageCallback).run
              (l, self.afterRead frame w)
          (q.1.map (fun _ => true), (w.readMessage.moveConstruct.2, q.2)) := by
  have hread : (beside (beside (amqpReadMessage self.connection_ frame.channel w.nextIdent 0)) :
      Code (Message × L × World) Exc (RpcReply × AmqpMessage)).run
        (AMQPStruct.make (.zero w.nextIdent), l, w.fresh) =
      (.ret (self.readReply w, (Library.readMessage w.calls).message.fill w.nextIdent),
        (AMQPStruct.make (.zero w.nextIdent), l, self.afterRead frame w)) := rfl
  rw [Connection.consumeReturnScope, bind_of_ret hread]
  cases hv : Connection.processReply (self.context_ ++ " Consumer (return method): ")
      (self.readReply w) with
  | error e =>
      simp only [run_bind, run_modify, hv]
      rfl
  | ok _ =>
      simp only [run_bind, run_modify, hv]
      show (beside (withLocal (⟨w.readMessage, decoded⟩ : ReturnedMessage)
        (fun r => beside (ReturnedMessage.destroy r)) returnedMessageCallback) >>=
          fun _ => pure true).run
            (w.readMessage.moveConstruct.2, l, self.afterRead frame w) = _
      rw [run_then, beside_run]

theorem receiveReturn_run (frame : Frame) (decoded : BasicReturn Bytes) (w : World) :
    (self.receiveReturn frame decoded).run w =
      (.ret (match Connection.processReply (self.context_ ++ " Consumer (return method): ")
            (self.readReply w) with
          | .ok () => .returned ⟨w.readMessage, decoded⟩
          | .error e => .unreadable w.readMessage e),
        self.afterRead frame w) := by
  have hread : (amqpReadMessage self.connection_ frame.channel w.nextIdent 0 :
      Code World Exc (RpcReply × AmqpMessage)).run w.fresh =
      (.ret (self.readReply w, (Library.readMessage w.calls).message.fill w.nextIdent),
        self.afterRead frame w) := rfl
  rw [Connection.receiveReturn, bind_of_ret (newIdent_run w), bind_of_ret hread]
  cases hv : Connection.processReply (self.context_ ++ " Consumer (return method): ")
      (self.readReply w) with
  | error e => simp only [hv, run_pure, World.readMessage]
  | ok _ => simp only [hv, run_pure, World.readMessage]

theorem consumeReturn_run (frame : Frame) (decoded : BasicReturn Bytes) (l : L) (w : World) :
    (self.consumeReturn frame decoded returnedMessageCallback).run (l, w) =
      (beside (self.receiveReturn frame decoded) >>=
        Item.dispatchFrame returnedMessageCallback acknowledgeCallback).run (l, w) := by
  have hident : (beside newIdent : Code (L × World) Exc Nat).run (l, w) =
      (.ret w.nextIdent, (l, w.fresh)) := rfl
  have hscope := @consumeReturnScope_run _ L self returnedMessageCallback frame decoded l w
  rw [Connection.consumeReturn, bind_of_ret hident, run_bind, beside_run, receiveReturn_run]
  cases hv : Connection.processReply (self.context_ ++ " Consumer (return method): ")
      (self.readReply w) with
  | error e =>
      rw [hv] at hscope
      rw [withLocal_of (by nofun) hscope]
      rfl
  | ok _ =>
      rw [hv] at hscope
      rw [withLocal_of_idle hscope rfl]
      exact (run_then _ true _).symm

theorem consumeFrame_run (tv : Option Timeval) (start : ClockDuration) (reply : RpcReply) (l : L)
    (w : World) :
    (self.consumeFrame tv start reply returnedMessageCallback acknowledgeCallback).run (l, w) =
      (beside (self.receiveFrame tv start reply) >>=
        Item.dispatchFrame returnedMessageCallback acknowledgeCallback).run (l, w) := by
  have htv := secondTimeout_run w start tv
  generalize secondTimeval tv start _ = tv' at htv
  generalize w.afterReading tv = w' at htv
  rw [Connection.consumeFrame, Connection.receiveFrame, run_bind (beside _), beside_run, htv,
    run_bind (beside _), beside_run, bind_of_ret htv]
  dsimp only
  have hwait := amqpSimpleWaitFrameNoblock_run w' self.connection_ tv'
  rw [bind_of_ret (by rw [beside_run, hwait]), bind_of_ret hwait]
  cases (Library.simpleWaitFrameNoblock w'.calls).status with
  | timeout => rfl
  | socketError => rfl
  | unexpectedState => rfl
  | other code => rfl
  | ok =>
      dsimp only
      cases ((w'.conns self.connection_).placeFrame self.connection_
        (Library.simpleWaitFrameNoblock w'.calls).channel
        (Library.simpleWaitFrameNoblock w'.calls).payload).payload with
      | other frameType => rfl
      | method m =>
          dsimp only
          cases m.decoded with
          | basicAck decoded => rfl
          | channelClose decoded => rfl
          | connectionClose decoded => rfl
          | other id => rfl
          | basicReturn decoded =>
              dsimp only
              rw [@consumeReturn_run _ L self returnedMessageCallback acknowledgeCallback, run_bind,
                beside_run]

/-- What is received after a frame is not a delivery, and it is always something. -/
theorem receiveFrame_ret (tv : Option Timeval) (start : ClockDuration) (reply : RpcReply)
    (w : World) :
    ∃ item w', (self.receiveFrame tv start reply).run w = (.ret item, w') ∧ item ≠ .envelope := by
  have htv := secondTimeout_run w start tv
  generalize secondTimeval tv start _ = tv' at htv
  generalize w.afterReading tv = w' at htv
  rw [Connection.receiveFrame, bind_of_ret htv,
    bind_of_ret (amqpSimpleWaitFrameNoblock_run w' self.connection_ tv')]
  cases (Library.simpleWaitFrameNoblock w'.calls).status with
  | timeout => exact ⟨_, _, rfl, by nofun⟩
  | socketError => exact ⟨_, _, rfl, by nofun⟩
  | unexpectedState => exact ⟨_, _, rfl, by nofun⟩
  | other code => exact ⟨_, _, rfl, by nofun⟩
  | ok =>
      dsimp only
      cases ((w'.conns self.connection_).placeFrame self.connection_
        (Library.simpleWaitFrameNoblock w'.calls).channel
        (Library.simpleWaitFrameNoblock w'.calls).payload).payload with
      | other frameType => exact ⟨_, _, rfl, by nofun⟩
      | method m =>
          dsimp only
          cases m.decoded with
          | basicAck decoded => exact ⟨_, _, rfl, by nofun⟩
          | channelClose decoded => exact ⟨_, _, rfl, by nofun⟩
          | connectionClose decoded => exact ⟨_, _, rfl, by nofun⟩
          | other id => exact ⟨_, _, rfl, by nofun⟩
          | basicReturn decoded =>
              dsimp only
              rw [receiveReturn_run]
              refine ⟨_, _, rfl, ?_⟩
              split <;> nofun

omit [Library] in
theorem dispatch_of_ne {item : Item} (h : item ≠ .envelope) :
    item.dispatch envelopeCallback returnedMessageCallback acknowledgeCallback =
      beside (item.dispatchFrame returnedMessageCallback acknowledgeCallback) := by
  cases item with
  | envelope => exact absurd rfl h
  | nothing | acknowledge _ | returned _ | failed _ | unreadable _ _ => rfl

/-- The scope of the envelope, after its structure was filled, does what was received
says. -/
theorem consumeScope_run (tv : Option Timeval) (l : L) (w : World) :
    ∃ memory item w', (self.receive tv).run w = (.ret (AMQPStruct.make memory, item), w') ∧
      (self.consumeScope w.nextIdent tv envelopeCallback returnedMessageCallback
          acknowledgeCallback).run (AMQPStruct.make (.zero w.nextIdent), l, w.fresh) =
        (item.dispatch envelopeCallback returnedMessageCallback acknowledgeCallback).run
          (AMQPStruct.make memory, l, w') := by
  have hstart : (beside (beside clockNow) : Code (Envelope × L × World) Exc ClockDuration).run
      (AMQPStruct.make (.zero w.nextIdent), l, w.fresh) =
        (.ret (Library.now w.fresh.calls),
          (AMQPStruct.make (.zero w.nextIdent), l, w.fresh.tick)) := rfl
  have hconsume := amqpConsumeMessage_run w.fresh.tick self.connection_ w.nextIdent tv 0
  rw [Connection.consumeScope, bind_of_ret hstart, run_bind (beside _), beside_run, beside_run,
    hconsume, Connection.receive, bind_of_ret (newIdent_run w), bind_of_ret (clockNow_run w.fresh),
    bind_of_ret hconsume]
  dsimp only
  rw [bind_of_ret (run_modify _ _)]
  generalize (w.fresh.tick.conns self.connection_).placeReply self.connection_
    (Library.consumeMessage w.fresh.tick.calls).reply = reply
  generalize (Library.consumeMessage w.fresh.tick.calls).envelope.fill w.nextIdent = memory
  generalize w.fresh.tick.afterTaking self.connection_ _ _ _ = w₁
  unfold Connection.receiveItem
  cases reply.replyType with
  | normal =>
      dsimp only
      split
      · exact ⟨memory, .nothing, w₁, rfl, rfl⟩
      · exact ⟨memory, .envelope, w₁, rfl, rfl⟩
  | none => exact ⟨memory, _, w₁, rfl, rfl⟩
  | serverException => exact ⟨memory, _, w₁, rfl, rfl⟩
  | other code => exact ⟨memory, _, w₁, rfl, rfl⟩
  | libraryException =>
      dsimp only
      cases reply.libraryError with
      | timeout => exact ⟨memory, .nothing, w₁, rfl, rfl⟩
      | socketError => exact ⟨memory, _, w₁, rfl, rfl⟩
      | ok => exact ⟨memory, _, w₁, rfl, rfl⟩
      | other code => exact ⟨memory, _, w₁, rfl, rfl⟩
      | unexpectedState =>
          dsimp only
          obtain ⟨item, w', hitem, hne⟩ := @receiveFrame_ret _ self tv
            (Library.now w.fresh.calls) reply w₁
          refine ⟨memory, item, w', by rw [bind_of_ret hitem]; rfl, ?_⟩
          rw [beside_run, @consumeFrame_run _ L self returnedMessageCallback acknowledgeCallback,
            run_bind, beside_run, hitem, dispatch_of_ne hne]
          rfl

/-- `consumeImpl` receives, and then dispatches in the scope of the envelope, which is
inside that of the release. -/
theorem consumeImpl_run (tv : Option Timeval) (l : L) (w : World) :
    ∃ memory item w', (self.receive tv).run w = (.ret (AMQPStruct.make memory, item), w') ∧
      (self.consumeImpl tv envelopeCallback returnedMessageCallback acknowledgeCallback).run
          (l, w) =
        (defer (beside (amqpMaybeReleaseBuffers self.connection_))
          (withLocal (AMQPStruct.make memory) (fun e => beside (Envelope.destroy e))
            (item.dispatch envelopeCallback returnedMessageCallback acknowledgeCallback))).run
          (l, w') := by
  obtain ⟨memory, item, w', hreceive, hscope⟩ := @consumeScope_run _ L self envelopeCallback
    returnedMessageCallback acknowledgeCallback tv l w
  refine ⟨memory, item, w', hreceive, scopeExit_congr ?_⟩
  have hident : (beside newIdent : Code (L × World) Exc Nat).run (l, w) =
      (.ret w.nextIdent, (l, w.fresh)) := rfl
  rw [bind_of_ret hident]
  exact withLocal_congr hscope

end Spec
end RmqCxx
