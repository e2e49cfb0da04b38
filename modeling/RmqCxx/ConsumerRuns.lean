/-
# `RmqCxx.ConsumerRuns` — runs of the consumers

What successive calls of `consume` receive is a `Source`: what the next call receives,
and the world then.  A connection is one (`Connection.consuming_eq`), and so is any
stream of things received (`streamed`).

A consumer calls `consume` up to the first thing that it does not skip.  `Progress` is
how far it gets, without callbacks and scopes; `timed_run` says that a consumer with a
timeout is its progress, and then what it makes of the last thing received.  The
induction is on the number of turns; the flag `done` is false at the head of every turn.
-/
import RmqCxx.Consumers
import RmqCxx.ConsumeRuns

namespace RmqCxx

open Cpp Code

/-! ## Sources -/

/-- What one call of `consume` has for its callbacks, or instead of them. -/
inductive Received where
  | nothing
  | envelope (memory : AmqpEnvelope)
  | returned (memory : AmqpMessage) (method : BasicReturn Bytes)
  | acknowledge (decoded : BasicAck)
  | failed (e : Exc)
  deriving DecidableEq, Repr

/-- The object that is passed for a returned message. -/
def aReturned (memory : AmqpMessage) (method : BasicReturn Bytes) : ReturnedMessage :=
  ⟨AMQPStruct.make memory, method⟩

/-- The call of the callback, in the scope of the object it is given. -/
def Received.dispatch (envelopeCallback : Callback Envelope Bool)
    (returnedMessageCallback : Callback ReturnedMessage Bool)
    (acknowledgeCallback : AcknowledgeCallback Bool) : Received → Code (Bool × World) Exc Bool
  | .nothing => pure false
  | .failed e => throw e
  | .envelope memory => do
      withLocal (AMQPStruct.make memory) (fun e => beside (Envelope.destroy e)) envelopeCallback
      pure true
  | .returned memory method => do
      withLocal (aReturned memory method) (fun r => beside (ReturnedMessage.destroy r))
        returnedMessageCallback
      pure true
  | .acknowledge decoded => do
      acknowledgeCallback decoded
      pure true

/-- What calls of `consume` receive: for a timeout (`none` to wait for ever) and a world,
the thing received and the world then; and what is done on the way out. -/
structure Source where
  take (timeout : Option ClockDuration) (w : World) : Received × World
  leave (timeout : Option ClockDuration) (w : World) : World → World

namespace Source

variable (src : Source)

/-- A call of `consume`. -/
def consume (timeout : Option ClockDuration) (envelopeCallback : Callback Envelope Bool)
    (returnedMessageCallback : Callback ReturnedMessage Bool)
    (acknowledgeCallback : AcknowledgeCallback Bool) : Code (Bool × World) Exc Bool :=
  ⟨fun s =>
    let (received, w) := src.take timeout s.2
    (scopeExit (beside (modify (src.leave timeout s.2)))
      (received.dispatch envelopeCallback returnedMessageCallback acknowledgeCallback)).run
        (s.1, w)⟩

def consuming : Consume where
  timed internalTimeout envelopeCallback returnedMessageCallback acknowledgeCallback :=
    src.consume (some internalTimeout) envelopeCallback returnedMessageCallback
      acknowledgeCallback
  blocking envelopeCallback returnedMessageCallback acknowledgeCallback := do
    let _ ← src.consume none envelopeCallback returnedMessageCallback acknowledgeCallback
    pure ()

end Source

/-! ## Connections are sources -/

section Connections

variable [Library]

/-- An item, as far as the callbacks are concerned. -/
def Item.received (memory : AmqpEnvelope) : Item → Received
  | .nothing => .nothing
  | .envelope => .envelope memory
  | .acknowledge decoded => .acknowledge decoded
  | .returned r => .returned r.message_.memory_ r.method_
  | .failed e | .unreadable _ e => .failed e

/-- The end of a call of `consumeImpl`, after the scopes of what was dispatched. -/
def Item.close (h : Handle) (memory : AmqpEnvelope) (w : World) : Item → World
  | .envelope => w.released h
  | .unreadable message _ =>
      ((w.messageDestroyed message.memory_.ident).envelopeDestroyed memory.ident).released h
  | .nothing | .acknowledge _ | .returned _ | .failed _ =>
      (w.envelopeDestroyed memory.ident).released h

/-- What `consumeImpl` receives. -/
def Connection.source (self : Connection) : Source where
  take timeout w :=
    match (self.receive (timeout.map timeValue)).run w with
    | (.ret (envelope, item), w') => (item.received envelope.memory_, w')
    | (_, w') => (.nothing, w')
  leave timeout w :=
    match (self.receive (timeout.map timeValue)).run w with
    | (.ret (envelope, item), _) => fun w' => item.close self.connection_ envelope.memory_ w'
    | (_, _) => id

omit [Library] in
/-- Code outside the scope of the envelope, between the two scopes. -/
theorem besideEnvelope_close (memory : AmqpEnvelope) (h : Handle)
    (c : Code (Bool × World) Exc Bool) (s : Bool × World) :
    (defer (beside (amqpMaybeReleaseBuffers h))
      (withLocal (AMQPStruct.make memory) (fun e => beside (Envelope.destroy e))
        (beside c))).run s =
      (scopeExit (beside (modify fun w => (w.envelopeDestroyed memory.ident).released h)) c).run
        s :=
  scopeExit_withLocal_beside (o := (AMQPStruct.make memory : Envelope))
    (d := fun e => beside (Envelope.destroy e))
    (f := fun s : Bool × World => (s.1, s.2.envelopeDestroyed memory.ident))
    (g := fun s : Bool × World => (s.1, s.2.released h)) rfl

omit [Library] in
/-- What the item is dispatched to, between the scopes. -/
theorem source_close {memory : AmqpEnvelope} {item : Item} (hitem : item.Owns) (h : Handle)
    (envelopeCallback : Callback Envelope Bool)
    (returnedMessageCallback : Callback ReturnedMessage Bool)
    (acknowledgeCallback : AcknowledgeCallback Bool) (s : Bool × World) :
    (defer (beside (amqpMaybeReleaseBuffers h))
      (withLocal (AMQPStruct.make memory) (fun e => beside (Envelope.destroy e))
        (item.dispatch envelopeCallback returnedMessageCallback acknowledgeCallback))).run s =
      (scopeExit (beside (modify fun w => item.close h memory w))
        ((item.received memory).dispatch envelopeCallback returnedMessageCallback
          acknowledgeCallback)).run s := by
  cases item with
  | nothing => rfl
  | failed e => rfl
  | acknowledge decoded => exact besideEnvelope_close memory h _ s
  | returned r =>
      obtain ⟨⟨message, moved⟩, method⟩ := r
      cases (show moved = false from hitem)
      exact besideEnvelope_close memory h _ s
  | unreadable message e =>
      obtain ⟨message, moved⟩ := message
      cases (show moved = false from hitem)
      rfl
  | envelope =>
      refine scopeExit_congr ?_
      rw [Item.received, Received.dispatch, Item.dispatch, withLocal_then, run_then]

/-- A connection is a source. -/
theorem Connection.consuming_eq (self : Connection) : self.consuming = self.source.consuming := by
  have himpl (timeout : Option ClockDuration) (envelopeCallback : Callback Envelope Bool)
      (returnedMessageCallback : Callback ReturnedMessage Bool)
      (acknowledgeCallback : AcknowledgeCallback Bool) :
      self.consumeImpl (timeout.map timeValue) envelopeCallback returnedMessageCallback
          acknowledgeCallback =
        self.source.consume timeout envelopeCallback returnedMessageCallback
          acknowledgeCallback := by
    refine ext_run fun s => ?_
    obtain ⟨contents, item, w', hreceive, hfits⟩ :=
      @receive_fits _ self (timeout.map timeValue) s.2
    obtain ⟨memory, item', w'', hreceive', hrun⟩ := @consumeImpl_run _ Bool self envelopeCallback
      returnedMessageCallback acknowledgeCallback (timeout.map timeValue) s.1 s.2
    rw [hreceive] at hreceive'
    cases hreceive'
    refine hrun.trans ((source_close hfits.owns _ _ _ _ _).trans ?_)
    simp only [Source.consume, Connection.source, hreceive]
    rfl
  rw [Connection.consuming, Source.consuming]
  congr
  · funext internalTimeout envelopeCallback returnedMessageCallback acknowledgeCallback
    exact himpl (some internalTimeout) _ _ _
  · funext envelopeCallback returnedMessageCallback acknowledgeCallback
    exact congrArg (fun c : Code (Bool × World) Exc Bool => do let _ ← c; pure ())
      (himpl none _ _ _)

end Connections

/-! ## Streams are sources -/

/-- The number of calls of `consume` that were logged. -/
def World.taken (w : World) : Nat :=
  w.log.countP fun e =>
    match e with
    | .call .consumeMessage _ _ => true
    | _ => false

/-- The `n`-th call receives `f n`; calls are logged with their timeouts. -/
def streamed (f : Nat → Received) : Source where
  take timeout w :=
    (f w.taken,
      w.tell (.call .consumeMessage none (timeout.toList.map fun t => .num t.count)))
  leave _ _ := id

/-! ## The three kinds -/

inductive MessageKind where
  | envelope
  | returnedMessage
  | acknowledge
  deriving DecidableEq, Repr

namespace MessageKind

/-- The user's callback. -/
def Handler : MessageKind → Type
  | envelope => UserCallback Envelope
  | returnedMessage => UserCallback ReturnedMessage
  | acknowledge => UserAcknowledge

/-- The member with a timeout. -/
def timed [Library] (kind : MessageKind) (c : Consume) {p : Period} (timeout : Duration p)
    (callback : kind.Handler) (fuel : Nat) : Code World Exc (Option Bool) :=
  match kind with
  | envelope => c.consumeEnvelope timeout callback fuel
  | returnedMessage => c.consumeReturnedMessage timeout callback fuel
  | acknowledge => c.consumeAcknowledge timeout callback fuel

/-- The member without. -/
def blocking (kind : MessageKind) (c : Consume) (callback : kind.Handler) (fuel : Nat) :
    Code World Exc (Option Unit) :=
  match kind with
  | envelope => c.consumeEnvelopeBlocking callback fuel
  | returnedMessage => c.consumeReturnedMessageBlocking callback fuel
  | acknowledge => c.consumeAcknowledgeBlocking callback fuel

/-- The thing is of the kind. -/
def accepts : MessageKind → Received → Bool
  | envelope, .envelope _ => true
  | returnedMessage, .returned _ _ => true
  | acknowledge, .acknowledge _ => true
  | _, _ => false

/-- The thing is of the kind, or nothing, or an exception. -/
def stops (kind : MessageKind) : Received → Bool
  | .nothing | .failed _ => true
  | received => kind.accepts received

/-- The user's callback with the thing, in the scope of its object. -/
def serve (kind : MessageKind) (callback : kind.Handler) (received : Received) :
    Code World Exc Unit :=
  match kind, callback, received with
  | envelope, callback, .envelope memory =>
      withLocal (AMQPStruct.make memory) Envelope.destroy callback
  | returnedMessage, callback, .returned memory method =>
      withLocal (aReturned memory method) ReturnedMessage.destroy callback
  | acknowledge, callback, .acknowledge decoded => callback decoded
  | _, _, _ => pure ()

/-- The end of a consumer, on the last thing received. -/
def finish (kind : MessageKind) (callback : kind.Handler) : Received → Code World Exc Bool
  | .nothing => pure false
  | .failed e => throw e
  | received => do
      kind.serve callback received
      pure true

end MessageKind

/-- What the consumers of the other kinds do with the thing: its object is destroyed. -/
def Received.ignored (w : World) : Received → World
  | .envelope memory => w.envelopeDestroyed memory.ident
  | .returned memory _ => w.messageDestroyed memory.ident
  | .nothing | .acknowledge _ | .failed _ => w

/-! ## One turn -/

namespace MessageKind

/-- The lambdas of a consumer of the kind. -/
def onEnvelope (kind : MessageKind) (callback : kind.Handler) : Callback Envelope Bool :=
  match kind, callback with
  | envelope, callback => Envelope.passed.calling callback
  | returnedMessage, _ | acknowledge, _ => ignoring Envelope

def onReturned (kind : MessageKind) (callback : kind.Handler) : Callback ReturnedMessage Bool :=
  match kind, callback with
  | returnedMessage, callback => ReturnedMessage.passed.calling callback
  | envelope, _ | acknowledge, _ => ignoring ReturnedMessage

def onAcknowledge (kind : MessageKind) (callback : kind.Handler) : AcknowledgeCallback Bool :=
  match kind, callback with
  | acknowledge, callback => callingAcknowledge callback
  | envelope, _ | returnedMessage, _ => ignoringAcknowledge

variable {kind : MessageKind} {callback : kind.Handler}

theorem timed_eq [Library] (c : Consume) {p : Period} (timeout : Duration p) (fuel : Nat) :
    kind.timed c timeout callback fuel =
      c.untilDone (kind.onEnvelope callback) (kind.onReturned callback)
        (kind.onAcknowledge callback) timeout fuel := by
  cases kind <;> rfl

theorem blocking_eq (c : Consume) (fuel : Nat) :
    kind.blocking c callback fuel =
      c.blockingUntilDone (kind.onEnvelope callback) (kind.onReturned callback)
        (kind.onAcknowledge callback) fuel := by
  cases kind <;> rfl

/-- The thing received, given to the lambdas. -/
def dispatch (kind : MessageKind) (callback : kind.Handler) (received : Received) :
    Code (Bool × World) Exc Bool :=
  received.dispatch (kind.onEnvelope callback) (kind.onReturned callback)
    (kind.onAcknowledge callback)

end MessageKind

/-- The lambda that calls the user's callback, in the scope of the object. -/
theorem calling_run {O : Type} {P : Passed O} {o : O} (ho : P.moved o = false)
    (callback : UserCallback O) (done : Bool) (w : World) :
    (withLocal o (fun o => beside (P.destroy o)) (P.calling callback)).run (done, w) =
      (((withLocal o P.destroy callback).run w).1,
        (true, ((withLocal o P.destroy callback).run w).2)) := by
  have hleft (s : Bool × World) : (beside (P.destroy (P.move o).2)).run s = (.ret (), s) := by
    rw [beside_run, P.destroy_moved _ _ (P.moved_left o)]
  rw [Passed.calling, withLocal_passByValue (P.move_owner ho) hleft, ← withLocal_past]
  refine withLocal_congr ?_
  rw [bind_of_ret (run_modify _ _)]

section Dispatch

variable {kind : MessageKind} {callback : kind.Handler} {received : Received}

theorem dispatch_accepted (h : kind.accepts received = true) (done : Bool) (w : World) :
    (kind.dispatch callback received).run (done, w) =
      (((kind.serve callback received).run w).1.map (fun _ => true),
        (true, ((kind.serve callback received).run w).2)) := by
  cases kind with
  | envelope =>
      cases received with
      | envelope memory =>
          have hscope := calling_run (P := Envelope.passed) (o := AMQPStruct.make memory) rfl
            callback done w
          rw [MessageKind.dispatch, Received.dispatch, run_then]
          exact congrArg (fun q => (q.1.map (fun _ => true), q.2)) hscope
      | nothing | returned _ _ | acknowledge _ | failed _ => cases h
  | returnedMessage =>
      cases received with
      | returned memory method =>
          have hscope := calling_run (P := ReturnedMessage.passed) (o := aReturned memory method)
            rfl callback done w
          rw [MessageKind.dispatch, Received.dispatch, run_then]
          exact congrArg (fun q => (q.1.map (fun _ => true), q.2)) hscope
      | nothing | envelope _ | acknowledge _ | failed _ => cases h
  | acknowledge =>
      cases received with
      | acknowledge decoded =>
          rw [MessageKind.dispatch, Received.dispatch, run_then]
          rfl
      | nothing | envelope _ | returned _ _ | failed _ => cases h

theorem dispatch_skipped (h : kind.stops received = false) (done : Bool) (w : World) :
    (kind.dispatch callback received).run (done, w) = (.ret true, (done, received.ignored w)) := by
  cases received with
  | nothing | failed _ => cases h
  | envelope memory =>
      cases kind with
      | envelope => cases h
      | returnedMessage | acknowledge => rfl
  | returned memory method =>
      cases kind with
      | returnedMessage => cases h
      | envelope | acknowledge => rfl
  | acknowledge decoded =>
      cases kind with
      | acknowledge => cases h
      | envelope | returnedMessage => rfl

theorem finish_accepted (h : kind.accepts received = true) (w : World) :
    (kind.finish callback received).run w =
      (((kind.serve callback received).run w).1.map (fun _ => true),
        ((kind.serve callback received).run w).2) := by
  cases received with
  | nothing | failed _ => cases kind <;> cases h
  | envelope _ => exact run_then (kind.serve callback _) true w
  | returned _ _ => exact run_then (kind.serve callback _) true w
  | acknowledge _ => exact run_then (kind.serve callback _) true w

/-- What a consumer stops at is finished with, and `done` says whether its callback was
called. -/
theorem dispatch_stops (h : kind.stops received = true) (w : World) :
    ∃ done, (∀ r, ((kind.finish callback received).run w).1 = .ret r → (r && !done) = false) ∧
      (kind.dispatch callback received).run (false, w) =
        (((kind.finish callback received).run w).1,
          (done, ((kind.finish callback received).run w).2)) := by
  cases received with
  | nothing =>
      refine ⟨false, fun r hr => ?_, rfl⟩
      cases hr
      rfl
  | failed e => exact ⟨false, by nofun, rfl⟩
  | envelope _ | returned _ _ | acknowledge _ =>
      refine ⟨true, fun r _ => Bool.and_false r, ?_⟩
      rw [finish_accepted h, dispatch_accepted h]

end Dispatch

/-! ## How far a consumer gets -/

/-- The clock's readings at the heads of the turns, what the last turn received with what
is done on the way out of that call (`none` if the consumer goes on), and the world then. -/
structure Progress where
  readings : List ClockDuration
  ending : Option (Received × (World → World))
  world : World

/-- One turn earlier. -/
def Progress.after (p : Progress) (now : ClockDuration) : Progress :=
  { p with readings := now :: p.readings }

/-- The end of a consumer, from where it got. -/
def MessageKind.conclude (kind : MessageKind) (callback : kind.Handler) (p : Progress) :
    Outcome Exc (Option Bool) × World :=
  match p.ending with
  | none => (.ret none, p.world)
  | some (received, leave) =>
      let (o, w) := (scopeExit (modify leave) (kind.finish callback received)).run p.world
      (o.map some, w)

section Runs

variable [Library]

/-- The progress of a consumer with a timeout, `timeout` being what is left of it. -/
def Source.progress (src : Source) (kind : MessageKind) (start : ClockDuration) :
    Nat → ClockDuration → World → Progress
  | 0, _, w => ⟨[], none, w⟩
  | fuel + 1, timeout, w =>
      let now := Library.now w.calls
      let timeout := nextTimeout timeout start now
      let (received, w') := src.take (some timeout) w.tick
      let leave := src.leave (some timeout) w.tick
      if kind.stops received then ⟨[now], some (received, leave), w'⟩
      else (src.progress kind start fuel timeout (leave (received.ignored w'))).after now

variable {src : Source} {kind : MessageKind} {callback : kind.Handler}

/-- One turn of the consumer's loop. -/
def MessageKind.turn (kind : MessageKind) (src : Source) (callback : kind.Handler)
    (start : ClockDuration) (vars : ClockDuration × Bool) :
    Code (Bool × World) Exc (Bool × ClockDuration × Bool) :=
  src.consuming.turn (kind.onEnvelope callback) (kind.onReturned callback)
    (kind.onAcknowledge callback) start vars

section Turn

variable {start timeout timeout' : ClockDuration} {r : Bool} {received : Received} {w w' : World}

omit [Library] in
/-- A call of `consume` by the consumer. -/
theorem source_consume_run (kind : MessageKind) (callback : kind.Handler)
    {t : Option ClockDuration} (htake : src.take t w = (received, w')) :
    (src.consume t (kind.onEnvelope callback) (kind.onReturned callback)
        (kind.onAcknowledge callback)).run (false, w) =
      (scopeExit (beside (modify (src.leave t w))) (kind.dispatch callback received)).run
        (false, w') := by
  show (scopeExit (beside (modify (src.leave t w)))
    (kind.dispatch callback (src.take t w).1)).run (false, (src.take t w).2) = _
  rw [htake]

/-- The head of a turn. -/
theorem turn_head (ht : nextTimeout timeout start (Library.now w.calls) = timeout') :
    (kind.turn src callback start (timeout, r)).run (false, w) =
      (src.consume (some timeout') (kind.onEnvelope callback) (kind.onReturned callback)
        (kind.onAcknowledge callback) >>= fun r => get >>= fun s =>
          pure (r && !s.1, timeout', r)).run (false, w.tick) := by
  have hclock : (beside clockNow : Code (Bool × World) Exc ClockDuration).run (false, w) =
      (.ret (Library.now w.calls), (false, w.tick)) := rfl
  rw [MessageKind.turn, Consume.turn, bind_of_ret hclock, ← ht]
  rfl

theorem turn_skips (ht : nextTimeout timeout start (Library.now w.calls) = timeout')
    (htake : src.take (some timeout') w.tick = (received, w'))
    (h : kind.stops received = false) :
    (kind.turn src callback start (timeout, r)).run (false, w) =
      (.ret (true, timeout', true),
        (false, src.leave (some timeout') w.tick (received.ignored w'))) := by
  have hdispatch := @dispatch_skipped kind callback received h false w'
  have hconsume := (source_consume_run kind callback htake).trans
    (scopeExit_of_ret hdispatch)
  rw [turn_head ht, bind_of_ret hconsume]
  rfl

theorem turn_stops (ht : nextTimeout timeout start (Library.now w.calls) = timeout')
    (htake : src.take (some timeout') w.tick = (received, w'))
    (h : kind.stops received = true) {o : Outcome Exc Bool} {w₂ : World}
    (hend : (scopeExit (modify (src.leave (some timeout') w.tick))
      (kind.finish callback received)).run w' = (o, w₂)) :
    ∃ done, (kind.turn src callback start (timeout, r)).run (false, w) =
      ((o.map (timeout', ·)).map (fun vars => (false, vars)), (done, w₂)) := by
  obtain ⟨done, hdone, hdispatch⟩ := @dispatch_stops kind callback received h w'
  have hconsume := source_consume_run kind callback htake
  refine ⟨done, ?_⟩
  rw [turn_head ht]
  match hfinish : (kind.finish callback received).run w' with
  | (.ret r, w₃) =>
      rw [hfinish] at hdispatch hdone
      rw [scopeExit_of_ret hfinish] at hend
      cases hend
      rw [bind_of_ret (hconsume.trans (scopeExit_of_ret hdispatch))]
      show (Outcome.ret (r && !done, timeout', r), _) = _
      rw [hdone r rfl]
      rfl
  | (.thrown e, w₃) =>
      rw [hfinish] at hdispatch
      rw [scopeExit_of_thrown hfinish] at hend
      cases hend
      rw [bind_of_thrown (hconsume.trans (scopeExit_of_thrown hdispatch))]
      rfl
  | (.terminate, w₃) =>
      rw [hfinish] at hdispatch
      simp only [scopeExit, hfinish] at hend
      cases hend
      simp only [run_bind, hconsume, scopeExit, hdispatch, Outcome.map]

end Turn

/-- The loop of a consumer: its progress, and then the end of it. -/
theorem timedLoop_run (start : ClockDuration) (fuel : Nat) (timeout : ClockDuration) (r : Bool)
    (w : World) :
    ∃ (o : Outcome Exc (Option (ClockDuration × Bool))) (done : Bool) (w' : World),
      (doWhile (kind.turn src callback start) fuel (timeout, r)).run (false, w) =
        (o, (done, w')) ∧
      kind.conclude callback (src.progress kind start fuel timeout w) =
        (o.map (Option.map Prod.snd), w') := by
  induction fuel generalizing timeout r w with
  | zero => exact ⟨.ret none, false, w, rfl, rfl⟩
  | succ fuel ih =>
      generalize ht : nextTimeout timeout start (Library.now w.calls) = timeout'
      obtain ⟨received, w', htake⟩ : ∃ received w',
          src.take (some timeout') w.tick = (received, w') := ⟨_, _, rfl⟩
      rw [Source.progress, ht, htake]
      dsimp only
      cases h : kind.stops received with
      | false =>
          rw [doWhile_again (turn_skips ht htake h), if_neg Bool.false_ne_true]
          exact ih timeout' true _
      | true =>
          obtain ⟨o, w₂, hend⟩ : ∃ o w₂, (scopeExit (modify (src.leave (some timeout') w.tick))
              (kind.finish callback received)).run w' = (o, w₂) := ⟨_, _, rfl⟩
          obtain ⟨done, hturn⟩ := turn_stops (r := r) ht htake h hend
          refine ⟨_, done, w₂, doWhile_last hturn, ?_⟩
          rw [if_pos rfl]
          show ((((scopeExit _ _).run w').1.map some), ((scopeExit _ _).run w').2) = _
          rw [hend]
          cases o <;> rfl

/-- A consumer with a timeout. -/
theorem timed_run {p : Period} (timeout : Duration p) (fuel : Nat) (w : World) :
    (kind.timed src.consuming timeout callback fuel).run w =
      kind.conclude callback (src.progress kind (Library.now w.calls) fuel
        (durationCast .nanoseconds timeout) w.tick) := by
  obtain ⟨o, done, w', hloop, hconclude⟩ := @timedLoop_run _ src kind callback
    (Library.now w.calls) fuel (durationCast .nanoseconds timeout) false w.tick
  have hclock : (beside clockNow : Code (Bool × World) Exc ClockDuration).run (false, w) =
      (.ret (Library.now w.calls), (false, w.tick)) := rfl
  have hmap := run_map (Option.map Prod.snd) (doWhile (kind.turn src callback
    (Library.now w.calls)) fuel (durationCast .nanoseconds timeout, false)) (false, w.tick)
  rw [hloop] at hmap
  rw [hconclude, MessageKind.timed_eq, Consume.untilDone]
  exact withLocal_of_idle ((bind_of_ret hclock).trans hmap) rfl

end Runs
end RmqCxx
