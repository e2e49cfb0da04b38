/-
# `RmqCxx.MainLoops` — the programs `consumer.cpp` and `publisher.cpp`

Each sets up a connection and what is on it, and then receives in a loop, with a timeout of
one second, until an exception of the wrapper's own is caught.  `MainLoop` is what the two
have in common; a step is the set-up, one turn of the loop, or the end of `main`.  What is
thrown during the set-up is not caught, and ends the program where it stands.

What the programs write to `cout` and `cerr` is left out, and with it what `consumer.cpp`
reads of the declared queue.  The callback of `publisher.cpp` only writes: here it is what
it reads for that.
-/
import RmqCxx.AdvConsumer

namespace RmqCxx

open Cpp Code

/-! ## Loops in `main` -/

/-- A `main` function, after whose set-up there are the locals `L`. -/
structure MainLoop (L : Type) where
  setUp : Code World Exc L
  /-- The call in the `try` block, up to `fuel` turns of the loop inside it. -/
  receive (locals : L) (fuel : Nat) : Code World Exc (Option Bool)
  destroy (locals : L) : Code World Exc Unit

namespace MainLoop

inductive Stage (L : Type) where
  | starting
  /-- At the head of the loop. -/
  | looping (locals : L)
  /-- After the loop. -/
  | leaving (locals : L)
  | returned
  /-- Something was not caught, or left a function that does not throw. -/
  | aborted

structure State (L : Type) where
  stage : Stage L
  world : World

variable {L : Type}

def State.initial : State L := ⟨.starting, .initial⟩

/-- The program goes on. -/
def step (main : MainLoop L) (fuel : Nat) (s : State L) : Option (State L) :=
  match s.stage with
  | .starting =>
      match main.setUp.run s.world with
      | (.ret locals, w) => some ⟨.looping locals, w⟩
      | (.thrown _, w) | (.terminate, w) => some ⟨.aborted, w⟩
  | .looping locals =>
      match (main.receive locals fuel).run s.world with
      | (.ret (some _), w) => some ⟨.looping locals, w⟩
      | (.ret none, _) => none
      | (.thrown e, w) => some ⟨if Consumer.caughtBy e then .leaving locals else .aborted, w⟩
      | (.terminate, w) => some ⟨.aborted, w⟩
  | .leaving locals =>
      match (main.destroy locals).run s.world with
      | (.ret _, w) => some ⟨.returned, w⟩
      | (.thrown _, w) | (.terminate, w) => some ⟨.aborted, w⟩
  | .returned | .aborted => none

/-- The ways in which a program goes on. -/
inductive Stepped (main : MainLoop L) (fuel : Nat) : State L → State L → Prop
  | setUp {locals : L} {w w' : World} (h : main.setUp.run w = (.ret locals, w')) :
      Stepped main fuel ⟨.starting, w⟩ ⟨.looping locals, w'⟩
  | refused {o : Outcome Exc L} {w w' : World} (h : main.setUp.run w = (o, w'))
      (ho : ∀ locals, o ≠ .ret locals) : Stepped main fuel ⟨.starting, w⟩ ⟨.aborted, w'⟩
  | received {locals : L} {r : Bool} {w w' : World}
      (h : (main.receive locals fuel).run w = (.ret (some r), w')) :
      Stepped main fuel ⟨.looping locals, w⟩ ⟨.looping locals, w'⟩
  | caught {locals : L} {e : Exc} {w w' : World}
      (h : (main.receive locals fuel).run w = (.thrown e, w'))
      (he : Consumer.caughtBy e = true) :
      Stepped main fuel ⟨.looping locals, w⟩ ⟨.leaving locals, w'⟩
  | uncaught {locals : L} {o : Outcome Exc (Option Bool)} {w w' : World}
      (h : (main.receive locals fuel).run w = (o, w')) (hret : ∀ r, o ≠ .ret r)
      (hcaught : ∀ e, o = .thrown e → Consumer.caughtBy e = false) :
      Stepped main fuel ⟨.looping locals, w⟩ ⟨.aborted, w'⟩
  | left {locals : L} {w w' : World} (h : (main.destroy locals).run w = (.ret (), w')) :
      Stepped main fuel ⟨.leaving locals, w⟩ ⟨.returned, w'⟩
  | undestroyed {locals : L} {o : Outcome Exc Unit} {w w' : World}
      (h : (main.destroy locals).run w = (o, w')) (ho : o ≠ .ret ()) :
      Stepped main fuel ⟨.leaving locals, w⟩ ⟨.aborted, w'⟩

section Step

variable {main : MainLoop L} {fuel : Nat} {s t : State L}

theorem step_stepped (h : main.step fuel s = some t) : Stepped main fuel s t := by
  obtain ⟨stage, w⟩ := s
  cases stage with
  | starting =>
      match hr : main.setUp.run w with
      | (.ret locals, w') =>
          simp only [step, hr, Option.some.injEq] at h
          subst h
          exact .setUp hr
      | (.thrown _, w') | (.terminate, w') =>
          simp only [step, hr, Option.some.injEq] at h
          subst h
          exact .refused hr (by nofun)
  | looping locals =>
      match hr : (main.receive locals fuel).run w with
      | (.ret (some r), w') =>
          simp only [step, hr, Option.some.injEq] at h
          subst h
          exact .received hr
      | (.ret none, w') =>
          simp only [step, hr] at h
          cases h
      | (.thrown e, w') =>
          simp only [step, hr, Option.some.injEq] at h
          subst h
          cases he : Consumer.caughtBy e with
          | true =>
              rw [if_pos rfl]
              exact .caught hr he
          | false =>
              rw [if_neg Bool.false_ne_true]
              refine .uncaught hr (by nofun) fun _ hthrown => ?_
              cases hthrown
              exact he
      | (.terminate, w') =>
          simp only [step, hr, Option.some.injEq] at h
          subst h
          refine .uncaught hr (by nofun) fun e he => ?_
          cases he
  | leaving locals =>
      match hr : (main.destroy locals).run w with
      | (.ret (), w') =>
          simp only [step, hr, Option.some.injEq] at h
          subst h
          exact .left hr
      | (.thrown _, w') | (.terminate, w') =>
          simp only [step, hr, Option.some.injEq] at h
          subst h
          exact .undestroyed hr (by nofun)
  | returned | aborted => cases h

/-- What every piece of the program keeps, its runs keep. -/
theorem visits_of_keeps {R : World → World → Prop} [Std.Refl R] [IsTrans World R]
    (hsetUp : Keeps R main.setUp) (hreceive : ∀ locals fuel, Keeps R (main.receive locals fuel))
    (hdestroy : ∀ locals, Keeps R (main.destroy locals)) (fuels : List Nat) :
    Visits main.step (fun s => R .initial s.world) .initial fuels := by
  refine visits_of_step (fun hs h => ?_) (refl (r := R) World.initial)
  cases step_stepped h with
  | setUp hrun | refused hrun _ =>
      exact IsTrans.trans _ _ _ hs (related_of_run hsetUp hrun)
  | received hrun | caught hrun _ | uncaught hrun _ _ =>
      exact IsTrans.trans _ _ _ hs (related_of_run (hreceive _ _) hrun)
  | left hrun | undestroyed hrun _ =>
      exact IsTrans.trans _ _ _ hs (related_of_run (hdestroy _) hrun)

end Step
end MainLoop

variable [Library]

/-! ## `consumer.cpp` -/

section Consumer

/-- `[&channel] (Envelope envelope) { ... channel.ack(envelope->delivery_tag, false) ... }`. -/
def acknowledging (channel : Channel) : UserCallback Envelope :=
  passByValue Envelope.passed.move Envelope.destroy do
    let (envelope, _) ← get
    let _ ← beside (channel.ack envelope.memory_.deliveryTag false)
    pure ()

/-- From `exchange.declare` to `queue.bind`. -/
def consumerQueues (connection : Connection) (channel : Channel) :
    Code World Exc Consumer.Locals := do
  let queue := Queue.make channel "queue0"
  let exchange := Exchange.make channel "exchange0"
  exchange.declare "topic" false false true []
  let arg ← Consumer.queueType
  let _ ← queue.declare false true false false [arg]
  let _ ← queue.consume "" false false false []
  queue.bind "exchange0" "#" []
  pure ⟨connection, channel, arg⟩

def consumerMain : MainLoop Consumer.Locals where
  setUp := do
    let connection ← Connection.makePlain "172.17.0.2" 5672 "guest" "guest" "consumer-test"
      0 131072 1 (⟨1⟩ : Duration .seconds)
    let channel ← Channel.make connection 1
    consumerQueues connection channel
  receive locals fuel :=
    locals.connection.consuming.consumeEnvelope (⟨1⟩ : Duration .seconds)
      (acknowledging locals.channel) fuel
  destroy locals := locals.destroy

end Consumer

/-! ## `publisher.cpp` -/

section Publisher

/-- The locals of `main` that have destructors. -/
structure PublisherLocals where
  connection : Connection
  channel : Channel

/-- `container<string>` of each of the strings. -/
def copies : List Bytes → Code World Exc Unit
  | [] => pure ()
  | b :: strings => do
      let _ ← containerString b
      copies strings

/-- What the callback reads of the message and of the method. -/
def reading : UserCallback ReturnedMessage :=
  passByValue ReturnedMessage.passed.move ReturnedMessage.destroy do
    let (returnedMessage, _) ← get
    let method := returnedMessage.method_
    beside (copies [returnedMessage.message_.memory_.body, method.replyText, method.exchange,
      method.routingKey])

def publisherMain : MainLoop PublisherLocals where
  setUp := do
    let connection ← Connection.makePlain "172.17.0.2" 5672 "guest" "guest" "/"
      0 131072 1 (⟨1⟩ : Duration .seconds)
    let channel ← Channel.make connection 1
    let exchange := Exchange.make channel "publish_exchange"
    exchange.declare "topic" false false false []
    channel.publish exchange.name_ "nokey" true false "body" []
    pure ⟨connection, channel⟩
  receive locals fuel :=
    locals.connection.consuming.consumeReturnedMessage (⟨1⟩ : Duration .seconds) reading fuel
  destroy locals := do
    locals.channel.destroy
    locals.connection.destroy

end Publisher
end RmqCxx
