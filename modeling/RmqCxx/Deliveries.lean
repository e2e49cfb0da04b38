/-
# `RmqCxx.Deliveries` — what the worker's callback is given

The answers of the library are numbered, and each is given once.  A message that the worker's
callback puts into the queue is made of one answer of `amqp_consume_message`, a delivery, so a
poll puts there what was delivered since it began, in the order of the answers
(`poll_emplaces`).
-/
import RmqCxx.AdvConsumer
import RmqCxx.Idling
import RmqCxx.QuietCalls

namespace RmqCxx

open Cpp Code

variable [Library]

/-! ## Receiving -/

section Receiving

variable (self : Connection) (tv : Option Timeval)

omit [Library] in
theorem idling_later : Idling World.Later where
  fresh w := Nat.le_refl w.calls
  tick w := Nat.le_succ w.calls
  taking w _ _ _ _ _ := Nat.le_succ w.calls
  envelope w _ := Nat.le_refl w.calls
  message w _ := Nat.le_refl w.calls
  released w _ := Nat.le_refl w.calls

/-- The clock is read, and a delivery is asked for. -/
theorem receive_calls (w : World) : w.calls + 2 ≤ ((self.receive tv).run w).2.calls := by
  rw [Connection.receive, bind_of_ret (newIdent_run w), bind_of_ret (clockNow_run w.fresh),
    bind_of_ret (amqpConsumeMessage_run w.fresh.tick self.connection_ w.nextIdent tv 0)]
  have hrest := keeps_bind (receiveItem_idles idling_later self tv (Library.now w.fresh.calls)
    ((w.fresh.tick.conns self.connection_).placeReply self.connection_
      (Library.consumeMessage w.fresh.tick.calls).reply)
    ((Library.consumeMessage w.fresh.tick.calls).envelope.fill w.nextIdent))
    fun item => keeps_pure (R := World.Later) (AMQPStruct.make
      ((Library.consumeMessage w.fresh.tick.calls).envelope.fill w.nextIdent), item)
  exact hrest (w.fresh.tick.afterTaking self.connection_ .consumeMessage [.timeval tv, .num 0]
    (Library.consumeMessage w.fresh.tick.calls).queued)

omit [Library] in
theorem quiet_envelopeDestroyed (w : World) (ident : Nat) : w.Quiet (w.envelopeDestroyed ident) :=
  .of_tell (Nat.le_refl w.calls) rfl rfl

omit [Library] in
theorem quiet_messageDestroyed (w : World) (ident : Nat) : w.Quiet (w.messageDestroyed ident) :=
  .of_tell (Nat.le_refl w.calls) rfl rfl

omit [Library] in
theorem quiet_released (w : World) (h : Handle) : w.Quiet (w.released h) :=
  .of_tell (Nat.le_refl w.calls) rfl rfl

omit [Library] in
/-- What is dispatched outside the scope of the envelope. -/
theorem keeps_dispatchFrame {L : Type} {S : L × World → L × World → Prop} [Std.Refl S]
    [IsTrans (L × World) S] (hS : ∀ l w w', w.Quiet w' → S (l, w) (l, w'))
    {returned : Callback ReturnedMessage L} (hreturned : Keeps (Beneath S) returned)
    {acknowledge : AcknowledgeCallback L} (hacknowledge : ∀ ack, Keeps S (acknowledge ack))
    (item : Item) : Keeps S (item.dispatchFrame returned acknowledge) := by
  have hmessage (m : Message) : Keeps S (beside (Message.destroy m) : Code (L × World) Exc Unit) :=
    keeps_beside_of hS (keeps_noexcept (keeps_ite (keeps_pure ()) fun w => quiet_messageDestroyed w _))
  cases item with
  | nothing | envelope => exact keeps_pure false
  | acknowledge decoded => exact keeps_bind (hacknowledge decoded) fun _ => keeps_pure true
  | returned r =>
      exact keeps_bind (keeps_withLocal (fun r => hmessage r.message_) hreturned) fun _ =>
        keeps_pure true
  | failed e => exact keeps_throw e
  | unreadable message e => exact keeps_withLocal hmessage (keeps_throw e)

end Receiving

/-! ## Deliveries -/

namespace Consumer

/-- The message that is made of the `a.1`-th answer, when it comes over `a.2`. -/
def delivery (a : Nat × Handle) : Message :=
  ⟨(Library.consumeMessage a.1).envelope.deliveryTag,
    (Library.consumeMessage a.1).envelope.message.body, a.2⟩

/-- The `n`-th answer is a delivery. -/
def IsDelivery (n : Nat) : Prop :=
  (Library.consumeMessage n).reply.replyType = .normal ∧
    (Library.consumeMessage n).envelope.channel ≠ 0

/-- Deliveries, each of one answer, in the order of the answers from `first` up to `last`. -/
structure Deliveries (first last : Nat) (answers : List (Nat × Handle)) : Prop where
  ordered : answers.Pairwise fun a b => a.1 < b.1
  among : ∀ a ∈ answers, first ≤ a.1 ∧ a.1 < last ∧ IsDelivery a.1

section Answers

variable {first middle last : Nat} {answers answers' : List (Nat × Handle)}

theorem Deliveries.nil : Deliveries first last [] := ⟨.nil, List.forall_mem_nil _⟩

theorem Deliveries.single {a : Nat × Handle} (hfirst : first ≤ a.1) (hlast : a.1 < last)
    (ha : IsDelivery a.1) : Deliveries first last [a] :=
  ⟨List.pairwise_singleton _ _, List.forall_mem_singleton.mpr ⟨hfirst, hlast, ha⟩⟩

theorem Deliveries.mono (h : Deliveries first middle answers) (hlast : middle ≤ last) :
    Deliveries first last answers := by
  refine ⟨h.ordered, fun a ha => ?_⟩
  obtain ⟨hfirst, hlt, hdelivery⟩ := h.among a ha
  exact ⟨hfirst, Nat.lt_of_lt_of_le hlt hlast, hdelivery⟩

theorem Deliveries.append (h : Deliveries first middle answers)
    (h' : Deliveries middle last answers') (hfirst : first ≤ middle) (hlast : middle ≤ last) :
    Deliveries first last (answers ++ answers') := by
  refine ⟨List.pairwise_append.mpr ⟨h.ordered, h'.ordered, fun a ha b hb => ?_⟩, fun a ha => ?_⟩
  · exact Nat.lt_of_lt_of_le (h.among a ha).2.1 (h'.among b hb).1
  · rcases List.mem_append.mp ha with ha | ha
    · exact (h.mono hlast).among a ha
    · obtain ⟨hle, hlt, hdelivery⟩ := h'.among a ha
      exact ⟨Nat.le_trans hfirst hle, hlt, hdelivery⟩

theorem Deliveries.sublist (h : Deliveries first last answers)
    (hsub : answers'.Sublist answers) : Deliveries first last answers' :=
  ⟨h.ordered.sublist hsub, fun a ha => h.among a (hsub.subset ha)⟩

end Answers

section Turns

variable {via : Handle}

/-- Nothing arrived, and nothing was waited for. -/
def Untouched (s s' : (Bool × List Message) × World) : Prop := s'.1 = s.1 ∧ s.2.Quiet s'.2

omit [Library] in
instance : Std.Refl Untouched := ⟨fun s => ⟨rfl, refl s.2⟩⟩

omit [Library] in
instance : IsTrans ((Bool × List Message) × World) Untouched :=
  ⟨fun _ _ _ h h' => ⟨h'.1.trans h.1, IsTrans.trans _ _ _ h.2 h'.2⟩⟩

omit [Library] in
/-- The scope of an envelope that was delivered: the callback takes it, and keeps its
message. -/
theorem emplace_run (self : Connection) (memory : AmqpEnvelope) (via : Handle) (done : Bool)
    (arrived : List Message) (w : World) :
    ∃ w', (defer (beside (amqpMaybeReleaseBuffers self.connection_))
        (withLocal (AMQPStruct.make memory) (fun e => beside (Envelope.destroy e))
          (Item.envelope.dispatch (Envelope.passed.callingWith (emplace via))
            (passByRef fun _ => pure ()) (fun _ => pure ())))).run ((done, arrived), w) =
        (.ret true, ((true, arrived ++ [⟨memory.deliveryTag, memory.message.body.data, via⟩]),
          w')) ∧
      w.Quiet w' :=
  ⟨_, rfl, IsTrans.trans _ _ _ (quiet_envelopeDestroyed w _) (quiet_released _ self.connection_)⟩

/-- What a call of `consume` from `w` did: either it made a delivery, and returned, or the
callback was not called. -/
structure Consumed (via : Handle) (w : World) (arrived : List Message)
    (r : Outcome Exc Bool × (Bool × List Message) × World) : Prop where
  calls : w.calls + 2 ≤ r.2.2.calls
  arrival : r.2.1 = (false, arrived) ∨
    r.1 = .ret true ∧ r.2.1 = (true, arrived ++ [delivery (w.calls + 1, via)]) ∧
      IsDelivery (w.calls + 1)

/-- One call of `consume`. -/
theorem consume_takes (via : Handle) {p : Period} (self : Connection) (timeout : Duration p)
    (arrived : List Message) (w : World) :
    Consumed via w arrived ((self.consume timeout (Envelope.passed.callingWith (emplace via))
        (passByRef fun _ => pure ()) (fun _ => pure ())).run ((false, arrived), w)) ∧
      ((self.consume timeout (Envelope.passed.callingWith (emplace via))
        (passByRef fun _ => pure ()) (fun _ => pure ())).run ((false, arrived), w)).2.2.waits =
        w.waits ++ seenWaits anyWait (some (timeValue timeout)) w := by
  obtain ⟨memory, item, v, hreceive, hrun⟩ := consumeImpl_run (some (timeValue timeout))
    (false, arrived) w
  have hcalls := receive_calls self (some (timeValue timeout)) w
  have hwaits := @receive_observe _ self _ _ anyWait_ofWaits (some (timeValue timeout)) w
  obtain ⟨item', v', hreceive', hreceives⟩ := receive_receives self (some (timeValue timeout)) w
  rw [Code.Leaves, hreceive] at hwaits
  rw [hreceive] at hcalls hreceive'
  cases hreceive'
  rw [Connection.consume, hrun]
  by_cases hitem : item = .envelope
  · subst hitem
    cases hreceives with
    | delivery htype hchannel =>
        obtain ⟨w', hemplace, hquiet⟩ := emplace_run self
          ((deliveryAnswer w).envelope.fill w.nextIdent) via false arrived v
        rw [hemplace]
        exact ⟨⟨Nat.le_trans hcalls hquiet.later, .inr ⟨rfl, rfl, htype, hchannel⟩⟩,
          hquiet.waits.trans hwaits⟩
  · have hS (l : Bool × List Message) (w w' : World) (h : w.Quiet w') :
        Untouched (l, w) (l, w') := ⟨rfl, h⟩
    have hrelease : Keeps Untouched (beside (amqpMaybeReleaseBuffers self.connection_) :
        Code ((Bool × List Message) × World) Exc Unit) :=
      keeps_beside_of hS fun w => quiet_released w self.connection_
    have hdestroy (e : Envelope) : Keeps Untouched (beside (Envelope.destroy e) :
        Code ((Bool × List Message) × World) Exc Unit) :=
      keeps_beside_of hS (keeps_noexcept (keeps_ite (keeps_pure ()) fun w =>
        quiet_envelopeDestroyed w _))
    rw [dispatch_of_ne hitem]
    obtain ⟨hsame, hquiet⟩ := keeps_scopeExit hrelease (keeps_withLocal
      (o := AMQPStruct.make ((deliveryAnswer w).envelope.fill w.nextIdent)) hdestroy
      (keeps_beside (keeps_dispatchFrame hS (keeps_passByRef fun _ => keeps_pure ())
        (fun _ => keeps_pure ()) item))) ((false, arrived), v)
    exact ⟨⟨Nat.le_trans hcalls hquiet.later, .inl hsame⟩, hquiet.waits.trans hwaits⟩

/-- What a turn of the loop from `w` did, with `internalTimeout` left: what it gave to the
callback was delivered meanwhile, and is the last thing it did. -/
structure Takes (via : Handle) (internalTimeout : ClockDuration) (w : World)
    (r : Outcome Exc (Bool × ClockDuration × Bool) × List Message × World) : Prop where
  later : w.Later r.2.2
  waits : r.2.2.waits = w.waits ++ seenWaits anyWait (some (timeValue internalTimeout)) w.tick
  answers : ∃ answers, r.2.1 = answers.map delivery ∧
    Deliveries w.calls r.2.2.calls answers ∧ ∀ a ∈ answers, a.2 = via
  timeout : ∀ again vars, r.1 = .ret (again, vars) → vars.1 = internalTimeout
  last : r.2.1 = [] ∨ ∃ vars, r.1 = .ret (false, vars)

theorem turn_takes (locals : Locals) (start : ClockDuration) (vars : ClockDuration × Bool)
    (w : World) :
    Takes locals.connection.connection_ (nextTimeout vars.1 start (Library.now w.calls)) w
      ((locals.turn start vars).run ([], w)) := by
  obtain ⟨hconsumed, hwaits⟩ := consume_takes locals.connection.connection_
    locals.connection (nextTimeout vars.1 start (Library.now w.calls)) [] w.tick
  match hr : (locals.connection.consume (nextTimeout vars.1 start (Library.now w.calls))
      (Envelope.passed.callingWith (emplace locals.connection.connection_))
      (passByRef fun _ => pure ()) fun _ => pure ()).run ((false, []), w.tick) with
  | (o, ((done, arrived), w')) =>
      rw [hr] at hconsumed hwaits
      obtain ⟨hcalls, harrival⟩ := hconsumed
      have hlater : w.calls + 1 + 2 ≤ w'.calls := hcalls
      have hrun : (locals.turn start vars).run ([], w) = _ :=
        locals.connection.turnAlone_run (emplace locals.connection.connection_) hr
      have htimeout (again : Bool) (vars' : ClockDuration × Bool)
          (h : (o.map fun r => (r && !done, nextTimeout vars.1 start (Library.now w.calls), r)) =
            .ret (again, vars')) :
          vars'.1 = nextTimeout vars.1 start (Library.now w.calls) := by
        cases o with
        | ret r =>
            cases h
            rfl
        | thrown _ | terminate => cases h
      rw [hrun]
      rcases harrival with harrival | ⟨rfl, harrival, hdelivery⟩
      · cases harrival
        exact ⟨by dsimp only [World.Later]; omega, hwaits, ⟨[], rfl, .nil, List.forall_mem_nil _⟩,
          htimeout, .inl rfl⟩
      · cases harrival
        refine ⟨by dsimp only [World.Later]; omega, hwaits,
          ⟨[(w.calls + 2, locals.connection.connection_)], rfl, ?_, ?_⟩, htimeout, .inr ⟨_, rfl⟩⟩
        · exact .single (Nat.le_add_right _ 2) hlater hdelivery
        · exact List.forall_mem_singleton.mpr rfl

end Turns
end Consumer
end RmqCxx
