/-
# `RmqCxx.Dispatches` — one consume call dispatches what arrives once

The callbacks are recorded: what each call of one was given, and how it ended.  A call of
`consumeImpl` calls one of them once and ends as that one does, or calls none and returns
false or throws an exception of its own; `Arrived` and `TimedOut` say which, by the
library's answers.
-/
import RmqCxx.Arrivals

namespace RmqCxx

open Cpp Code

/-! ## Recorded callbacks -/

/-- What a callback was called with. -/
inductive Called where
  | envelope (memory : AmqpEnvelope)
  | returned (r : ReturnedMessage)
  | acknowledge (decoded : BasicAck)
  deriving DecidableEq, Repr

/-- The calls of callbacks, each with how it ended. -/
abbrev Calls := List (Called × Outcome Exc Unit)

section Recording

variable {O L : Type}

/-- The callback, with its calls recorded. -/
def recording (given : O → Called) (callback : Callback O L) : Callback O (Calls × L) :=
  ⟨fun s =>
    let (o, (calls, l), w) := s
    let (r, (o', l', w')) := callback.run (o, l, w)
    (r, (o', (calls ++ [(given o, r)], l'), w'))⟩

def recordingAcknowledge (callback : AcknowledgeCallback L) : AcknowledgeCallback (Calls × L) :=
  fun decoded => ⟨fun s =>
    let ((calls, l), w) := s
    let (r, (l', w')) := (callback decoded).run (l, w)
    (r, ((calls ++ [(.acknowledge decoded, r)], l'), w'))⟩

end Recording

/-! ## What there is to dispatch -/

section Arrivals

variable [Library] (self : Connection) (tv : Option Timeval) (w : World)

/-- There is something for a callback, with this data. -/
def Arrived : Called → Prop
  | .envelope memory =>
      (deliveryAnswer w).reply.replyType = .normal ∧ (deliveryAnswer w).envelope.channel ≠ 0 ∧
        memory = (deliveryAnswer w).envelope.fill w.nextIdent
  | .acknowledge decoded =>
      FrameTaken tv w ∧ (frameAnswer tv w).payload = .method (.basicAck decoded)
  | .returned r =>
      FrameTaken tv w ∧ (contentAnswer tv w).reply.replyType = .normal ∧
        ∃ decoded, (frameAnswer tv w).payload = .method (.basicReturn decoded) ∧
          r = ⟨readInto tv w, decoded.map (self.inPool tv w)⟩

/-- One of the two waits timed out, or the envelope has channel 0. -/
def TimedOut : Prop :=
  ((deliveryAnswer w).reply.replyType = .normal ∧ (deliveryAnswer w).envelope.channel = 0) ∨
  ((deliveryAnswer w).reply.replyType = .libraryException ∧
    (deliveryAnswer w).reply.libraryError = .timeout) ∨
  (Unexpected (deliveryAnswer w).reply ∧ (frameAnswer tv w).status = .timeout)

/-- The exception is one of rmqcxx. -/
def Exc.IsOwn (e : Exc) : Prop := ∀ tag, e ≠ .foreign tag

/-- The three ways a call of `consumeImpl` goes, each exactly when it should. -/
inductive DispatchedOnce : Calls → Outcome Exc Bool → Prop
  | called {c : Called} (harrived : Arrived self tv w c) (honly : ∀ c', Arrived self tv w c' → c' = c)
      (hnot : ¬ TimedOut tv w) (o : Outcome Exc Unit) :
      DispatchedOnce [(c, o)] (o.map fun _ => true)
  | timedOut (hnone : ∀ c, ¬ Arrived self tv w c) (htimedOut : TimedOut tv w) :
      DispatchedOnce [] (.ret false)
  | thrown (hnone : ∀ c, ¬ Arrived self tv w c) (hnot : ¬ TimedOut tv w) {e : Exc}
      (hown : e.IsOwn) : DispatchedOnce [] (.thrown e)

end Arrivals

/-! ## What is received is what has arrived -/

/-- What a callback is given of the item, if one is called. -/
def Item.given (memory : AmqpEnvelope) : Item → Option Called
  | .envelope => some (.envelope memory)
  | .acknowledge decoded => some (.acknowledge decoded)
  | .returned r => some (.returned r)
  | .nothing | .failed _ | .unreadable _ _ => none

def Item.IsNothing : Item → Prop
  | .nothing => True
  | _ => False

section Received

variable [Library] {self : Connection} {tv : Option Timeval} {w : World} {item : Item}

/-- Once the frame was taken, what has arrived is in its payload. -/
theorem arrived_iff_payload (htaken : FrameTaken tv w) (c : Called) :
    Arrived self tv w c ↔
      match c with
      | .envelope _ => False
      | .acknowledge decoded => (frameAnswer tv w).payload = .method (.basicAck decoded)
      | .returned r => (contentAnswer tv w).reply.replyType = .normal ∧
          ∃ decoded, (frameAnswer tv w).payload = .method (.basicReturn decoded) ∧
            r = ⟨readInto tv w, decoded.map (self.inPool tv w)⟩ := by
  have htype := htaken.1.1
  cases c with
  | envelope memory => simp [Arrived, htype]
  | acknowledge decoded => simp [Arrived, htaken]
  | returned r => simp [Arrived, htaken]

/-- Before, it is a delivery. -/
theorem arrived_iff_delivery (hnone : ¬ FrameTaken tv w) (c : Called) :
    Arrived self tv w c ↔
      (deliveryAnswer w).reply.replyType = .normal ∧ (deliveryAnswer w).envelope.channel ≠ 0 ∧
        c = .envelope ((deliveryAnswer w).envelope.fill w.nextIdent) := by
  cases c with
  | envelope memory => simp [Arrived]
  | acknowledge decoded => simp [Arrived, hnone]
  | returned r => simp [Arrived, hnone]

theorem not_timedOut_of_taken (htaken : FrameTaken tv w) : ¬ TimedOut tv w := by
  obtain ⟨⟨htype, herror⟩, hstatus⟩ := htaken
  simp [TimedOut, htype, herror, hstatus]

theorem arrived_iff (h : Receives self tv w item) (c : Called) :
    Arrived self tv w c ↔
      item.given ((deliveryAnswer w).envelope.fill w.nextIdent) = some c := by
  cases h with
  | delivery htype hchannel =>
      have hnone : ¬ FrameTaken tv w := by simp [FrameTaken, Unexpected, htype]
      simp [arrived_iff_delivery hnone, htype, hchannel, Item.given, eq_comm]
  | channelZero htype hchannel =>
      have hnone : ¬ FrameTaken tv w := by simp [FrameTaken, Unexpected, htype]
      simp [arrived_iff_delivery hnone, hchannel, Item.given]
  | firstTimeout htype herror | socketError htype herror =>
      have hnone : ¬ FrameTaken tv w := by simp [FrameTaken, Unexpected, herror]
      simp [arrived_iff_delivery hnone, htype, Item.given]
  | otherError htype herror htimeout _ what =>
      have hnone : ¬ FrameTaken tv w := by simp [FrameTaken, Unexpected, herror]
      simp [arrived_iff_delivery hnone, htype, Item.given]
  | otherReply hnormal hlibrary what =>
      have hnone : ¬ FrameTaken tv w := by simp [FrameTaken, Unexpected, hlibrary]
      simp [arrived_iff_delivery hnone, hnormal, Item.given]
  | secondTimeout harrived hstatus =>
      have hnone : ¬ FrameTaken tv w := by simp [FrameTaken, hstatus]
      simp [arrived_iff_delivery hnone, harrived.1, Item.given]
  | otherStatus harrived hok htimeout what =>
      have hnone : ¬ FrameTaken tv w := by simp [FrameTaken, hok]
      simp [arrived_iff_delivery hnone, harrived.1, Item.given]
  | otherFrame htaken hpayload what | otherMethod htaken hpayload what
  | channelClose htaken hpayload | connectionClose htaken hpayload =>
      cases c <;> simp [arrived_iff_payload htaken, hpayload, Item.given]
  | acknowledge htaken hpayload =>
      cases c <;> simp [arrived_iff_payload htaken, hpayload, Item.given]
  | returned htaken hpayload hread =>
      cases c <;> simp [arrived_iff_payload htaken, hpayload, hread, Item.given, eq_comm]
  | unreadable htaken hpayload hread =>
      have hnot : (contentAnswer tv w).reply.replyType ≠ .normal := by
        intro hnormal
        rw [processReply_ok_iff.mpr (show (self.contentReply tv w).replyType = _ from hnormal)]
          at hread
        cases hread
      cases c <;> simp [arrived_iff_payload htaken, hpayload, hnot, Item.given]

theorem timedOut_iff (h : Receives self tv w item) : TimedOut tv w ↔ item.IsNothing := by
  cases h with
  | channelZero htype hchannel => simp [TimedOut, Item.IsNothing, htype, hchannel]
  | firstTimeout htype herror => simp [TimedOut, Item.IsNothing, htype, herror]
  | secondTimeout harrived hstatus => simp [TimedOut, Item.IsNothing, harrived, hstatus]
  | delivery htype hchannel => simp [TimedOut, Unexpected, Item.IsNothing, htype, hchannel]
  | socketError htype herror => simp [TimedOut, Unexpected, Item.IsNothing, htype, herror]
  | otherError htype herror htimeout _ what =>
      simp [TimedOut, Unexpected, Item.IsNothing, htype, herror, htimeout]
  | otherReply hnormal hlibrary what =>
      simp [TimedOut, Unexpected, Item.IsNothing, hnormal, hlibrary]
  | otherStatus harrived hok htimeout what =>
      obtain ⟨htype, herror⟩ := harrived
      simp [TimedOut, Unexpected, Item.IsNothing, htype, herror, htimeout]
  | otherFrame htaken _ _ | otherMethod htaken _ _ | acknowledge htaken _
  | channelClose htaken _ | connectionClose htaken _ | returned htaken _ _
  | unreadable htaken _ _ => exact iff_of_false (not_timedOut_of_taken htaken) id

end Received

/-! ## The dispatch of what is received -/

theorem envelope_destroy_ret (e : Envelope) (w : World) :
    ((Envelope.destroy e : Code World Exc Unit).run w).1 = .ret () := by
  obtain ⟨memory, moved⟩ := e
  cases moved <;> rfl

theorem returnedMessage_destroy_ret (r : ReturnedMessage) (w : World) :
    ((ReturnedMessage.destroy r : Code World Exc Unit).run w).1 = .ret () := by
  obtain ⟨⟨memory, moved⟩, method⟩ := r
  cases moved <;> rfl

section Dispatch

variable [Library] {L : Type} {memory : AmqpEnvelope} {item : Item}
  {envelopeCallback : Callback Envelope L} {returnedMessageCallback : Callback ReturnedMessage L}
  {acknowledgeCallback : AcknowledgeCallback L} {l : L} {w : World}

omit [Library] in
/-- The scopes around the dispatch. -/
theorem scopes_run (memory : AmqpEnvelope) (h : Handle)
    (b : Code (Envelope × (Calls × L) × World) Exc Bool)
    (v : Calls × L) :
    ∃ w', (defer (beside (amqpMaybeReleaseBuffers h))
        (withLocal (AMQPStruct.make memory) (fun e => beside (Envelope.destroy e)) b)).run (v, w) =
      ((b.run (AMQPStruct.make memory, v, w)).1,
        ((b.run (AMQPStruct.make memory, v, w)).2.2.1, w')) := by
  obtain ⟨w₁, hscope⟩ := withLocal_beside (o := AMQPStruct.make memory) (d := Envelope.destroy)
    (b := b) (s := w) envelope_destroy_ret v
  have hrelease (s : World) : ((amqpMaybeReleaseBuffers h : Code World Exc Unit).run s).1 =
      .ret () := rfl
  obtain ⟨w₂, hdefer⟩ := scopeExit_beside
    (b := withLocal (AMQPStruct.make memory) (fun e => beside (Envelope.destroy e)) b) (s := w)
    hrelease v
  refine ⟨w₂, hdefer.trans ?_⟩
  rw [hscope]

omit [Library] in
/-- The callback that is called is called once, and the dispatch ends as it does. -/
theorem dispatch_given {c : Called} (hgiven : item.given memory = some c) :
    ∃ o l' e' w', (item.dispatch (recording (.envelope ·.memory_) envelopeCallback)
        (recording .returned returnedMessageCallback)
        (recordingAcknowledge acknowledgeCallback)).run (AMQPStruct.make memory, ([], l), w) =
      (o.map fun _ => true, (e', ([(c, o)], l'), w')) := by
  cases item with
  | nothing | failed _ | unreadable _ _ => cases hgiven
  | envelope =>
      cases hgiven
      exact ⟨_, _, _, _, run_then _ true _⟩
  | acknowledge decoded =>
      cases hgiven
      have hthen := run_then (recordingAcknowledge acknowledgeCallback decoded) true (([], l), w)
      exact ⟨((acknowledgeCallback decoded).run (l, w)).1, _, AMQPStruct.make memory, _,
        congrArg (fun q => (q.1, (AMQPStruct.make memory, q.2))) hthen⟩
  | returned r =>
      cases hgiven
      obtain ⟨w₁, hscope⟩ := withLocal_beside (o := r) (d := ReturnedMessage.destroy)
        (b := recording .returned returnedMessageCallback) (s := w) returnedMessage_destroy_ret
        (([], l) : Calls × L)
      have hthen := run_then (withLocal r (fun r => beside (ReturnedMessage.destroy r))
        (recording .returned returnedMessageCallback)) true (([], l), w)
      rw [hscope] at hthen
      exact ⟨(returnedMessageCallback.run (r, l, w)).1, _, AMQPStruct.make memory, _,
        congrArg (fun q => (q.1, (AMQPStruct.make memory, q.2))) hthen⟩

/-- How a call ends without a callback. -/
def Item.unanswered : Item → Outcome Exc Bool
  | .failed e | .unreadable _ e => .thrown e
  | _ => .ret false

omit [Library] in
theorem dispatch_not_given (howns : item.Owns) (hgiven : item.given memory = none) :
    ∃ e' w', (item.dispatch (recording (.envelope ·.memory_) envelopeCallback)
        (recording .returned returnedMessageCallback)
        (recordingAcknowledge acknowledgeCallback)).run (AMQPStruct.make memory, ([], l), w) =
      (item.unanswered, (e', (([] : Calls), l), w')) := by
  cases item with
  | envelope | acknowledge _ | returned _ => cases hgiven
  | nothing => exact ⟨_, _, rfl⟩
  | failed e => exact ⟨_, _, rfl⟩
  | unreadable message e =>
      obtain ⟨memory', moved⟩ := message
      cases (show moved = false from howns)
      exact ⟨_, _, rfl⟩

end Dispatch

/-! ## The whole call -/

section Call

variable [Library] {self : Connection} {tv : Option Timeval} {w : World} {item : Item}

theorem unanswered_of_receives (h : Receives self tv w item) {memory : AmqpEnvelope}
    (hgiven : item.given memory = none) (hnothing : ¬ item.IsNothing) :
    ∃ e, item.unanswered = .thrown e ∧ e.IsOwn := by
  cases h with
  | delivery | acknowledge _ _ | returned _ _ _ => cases hgiven
  | channelZero | firstTimeout | secondTimeout => exact absurd trivial hnothing
  | socketError | otherError | otherReply | otherStatus | otherFrame | otherMethod | channelClose
  | connectionClose => exact ⟨_, rfl, by nofun⟩
  | unreadable htaken hpayload hread =>
      refine ⟨_, rfl, ?_⟩
      rcases processReply_error hread with ⟨what, rfl⟩ | ⟨what, rfl⟩ | ⟨what, rfl⟩ | ⟨what, rfl⟩
        <;> nofun

/-- A call of `consumeImpl` dispatches what has arrived once, and drops no frame. -/
theorem dispatches_once {L : Type} (self : Connection) (tv : Option Timeval)
    (envelopeCallback : Callback Envelope L) (returnedMessageCallback : Callback ReturnedMessage L)
    (acknowledgeCallback : AcknowledgeCallback L) (l : L) (w : World) :
    ∃ o calls l' w', (self.consumeImpl tv (recording (.envelope ·.memory_) envelopeCallback)
        (recording .returned returnedMessageCallback)
        (recordingAcknowledge acknowledgeCallback)).run (([], l), w) = (o, ((calls, l'), w')) ∧
      DispatchedOnce self tv w calls o ∧
      (FrameTaken tv w → (∃ c, calls = [c]) ∨ ∃ e, o = .thrown e) := by
  obtain ⟨item, w₁, hreceive, hreceives⟩ := receive_receives self tv w
  obtain ⟨contents, item', w₂, hreceive', hfits⟩ := @receive_fits _ self tv w
  obtain ⟨hret, rfl⟩ := Prod.mk.inj (hreceive.symm.trans hreceive')
  obtain ⟨-, rfl⟩ := Prod.mk.inj (Outcome.ret.inj hret)
  have hrun := consumes_of_receive hreceive (recording (.envelope ·.memory_) envelopeCallback)
    (recording .returned returnedMessageCallback) (recordingAcknowledge acknowledgeCallback)
    ([], l)
  obtain ⟨w', hscopes⟩ := scopes_run (w := w₁) ((deliveryAnswer w).envelope.fill w.nextIdent)
    self.connection_ (item.dispatch (recording (.envelope ·.memory_) envelopeCallback)
      (recording .returned returnedMessageCallback) (recordingAcknowledge acknowledgeCallback))
    ([], l)
  have hrun := hrun.trans hscopes
  have harrived := fun c => arrived_iff hreceives c
  have htimedOut := timedOut_iff hreceives
  cases hgiven : item.given ((deliveryAnswer w).envelope.fill w.nextIdent) with
  | some c =>
      obtain ⟨o, l', e', w₂, hdispatch⟩ := @dispatch_given L _ item envelopeCallback
        returnedMessageCallback acknowledgeCallback l w₁ c hgiven
      rw [hdispatch] at hrun
      refine ⟨_, _, _, _, hrun, ?_, fun _ => Or.inl ⟨_, rfl⟩⟩
      have hnot : ¬ TimedOut tv w := by
        intro h
        cases item with
        | nothing => cases hgiven
        | envelope | acknowledge _ | returned _ | failed _ | unreadable _ _ =>
            exact htimedOut.mp h
      refine .called ((harrived c).mpr hgiven) (fun c' hc' => ?_) hnot o
      have hgiven' := (harrived c').mp hc'
      rw [hgiven] at hgiven'
      exact (Option.some.inj hgiven').symm
  | none =>
      obtain ⟨e', w₂, hdispatch⟩ := @dispatch_not_given L _ item envelopeCallback
        returnedMessageCallback acknowledgeCallback l w₁ hfits.owns hgiven
      rw [hdispatch] at hrun
      have hnone (c : Called) : ¬ Arrived self tv w c := by
        rw [harrived c, hgiven]
        nofun
      by_cases hnothing : item.IsNothing
      · have hend : item.unanswered = .ret false := by
          cases item with
          | nothing => rfl
          | envelope | acknowledge _ | returned _ | failed _ | unreadable _ _ =>
              exact hnothing.elim
        rw [hend] at hrun
        refine ⟨_, _, _, _, hrun, .timedOut hnone (htimedOut.mpr hnothing), fun htaken => ?_⟩
        exact absurd (htimedOut.mpr hnothing) (not_timedOut_of_taken htaken)
      · obtain ⟨e, hend, hown⟩ := unanswered_of_receives hreceives hgiven hnothing
        rw [hend] at hrun
        exact ⟨_, _, _, _, hrun, .thrown hnone (fun h => hnothing (htimedOut.mp h)) hown,
          fun _ => Or.inr ⟨e, rfl⟩⟩

end Call

end RmqCxx
