/-
# `RmqCxx.Observations` — what consume calls hand to the library

The calls of the library are logged with their arguments.  `World.observe` reads off the log
what an observer `f` makes of each of them; `receive_observe` says what an observer of the two
waits sees of one call of `consumeImpl`, and the lemmas after it what it sees of the way out.
-/
import RmqCxx.Arrivals
import RmqCxx.ConsumerRuns

namespace RmqCxx

open Cpp Code

/-- What is observed of the calls that were logged. -/
def World.observe {X : Type} (f : CFunction → List Arg → Option X) (w : World) : List X :=
  w.log.filterMap fun e =>
    match e with
    | .call c _ args => f c args
    | _ => none

section Log

variable {X : Type} (f : CFunction → List Arg → Option X) (w : World)

theorem observe_afterTaking (h : Handle) (c : CFunction) (args : List Arg)
    (queued : List ChannelId) :
    (w.afterTaking h c args queued).observe f = w.observe f ++ (f c args).toList := by
  show (w.log ++ [Event.call c h args]).filterMap _ = _
  rw [List.filterMap_append]
  cases hf : f c args <;> simp [World.observe, hf]

theorem observe_envelopeDestroyed (ident : Nat) :
    (w.envelopeDestroyed ident).observe f = w.observe f := by
  simp [World.observe, World.envelopeDestroyed, World.tell]

theorem observe_messageDestroyed (ident : Nat) :
    (w.messageDestroyed ident).observe f = w.observe f := by
  simp [World.observe, World.messageDestroyed, World.tell]

theorem observe_ignored (received : Received) : (received.ignored w).observe f = w.observe f := by
  cases received with
  | envelope _ => exact observe_envelopeDestroyed f w _
  | returned _ _ => exact observe_messageDestroyed f w _
  | nothing | acknowledge _ | failed _ => rfl

/-- The observer sees neither the end of a call nor the reading of a content. -/
structure OfWaits (f : CFunction → List Arg → Option X) : Prop where
  release : f .maybeReleaseBuffers [] = none
  read (args : List Arg) : f .readMessage args = none

variable {f}

theorem observe_released (hf : OfWaits f) (h : Handle) :
    (w.released h).observe f = w.observe f := by
  show (w.log ++ [Event.call .maybeReleaseBuffers h []]).filterMap _ = _
  simp [World.observe, hf.release]

theorem observe_close (hf : OfWaits f) (h : Handle) (memory : AmqpEnvelope) (item : Item) :
    (item.close h memory w).observe f = w.observe f := by
  cases item with
  | envelope => exact observe_released w hf h
  | unreadable message e =>
      exact (observe_released _ hf h).trans
        ((observe_envelopeDestroyed f _ _).trans (observe_messageDestroyed f w _))
  | nothing | acknowledge _ | returned _ | failed _ =>
      exact (observe_released _ hf h).trans (observe_envelopeDestroyed f w _)

end Log

/-! ## Receiving -/

section Receive

variable [Library] {self : Connection} {X : Type} {f : CFunction → List Arg → Option X}

/-- The timeout of the second wait of a call from `w`, if there is one. -/
def secondOf (tv : Option Timeval) (w : World) : Option (Option Timeval) :=
  if Unexpected (deliveryAnswer w).reply then
    some (secondTimeval tv (Library.now w.calls) (Library.now (w.calls + 2)))
  else none

/-- What is seen of the two waits of a call. -/
def seenWaits (f : CFunction → List Arg → Option X) (tv : Option Timeval) (w : World) : List X :=
  (f .consumeMessage [.timeval tv, .num 0]).toList ++
    ((secondOf tv w).bind fun second => f .simpleWaitFrameNoblock [.timeval second]).toList

theorem receiveReturn_observe (hf : OfWaits f) (frame : Frame) (decoded : BasicReturn Bytes) :
    Keeps (Same (World.observe f)) (self.receiveReturn frame decoded) := by
  intro w
  rw [receiveReturn_run]
  refine (observe_afterTaking f w.fresh _ _ _ _).trans ?_
  rw [hf.read]
  exact List.append_nil _

theorem receiveFrame_observe (hf : OfWaits f) (tv : Option Timeval) (start : ClockDuration)
    (reply : RpcReply) (w : World) :
    Leaves (World.observe f)
      (w.observe f ++ (f .simpleWaitFrameNoblock
        [.timeval (secondTimeval tv start (Library.now w.calls))]).toList)
      (self.receiveFrame tv start reply) w := by
  have htv := secondTimeout_run w start tv
  have hw' : (w.afterReading tv).observe f = w.observe f := by cases tv <;> rfl
  generalize w.afterReading tv = w' at htv hw'
  rw [Leaves, Connection.receiveFrame, bind_of_ret htv,
    bind_of_ret (amqpSimpleWaitFrameNoblock_run w' self.connection_ _), ← hw']
  refine Eq.trans ?_ (observe_afterTaking f w' self.connection_ .simpleWaitFrameNoblock _
    (Library.simpleWaitFrameNoblock w'.calls).queued)
  generalize w'.afterTaking self.connection_ .simpleWaitFrameNoblock _ _ = w₁
  cases (Library.simpleWaitFrameNoblock w'.calls).status with
  | timeout | socketError | unexpectedState | other _ => rfl
  | ok =>
      dsimp only
      cases ((w'.conns self.connection_).placeFrame self.connection_
        (Library.simpleWaitFrameNoblock w'.calls).channel
        (Library.simpleWaitFrameNoblock w'.calls).payload).payload with
      | other _ => rfl
      | method m =>
          dsimp only
          cases m.decoded with
          | basicReturn decoded => exact receiveReturn_observe hf _ _ w₁
          | basicAck _ | channelClose _ | connectionClose _ | other _ => rfl

theorem receiveItem_observe (hf : OfWaits f) (tv : Option Timeval) (start : ClockDuration)
    {reply : RpcReply} {answer : ReplyContents} (memory : AmqpEnvelope) (w : World)
    (htype : reply.replyType = answer.replyType)
    (herror : reply.libraryError = answer.libraryError) :
    Leaves (World.observe f)
      (w.observe f ++ (if Unexpected answer then f .simpleWaitFrameNoblock
        [.timeval (secondTimeval tv start (Library.now w.calls))] else none).toList)
      (self.receiveItem tv start reply memory) w := by
  rw [Leaves, Connection.receiveItem]
  by_cases hunexpected : Unexpected answer
  · rw [if_pos hunexpected, htype, hunexpected.1]
    dsimp only
    rw [herror, hunexpected.2]
    exact receiveFrame_observe hf tv start reply w
  · rw [if_neg hunexpected, Option.toList_none, List.append_nil, htype]
    cases ht : answer.replyType with
    | none | serverException | other _ => rfl
    | normal =>
        dsimp only
        split <;> rfl
    | libraryException =>
        dsimp only
        rw [herror]
        cases he : answer.libraryError with
        | unexpectedState => exact absurd ⟨ht, he⟩ hunexpected
        | ok | timeout | socketError | other _ => rfl

/-- What is seen of a call of `consumeImpl`, up to its callbacks. -/
theorem receive_observe (hf : OfWaits f) (tv : Option Timeval) (w : World) :
    Leaves (World.observe f) (w.observe f ++ seenWaits f tv w) (self.receive tv) w := by
  rw [Leaves, Connection.receive, bind_of_ret (newIdent_run w),
    bind_of_ret (clockNow_run w.fresh),
    bind_of_ret (amqpConsumeMessage_run w.fresh.tick self.connection_ w.nextIdent tv 0)]
  have hfirst : (w.fresh.tick.afterTaking self.connection_ .consumeMessage [.timeval tv, .num 0]
      (deliveryAnswer w).queued).observe f =
        w.observe f ++ (f .consumeMessage [.timeval tv, .num 0]).toList :=
    observe_afterTaking f w.fresh.tick _ _ _ _
  have hitem := (@receiveItem_observe _ self X f hf tv (Library.now w.calls)
    ((w.fresh.tick.conns self.connection_).placeReply self.connection_ (deliveryAnswer w).reply)
    (deliveryAnswer w).reply ((deliveryAnswer w).envelope.fill w.nextIdent)
    (w.fresh.tick.afterTaking self.connection_ .consumeMessage [.timeval tv, .num 0]
      (deliveryAnswer w).queued) rfl rfl).bind
    (k := fun item => (pure (AMQPStruct.make ((deliveryAnswer w).envelope.fill w.nextIdent),
      item) : Code World Exc (Envelope × Item))) (fun _ => keeps_pure _)
  rw [Leaves, hfirst, List.append_assoc] at hitem
  refine hitem.trans ?_
  rw [seenWaits, secondOf]
  by_cases hunexpected : Unexpected (deliveryAnswer w).reply
  · rw [if_pos hunexpected, if_pos hunexpected]
    rfl
  · rw [if_neg hunexpected, if_neg hunexpected]
    rfl

/-! ## Calls by a consumer -/

theorem source_take_observe (hf : OfWaits f) (timeout : ClockDuration) (w : World) :
    (self.source.take (some timeout) w).2.observe f =
      w.observe f ++ seenWaits f (some (timeValue timeout)) w := by
  obtain ⟨contents, item, w', hreceive, -⟩ := @receive_fits _ self (some (timeValue timeout)) w
  have hleaves := @receive_observe _ self X f hf (some (timeValue timeout)) w
  rw [Leaves, hreceive] at hleaves
  simp only [Connection.source, Option.map_some, hreceive]
  exact hleaves

theorem source_leave_observe (hf : OfWaits f) (timeout : ClockDuration) (w w' : World) :
    (self.source.leave (some timeout) w w').observe f = w'.observe f := by
  obtain ⟨contents, item, w₁, hreceive, -⟩ := @receive_fits _ self (some (timeValue timeout)) w
  simp only [Connection.source, Option.map_some, hreceive]
  exact observe_close w' hf _ _ item

end Receive

end RmqCxx
