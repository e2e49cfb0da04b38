/-
# `RmqCxx.Arrivals` — what a consume call receives, by the library's answers

A call of `consumeImpl` asks the library for a delivery; if something else has arrived,
for its frame; and if that is a returned message, for the content.  `Receives` lists what
comes of the answers, a constructor for each way through the four nested switches, and
`receive_receives` says that these are all the ways.
-/
import RmqCxx.ConsumeRuns

namespace RmqCxx

open Cpp Code

/-! ## Places in the pools -/

section Places

variable {c c' : ConnState} (h : c.recycled = c'.recycled)

include h

/-- What is decoded goes to the same place until the pool is recycled. -/
theorem place_congr : c.place = c'.place := by
  funext handle channel d
  simp only [ConnState.place, ConnState.ref, h]

theorem placeReply_congr : c.placeReply = c'.placeReply := by
  funext handle r
  simp only [ConnState.placeReply, place_congr h]

theorem placeFrame_congr : c.placeFrame = c'.placeFrame := by
  funext handle channel payload
  cases payload <;> simp only [ConnState.placeFrame, place_congr h]

end Places

theorem afterTaking_recycled (w : World) (h h' : Handle) (f : CFunction) (args : List Arg)
    (queued : List ChannelId) :
    ((w.afterTaking h f args queued).conns h').recycled = (w.conns h').recycled :=
  setConn_recycled w.tick h h' rfl

variable [Library]

/-! ## The answers -/

section Answers

variable (self : Connection) (tv : Option Timeval) (w : World)

/-- The clock is read before the first wait, and before the second one if there is a timeout. -/
def deliveryAnswer : ConsumeAnswer := Library.consumeMessage (w.calls + 1)

def frameAnswer : WaitAnswer := Library.simpleWaitFrameNoblock (w.calls + 2 + tv.toList.length)

def contentAnswer : ReadAnswer := Library.readMessage (w.calls + 3 + tv.toList.length)

/-- The replies and the frame, with their methods in the pools. -/
def Connection.deliveryReply : RpcReply :=
  (w.conns self.connection_).placeReply self.connection_ (deliveryAnswer w).reply

def Connection.arrivedFrame : Frame :=
  (w.conns self.connection_).placeFrame self.connection_ (frameAnswer tv w).channel
    (frameAnswer tv w).payload

def Connection.contentReply : RpcReply :=
  (w.conns self.connection_).placeReply self.connection_ (contentAnswer tv w).reply

/-- The message that the content is read into. -/
def readInto : Message :=
  AMQPStruct.make ((contentAnswer tv w).message.fill (w.nextIdent + 1))

/-- A string of a method of the frame, in its place. -/
def Connection.inPool (text : String) : Bytes :=
  ⟨text, .pool ((w.conns self.connection_).ref self.connection_ (frameAnswer tv w).channel)⟩

/-- Something other than a delivery has arrived. -/
def Unexpected (reply : ReplyContents) : Prop :=
  reply.replyType = .libraryException ∧ reply.libraryError = .unexpectedState

instance (r : ReplyContents) : Decidable (Unexpected r) := inferInstanceAs (Decidable (_ ∧ _))

/-- The second wait took a frame off the connection. -/
def FrameTaken : Prop :=
  Unexpected (deliveryAnswer w).reply ∧ (frameAnswer tv w).status = .ok

end Answers

/-! ## What comes of them -/

/-- What a call of `consumeImpl` from `w` receives. -/
inductive Receives (self : Connection) (tv : Option Timeval) (w : World) : Item → Prop
  | delivery (htype : (deliveryAnswer w).reply.replyType = .normal)
      (hchannel : (deliveryAnswer w).envelope.channel ≠ 0) : Receives self tv w .envelope
  | channelZero (htype : (deliveryAnswer w).reply.replyType = .normal)
      (hchannel : (deliveryAnswer w).envelope.channel = 0) : Receives self tv w .nothing
  | firstTimeout (htype : (deliveryAnswer w).reply.replyType = .libraryException)
      (herror : (deliveryAnswer w).reply.libraryError = .timeout) : Receives self tv w .nothing
  | socketError (htype : (deliveryAnswer w).reply.replyType = .libraryException)
      (herror : (deliveryAnswer w).reply.libraryError = .socketError) :
      Receives self tv w
        (.failed (.socket .ok (self.context_ ++ "Consumer: Socket Error!")))
  | otherError (htype : (deliveryAnswer w).reply.replyType = .libraryException)
      (herror : (deliveryAnswer w).reply.libraryError ≠ .unexpectedState)
      (htimeout : (deliveryAnswer w).reply.libraryError ≠ .timeout)
      (hsocket : (deliveryAnswer w).reply.libraryError ≠ .socketError) (what : String) :
      Receives self tv w (.failed (.rpc (self.deliveryReply w) what))
  | otherReply (hnormal : (deliveryAnswer w).reply.replyType ≠ .normal)
      (hlibrary : (deliveryAnswer w).reply.replyType ≠ .libraryException) (what : String) :
      Receives self tv w (.failed (.rpc (self.deliveryReply w) what))
  | secondTimeout (harrived : Unexpected (deliveryAnswer w).reply)
      (hstatus : (frameAnswer tv w).status = .timeout) : Receives self tv w .nothing
  | otherStatus (harrived : Unexpected (deliveryAnswer w).reply)
      (hok : (frameAnswer tv w).status ≠ .ok) (htimeout : (frameAnswer tv w).status ≠ .timeout)
      (what : String) :
      Receives self tv w
        (.failed (.frameStatus (self.deliveryReply w) (frameAnswer tv w).status what))
  | otherFrame (htaken : FrameTaken tv w) {frameType : UInt8}
      (hpayload : (frameAnswer tv w).payload = .other frameType) (what : String) :
      Receives self tv w
        (.failed (.frame (self.deliveryReply w) (self.arrivedFrame tv w) what))
  | otherMethod (htaken : FrameTaken tv w) {id : UInt32}
      (hpayload : (frameAnswer tv w).payload = .method (.other id)) (what : String) :
      Receives self tv w
        (.failed (.frame (self.deliveryReply w) (self.arrivedFrame tv w) what))
  | acknowledge (htaken : FrameTaken tv w) {decoded : BasicAck}
      (hpayload : (frameAnswer tv w).payload = .method (.basicAck decoded)) :
      Receives self tv w (.acknowledge decoded)
  | channelClose (htaken : FrameTaken tv w) {decoded : CloseMethod String}
      (hpayload : (frameAnswer tv w).payload = .method (.channelClose decoded)) :
      Receives self tv w
        (.failed (.channelCloseException (frameAnswer tv w).channel
          (decoded.map (self.inPool tv w))
          (self.context_ ++ "Consumer: Channel close received!")))
  | connectionClose (htaken : FrameTaken tv w) {decoded : CloseMethod String}
      (hpayload : (frameAnswer tv w).payload = .method (.connectionClose decoded)) :
      Receives self tv w
        (.failed (.connectionCloseException (decoded.map (self.inPool tv w))
          (self.context_ ++ "Consumer: Connection close received!")))
  | returned (htaken : FrameTaken tv w) {decoded : BasicReturn String}
      (hpayload : (frameAnswer tv w).payload = .method (.basicReturn decoded))
      (hread : (contentAnswer tv w).reply.replyType = .normal) :
      Receives self tv w (.returned ⟨readInto tv w, decoded.map (self.inPool tv w)⟩)
  | unreadable (htaken : FrameTaken tv w) {decoded : BasicReturn String}
      (hpayload : (frameAnswer tv w).payload = .method (.basicReturn decoded)) {e : Exc}
      (hread : Connection.processReply (self.context_ ++ " Consumer (return method): ")
        (self.contentReply tv w) = .error e) :
      Receives self tv w (.unreadable (readInto tv w) e)

section Receive

variable {self : Connection} {tv : Option Timeval} {w : World}

/-- The world when the frame is asked for: one answer and one structure later. -/
structure AfterDelivery (h : Handle) (w w₁ : World) : Prop where
  calls : w₁.calls = w.calls + 2
  nextIdent : w₁.nextIdent = w.nextIdent + 1
  recycled : (w₁.conns h).recycled = (w.conns h).recycled

theorem receiveReturn_receives {w₁ : World} (htaken : FrameTaken tv w)
    {decoded : BasicReturn String}
    (hpayload : (frameAnswer tv w).payload = .method (.basicReturn decoded))
    (hcalls : w₁.calls = w.calls + 3 + tv.toList.length)
    (hident : w₁.nextIdent = w.nextIdent + 1)
    (hrecycled : (w₁.conns self.connection_).recycled = (w.conns self.connection_).recycled)
    (frame : Frame) :
    ∃ item w', (self.receiveReturn frame (decoded.map (self.inPool tv w))).run w₁ =
        (.ret item, w') ∧ Receives self tv w item := by
  have hanswer : Library.readMessage w₁.calls = contentAnswer tv w := by
    rw [hcalls, contentAnswer]
  have hreply : self.readReply w₁ = self.contentReply tv w := by
    rw [Connection.readReply, hanswer, placeReply_congr hrecycled, Connection.contentReply]
  have hmessage : w₁.readMessage = readInto tv w := by
    rw [World.readMessage, hanswer, hident, readInto]
  rw [receiveReturn_run, hreply, hmessage]
  refine ⟨_, _, rfl, ?_⟩
  cases hread : Connection.processReply (self.context_ ++ " Consumer (return method): ")
      (self.contentReply tv w) with
  | ok _ => exact .returned htaken hpayload (processReply_ok_iff.mp hread)
  | error e => exact .unreadable htaken hpayload hread

theorem receiveFrame_receives {w₁ : World} (harrived : Unexpected (deliveryAnswer w).reply)
    (hw₁ : AfterDelivery self.connection_ w w₁) (start : ClockDuration) :
    ∃ item w', (self.receiveFrame tv start (self.deliveryReply w)).run w₁ = (.ret item, w') ∧
      Receives self tv w item := by
  have htv := secondTimeout_run w₁ start tv
  have hcalls := afterReading_calls w₁ tv
  have hident := (afterReading_nextIdent w₁ tv).trans hw₁.nextIdent
  have hconns := afterReading_conns w₁ tv
  rw [hw₁.calls] at hcalls
  generalize secondTimeval tv start _ = tv' at htv
  generalize w₁.afterReading tv = w₂ at htv hcalls hident hconns
  have hanswer : Library.simpleWaitFrameNoblock w₂.calls = frameAnswer tv w := by
    rw [hcalls, frameAnswer]
  have hrecycled : (w₂.conns self.connection_).recycled =
      (w.conns self.connection_).recycled := by
    rw [hconns, hw₁.recycled]
  rw [Connection.receiveFrame, bind_of_ret htv,
    bind_of_ret (amqpSimpleWaitFrameNoblock_run w₂ self.connection_ tv'), hanswer,
    placeFrame_congr hrecycled]
  have hcalls₃ : (w₂.afterTaking self.connection_ .simpleWaitFrameNoblock [.timeval tv']
      (frameAnswer tv w).queued).calls = w.calls + 3 + tv.toList.length := by
    show w₂.calls + 1 = _
    omega
  have hrecycled₃ := (afterTaking_recycled w₂ self.connection_ self.connection_
    .simpleWaitFrameNoblock [.timeval tv'] (frameAnswer tv w).queued).trans hrecycled
  have hident₃ : (w₂.afterTaking self.connection_ .simpleWaitFrameNoblock [.timeval tv']
      (frameAnswer tv w).queued).nextIdent = w.nextIdent + 1 := hident
  generalize w₂.afterTaking self.connection_ .simpleWaitFrameNoblock _ _ = w₃
    at hcalls₃ hrecycled₃ hident₃
  dsimp only
  cases hstatus : (frameAnswer tv w).status with
  | timeout => exact ⟨_, _, rfl, .secondTimeout harrived hstatus⟩
  | socketError =>
      refine ⟨_, _, rfl, ?_⟩
      rw [← hstatus]
      exact .otherStatus harrived (by simp [hstatus]) (by simp [hstatus]) _
  | unexpectedState =>
      refine ⟨_, _, rfl, ?_⟩
      rw [← hstatus]
      exact .otherStatus harrived (by simp [hstatus]) (by simp [hstatus]) _
  | other code =>
      refine ⟨_, _, rfl, ?_⟩
      rw [← hstatus]
      exact .otherStatus harrived (by simp [hstatus]) (by simp [hstatus]) _
  | ok =>
      have htaken : FrameTaken tv w := ⟨harrived, hstatus⟩
      cases hpayload : (frameAnswer tv w).payload with
      | other frameType =>
          refine ⟨_, _, rfl, ?_⟩
          rw [← hpayload]
          exact .otherFrame htaken hpayload _
      | method d =>
          cases d with
          | basicAck decoded => exact ⟨_, _, rfl, .acknowledge htaken hpayload⟩
          | channelClose decoded => exact ⟨_, _, rfl, .channelClose htaken hpayload⟩
          | connectionClose decoded => exact ⟨_, _, rfl, .connectionClose htaken hpayload⟩
          | other id =>
              refine ⟨_, _, rfl, ?_⟩
              rw [← hpayload]
              exact .otherMethod htaken hpayload _
          | basicReturn decoded =>
              exact receiveReturn_receives htaken hpayload hcalls₃ hident₃ hrecycled₃ _

theorem receive_receives (self : Connection) (tv : Option Timeval) (w : World) :
    ∃ item w', (self.receive tv).run w =
        (.ret (AMQPStruct.make ((deliveryAnswer w).envelope.fill w.nextIdent), item), w') ∧
      Receives self tv w item := by
  have hreply : (w.fresh.tick.conns self.connection_).placeReply self.connection_
      (Library.consumeMessage w.fresh.tick.calls).reply = self.deliveryReply w := rfl
  have henvelope : (Library.consumeMessage w.fresh.tick.calls).envelope =
      (deliveryAnswer w).envelope := rfl
  rw [Connection.receive, bind_of_ret (newIdent_run w), bind_of_ret (clockNow_run w.fresh),
    bind_of_ret (amqpConsumeMessage_run w.fresh.tick self.connection_ w.nextIdent tv 0), hreply,
    henvelope]
  have hafter : AfterDelivery self.connection_ w
      (w.fresh.tick.afterTaking self.connection_ .consumeMessage [.timeval tv, .num 0]
        (Library.consumeMessage w.fresh.tick.calls).queued) :=
    ⟨rfl, rfl, setConn_recycled w.fresh.tick _ _ rfl⟩
  generalize w.fresh.tick.afterTaking self.connection_ .consumeMessage _ _ = w₁ at hafter
  dsimp only
  obtain ⟨item, w', hitem, hreceives⟩ : ∃ item w',
      (self.receiveItem tv (Library.now w.fresh.calls) (self.deliveryReply w)
        ((deliveryAnswer w).envelope.fill w.nextIdent)).run w₁ = (.ret item, w') ∧
        Receives self tv w item := by
    have htype : (self.deliveryReply w).replyType = (deliveryAnswer w).reply.replyType := rfl
    have herror : (self.deliveryReply w).libraryError = (deliveryAnswer w).reply.libraryError :=
      rfl
    rw [Connection.receiveItem, htype, herror]
    cases ht : (deliveryAnswer w).reply.replyType with
    | none => exact ⟨_, _, rfl, .otherReply (by simp [ht]) (by simp [ht]) _⟩
    | serverException => exact ⟨_, _, rfl, .otherReply (by simp [ht]) (by simp [ht]) _⟩
    | other code => exact ⟨_, _, rfl, .otherReply (by simp [ht]) (by simp [ht]) _⟩
    | normal =>
        dsimp only
        by_cases hchannel : (deliveryAnswer w).envelope.channel = 0
        · rw [if_pos (show ((deliveryAnswer w).envelope.fill w.nextIdent).channel = 0
            from hchannel)]
          exact ⟨_, _, rfl, .channelZero ht hchannel⟩
        · rw [if_neg (show ¬ ((deliveryAnswer w).envelope.fill w.nextIdent).channel = 0
            from hchannel)]
          exact ⟨_, _, rfl, .delivery ht hchannel⟩
    | libraryException =>
        dsimp only
        cases he : (deliveryAnswer w).reply.libraryError with
        | unexpectedState => exact receiveFrame_receives ⟨ht, he⟩ hafter _
        | timeout => exact ⟨_, _, rfl, .firstTimeout ht he⟩
        | socketError => exact ⟨_, _, rfl, .socketError ht he⟩
        | ok =>
            exact ⟨_, _, rfl, .otherError ht (by simp [he]) (by simp [he])
              (by simp [he]) _⟩
        | other code =>
            exact ⟨_, _, rfl, .otherError ht (by simp [he]) (by simp [he])
              (by simp [he]) _⟩
  exact ⟨item, w', by rw [bind_of_ret hitem]; rfl, hreceives⟩

end Receive

end RmqCxx
