/-
# `RmqCxx.ConsumeCauses` — exceptions of consume calls, and of the constructor

An exception that leaves a consume call left a callback, or the call throws it whatever the
callbacks are (`Connection.ThrowsItself`); the consumers let through what their consume
calls throw.  Which exceptions `consumeImpl` throws itself is in `Receives`.
-/
import RmqCxx.Causes
import RmqCxx.Dispatches
import RmqCxx.ConsumerRuns

namespace RmqCxx

open Cpp Code

/-! ## Consume calls -/

section Consume

variable [Library] {L : Type}

/-- What the library has reported when a call of `consumeImpl` from `w` fails. -/
def Connection.failure (self : Connection) (tv : Option Timeval) (w : World) : Failure :=
  if Unexpected (deliveryAnswer w).reply then
    match (frameAnswer tv w).status, (frameAnswer tv w).payload with
    | .ok, .method (.basicReturn _) => (self.contentReply tv w).failure
    | status, _ => ⟨some (self.deliveryReply w), status, (self.arrivedFrame tv w).closed⟩
  else (self.deliveryReply w).failure

/-- The call throws the exception, whatever its callbacks are. -/
def Connection.ThrowsItself (self : Connection) (tv : Option Timeval) (w : World) (e : Exc) :
    Prop :=
  ∀ (L : Type) (envelopeCallback : Callback Envelope L)
    (returnedMessageCallback : Callback ReturnedMessage L)
    (acknowledgeCallback : AcknowledgeCallback L) (l : L),
    (self.consumeImpl tv envelopeCallback returnedMessageCallback acknowledgeCallback).Throws
      (l, w) e

/-- One of the callbacks is left by the exception. -/
def CallbackThrows (envelopeCallback : Callback Envelope L)
    (returnedMessageCallback : Callback ReturnedMessage L)
    (acknowledgeCallback : AcknowledgeCallback L) (e : Exc) : Prop :=
  envelopeCallback.CanThrow e ∨ returnedMessageCallback.CanThrow e ∨
    ∃ decoded, (acknowledgeCallback decoded).CanThrow e

/-- The first wait ends without a socket error, and reading the content of a returned message
without the close of a channel other than 0. -/
structure Connection.FailsPlainly (connection : Connection) (tv : Option Timeval) (w : World) :
    Prop where
  first : (deliveryAnswer w).reply.replyType = .libraryException →
    (deliveryAnswer w).reply.libraryError ≠ .socketError
  content : FrameTaken tv w →
    ∀ decoded, (frameAnswer tv w).payload = .method (.basicReturn decoded) →
      (connection.contentReply tv w).SparesChannels

section Calls

variable {self : Connection} {tv : Option Timeval} {w w' : World} {memory : AmqpEnvelope}
  {item : Item} {envelopeCallback : Callback Envelope L}
  {returnedMessageCallback : Callback ReturnedMessage L}
  {acknowledgeCallback : AcknowledgeCallback L} {l : L} {e : Exc}

omit [Library] in
theorem message_destroy_ret (m : Message) (w : World) :
    ((Message.destroy m : Code World Exc Unit).run w).1 = .ret () := by
  obtain ⟨memory, moved⟩ := m
  cases moved <;> rfl

omit [Library] in
/-- The two scopes around the dispatch throw nothing. -/
theorem scopes_throw_iff {h : Handle} {b : Code (Envelope × L × World) Exc Bool} :
    (defer (beside (amqpMaybeReleaseBuffers h))
      (withLocal (AMQPStruct.make memory) (fun e => beside (Envelope.destroy e)) b)).Throws
        (l, w) e ↔ b.Throws (AMQPStruct.make memory, l, w) e := by
  rw [defer, throws_scopeExit_iff (fun _ => rfl),
    throws_withLocal_iff (fun o s => envelope_destroy_ret o s.2)]

omit [Library] in
theorem throws_then_iff {σ α β : Type} {c : Code σ Exc α} {b : β} {s : σ} :
    (do let _ ← c; pure b : Code σ Exc β).Throws s e ↔ c.Throws s e :=
  throws_map_iff (fun _ => b)

omit [Library] in
/-- What leaves the dispatch left a callback, or is in the item. -/
theorem unanswered_or_callback (h : (item.dispatch envelopeCallback returnedMessageCallback
    acknowledgeCallback).Throws (AMQPStruct.make memory, l, w) e) :
    item.unanswered = .thrown e ∨
      CallbackThrows envelopeCallback returnedMessageCallback acknowledgeCallback e := by
  cases item with
  | nothing => exact (not_throws_pure false h).elim
  | failed e' => exact Or.inl h
  | unreadable message e' =>
      have hscope : (withLocal message (fun m => beside (Message.destroy m)) (throw e') :
          Code (L × World) Exc Bool).Throws (l, w) e := h
      rw [throws_withLocal_iff (fun o s => message_destroy_ret o s.2)] at hscope
      exact Or.inl hscope
  | envelope => exact Or.inr (Or.inl ⟨_, throws_then_iff.mp h⟩)
  | acknowledge decoded =>
      have hcallback := throws_then_iff.mp (throws_beside_iff.mp h)
      exact Or.inr (Or.inr (Or.inr ⟨decoded, _, hcallback⟩))
  | returned r =>
      have hscope := throws_then_iff.mp (throws_beside_iff.mp h)
      have hcallback := (throws_withLocal_iff
        (fun o s => returnedMessage_destroy_ret o s.2)).mp hscope
      exact Or.inr (Or.inr (Or.inl ⟨_, hcallback⟩))

omit [Library] in
theorem dispatch_throws_unanswered (howns : item.Owns) (h : item.unanswered = .thrown e) :
    (item.dispatch envelopeCallback returnedMessageCallback acknowledgeCallback).Throws
      (AMQPStruct.make memory, l, w) e := by
  cases item with
  | nothing | envelope | acknowledge _ | returned _ => cases h
  | failed e' => exact h
  | unreadable message e' =>
      obtain ⟨memory', moved⟩ := message
      cases (show moved = false from howns)
      exact h

/-- What leaves a call left a callback, or is thrown by the call itself. -/
theorem consumeImpl_throws (h : (self.consumeImpl tv envelopeCallback returnedMessageCallback
    acknowledgeCallback).Throws (l, w) e) :
    self.ThrowsItself tv w e ∨
      CallbackThrows envelopeCallback returnedMessageCallback acknowledgeCallback e := by
  obtain ⟨contents, item, w', hreceive, hfits⟩ := @receive_fits _ self tv w
  have hconsumes : self.Consumes tv w _ item w' := consumes_of_receive hreceive
  rw [Throws, hconsumes] at h
  rcases unanswered_or_callback (scopes_throw_iff.mp h) with hitem | hcallback
  · refine Or.inl fun L' envelopeCallback' returnedMessageCallback' acknowledgeCallback' l' => ?_
    rw [Throws, hconsumes]
    exact scopes_throw_iff.mpr (dispatch_throws_unanswered hfits.owns hitem)
  · exact Or.inr hcallback

/-- What a call throws itself is in the item that it receives. -/
theorem throwsItself_iff (hreceive : (self.receive tv).run w =
    (.ret (AMQPStruct.make memory, item), w')) (howns : item.Owns) :
    self.ThrowsItself tv w e ↔ item.unanswered = .thrown e := by
  have hconsumes : self.Consumes tv w _ item w' := consumes_of_receive hreceive
  constructor
  · intro h
    have hunit := h Unit (pure () : Code _ _ _) (pure () : Code _ _ _) (fun _ => pure ()) ()
    rw [Throws, hconsumes] at hunit
    rcases unanswered_or_callback (scopes_throw_iff.mp hunit) with hitem | hcallback
    · exact hitem
    · rcases hcallback with ⟨_, hc⟩ | ⟨_, hc⟩ | ⟨_, _, hc⟩ <;> exact (not_throws_pure () hc).elim
  · intro hitem L' envelopeCallback' returnedMessageCallback' acknowledgeCallback' l'
    rw [Throws, hconsumes]
    exact scopes_throw_iff.mpr (dispatch_throws_unanswered howns hitem)

end Calls

section Identified

variable {self : Connection} {tv : Option Timeval} {w : World} {item : Item}

theorem failure_first (h : ¬ Unexpected (deliveryAnswer w).reply) :
    self.failure tv w = (self.deliveryReply w).failure :=
  if_neg h

theorem failure_content (h : FrameTaken tv w) {decoded : BasicReturn String}
    (hpayload : (frameAnswer tv w).payload = .method (.basicReturn decoded)) :
    self.failure tv w = (self.contentReply tv w).failure := by
  rw [Connection.failure, if_pos h.1, h.2, hpayload]

theorem failure_frame (h : Unexpected (deliveryAnswer w).reply)
    (hpayload : (frameAnswer tv w).status = .ok →
      ∀ decoded, (frameAnswer tv w).payload ≠ .method (.basicReturn decoded)) :
    self.failure tv w = ⟨some (self.deliveryReply w), (frameAnswer tv w).status,
      (self.arrivedFrame tv w).closed⟩ := by
  rw [Connection.failure, if_pos h]
  split
  · next decoded hstatus hreturn => exact absurd hreturn (hpayload hstatus decoded)
  · rfl

theorem failsPlainly_of_frame (h : Unexpected (deliveryAnswer w).reply)
    (hpayload : (frameAnswer tv w).status = .ok →
      ∀ decoded, (frameAnswer tv w).payload ≠ .method (.basicReturn decoded)) :
    self.FailsPlainly tv w := by
  refine ⟨fun _ hsocket => ?_, fun htaken decoded hreturn => ?_⟩
  · exact nomatch h.2.symm.trans hsocket
  · exact absurd hreturn (hpayload htaken.2 decoded)

theorem failsPlainly_of_first (h : ¬ Unexpected (deliveryAnswer w).reply)
    (hsocket : (deliveryAnswer w).reply.replyType = .libraryException →
      (deliveryAnswer w).reply.libraryError ≠ .socketError) : self.FailsPlainly tv w :=
  ⟨hsocket, fun htaken => absurd htaken.1 h⟩

theorem failsPlainly_of_content (h : FrameTaken tv w)
    (hcontent : ∀ decoded, (frameAnswer tv w).payload = .method (.basicReturn decoded) →
      (self.contentReply tv w).SparesChannels) : self.FailsPlainly tv w :=
  ⟨(fun _ hsocket => nomatch h.1.2.symm.trans hsocket), fun _ => hcontent⟩

/-- By what the call receives: its exception identifies the failure if and only if the call
fails plainly. -/
theorem received_identifies_iff (h : Receives self tv w item) :
    (∀ e, item.unanswered = .thrown e → e.Identifies (self.failure tv w)) ↔
      self.FailsPlainly tv w := by
  have hsilent (hitem : item.unanswered = .ret false) (hplain : self.FailsPlainly tv w) :
      (∀ e, item.unanswered = .thrown e → e.Identifies (self.failure tv w)) ↔
        self.FailsPlainly tv w :=
    iff_of_true (fun e he => nomatch hitem.symm.trans he) hplain
  have hright {e : Exc} (hitem : item.unanswered = .thrown e)
      (he : e.Identifies (self.failure tv w)) (hplain : self.FailsPlainly tv w) :
      (∀ e, item.unanswered = .thrown e → e.Identifies (self.failure tv w)) ↔
        self.FailsPlainly tv w := by
    refine iff_of_true (fun e' he' => ?_) hplain
    cases hitem.symm.trans he'
    exact he
  have hother {payload : PayloadContents} (hpayload : (frameAnswer tv w).payload = payload)
      (hreturn : ∀ decoded, payload ≠ .method (.basicReturn decoded)) :
      (frameAnswer tv w).status = .ok →
        ∀ decoded, (frameAnswer tv w).payload ≠ .method (.basicReturn decoded) :=
    fun _ decoded h => hreturn decoded (hpayload.symm.trans h)
  cases h with
  | delivery htype hchannel | channelZero htype hchannel =>
      refine hsilent rfl (failsPlainly_of_first (fun hun => ?_) fun hlibrary => ?_)
      · exact nomatch htype.symm.trans hun.1
      · exact nomatch htype.symm.trans hlibrary
  | firstTimeout htype herror =>
      refine hsilent rfl (failsPlainly_of_first (fun hun => ?_) fun _ hsocket => ?_)
      · exact nomatch herror.symm.trans hun.2
      · exact nomatch herror.symm.trans hsocket
  | socketError htype herror =>
      refine iff_of_false (fun hall => ?_) (fun hplain => hplain.first htype herror)
      exact (hall _ rfl).2 rfl
  | otherError htype herror htimeout hsocket what =>
      have hfirst : ¬ Unexpected (deliveryAnswer w).reply := fun hun => herror hun.2
      refine hright rfl ?_ (failsPlainly_of_first hfirst fun _ => hsocket)
      rw [failure_first hfirst]
      rfl
  | otherReply hnormal hlibrary what =>
      have hfirst : ¬ Unexpected (deliveryAnswer w).reply := fun hun => hlibrary hun.1
      refine hright rfl ?_ (failsPlainly_of_first hfirst fun h => absurd h hlibrary)
      rw [failure_first hfirst]
      rfl
  | secondTimeout harrived hstatus =>
      refine hsilent rfl (failsPlainly_of_frame harrived fun hok => ?_)
      exact nomatch hstatus.symm.trans hok
  | otherStatus harrived hok htimeout what =>
      have hframe : (frameAnswer tv w).status = .ok →
          ∀ decoded, (frameAnswer tv w).payload ≠ .method (.basicReturn decoded) :=
        fun h => absurd h hok
      refine hright rfl ?_ (failsPlainly_of_frame harrived hframe)
      rw [failure_frame harrived hframe]
      exact ⟨rfl, rfl, hok⟩
  | otherFrame htaken hpayload what =>
      have hframe := hother hpayload (by nofun)
      refine hright rfl ?_ (failsPlainly_of_frame htaken.1 hframe)
      rw [failure_frame htaken.1 hframe]
      rfl
  | otherMethod htaken hpayload what =>
      have hframe := hother hpayload (by nofun)
      refine hright rfl ?_ (failsPlainly_of_frame htaken.1 hframe)
      rw [failure_frame htaken.1 hframe]
      rfl
  | channelClose htaken hpayload =>
      have hframe := hother hpayload (by nofun)
      refine hright rfl ?_ (failsPlainly_of_frame htaken.1 hframe)
      rw [failure_frame htaken.1 hframe, Connection.arrivedFrame, hpayload]
      rfl
  | connectionClose htaken hpayload =>
      have hframe := hother hpayload (by nofun)
      exact hright rfl trivial (failsPlainly_of_frame htaken.1 hframe)
  | acknowledge htaken hpayload =>
      exact hsilent rfl (failsPlainly_of_frame htaken.1 (hother hpayload (by nofun)))
  | returned htaken hpayload hread =>
      refine hsilent rfl (failsPlainly_of_content htaken fun _ _ => ?_)
      exact spares_of_normal hread
  | unreadable htaken hpayload hread =>
      have hspares := processReply_identifies_iff hread
      rw [← failure_content htaken hpayload] at hspares
      constructor
      · intro hall
        exact failsPlainly_of_content htaken fun _ _ => hspares.mp (hall _ rfl)
      · intro hplain e he
        cases he
        exact hspares.mpr (hplain.content htaken _ hpayload)

/-- The exceptions that a call of `consumeImpl` throws itself identify the failure if and only
if the call fails plainly. -/
theorem consumeImpl_identifies_iff (self : Connection) (tv : Option Timeval) (w : World) :
    (∀ e, self.ThrowsItself tv w e → e.Identifies (self.failure tv w)) ↔
      self.FailsPlainly tv w := by
  obtain ⟨item, w', hreceive, hreceives⟩ := receive_receives self tv w
  obtain ⟨contents, item', w'', hreceive', hfits⟩ := @receive_fits _ self tv w
  obtain ⟨hret, rfl⟩ := Prod.mk.inj (hreceive.symm.trans hreceive')
  obtain ⟨-, rfl⟩ := Prod.mk.inj (Outcome.ret.inj hret)
  rw [← received_identifies_iff hreceives]
  exact forall_congr' fun e => imp_congr_left (throwsItself_iff hreceive hfits.owns)

end Identified

end Consume

/-! ## The consumers -/

namespace MessageKind

/-- The user's callback is left by the exception. -/
def HandlerThrows (kind : MessageKind) (callback : kind.Handler) (e : Exc) : Prop :=
  match kind, callback with
  | envelope, callback => callback.CanThrow e
  | returnedMessage, callback => callback.CanThrow e
  | acknowledge, callback => ∃ decoded, (callback decoded).CanThrow e

section Lambdas

variable {O : Type} {P : Passed O} {callback : UserCallback O} {e : Exc}

theorem canThrow_of_calling (hd : ∀ o w, ((P.destroy o).run w).1 = .ret ())
    (h : (P.calling callback).CanThrow e) : callback.CanThrow e := by
  obtain ⟨⟨o, done, w⟩, h⟩ := h
  rw [Passed.calling, throws_passByValue_iff (fun o s => hd o s.2)] at h
  rcases throws_bind_iff.mp h with hflag | ⟨_, ⟨o', done', w'⟩, -, hcallback⟩
  · cases hflag
  · exact ⟨(o', w'), hcallback⟩

theorem not_canThrow_ignoring : ¬ (ignoring O).CanThrow e := by
  rintro ⟨s, h⟩
  cases h

/-- Of the three lambdas, only the one that calls the user's callback lets anything out. -/
theorem handlerThrows_of_callbackThrows {kind : MessageKind} {callback : kind.Handler}
    (h : CallbackThrows (kind.onEnvelope callback) (kind.onReturned callback)
      (kind.onAcknowledge callback) e) : kind.HandlerThrows callback e := by
  cases kind with
  | envelope =>
      rcases h with h | h | ⟨decoded, s, h⟩
      · exact canThrow_of_calling envelope_destroy_ret h
      · exact (not_canThrow_ignoring h).elim
      · cases h
  | returnedMessage =>
      rcases h with h | h | ⟨decoded, s, h⟩
      · exact (not_canThrow_ignoring h).elim
      · exact canThrow_of_calling returnedMessage_destroy_ret h
      · cases h
  | acknowledge =>
      rcases h with h | h | ⟨decoded, ⟨done, w⟩, h⟩
      · exact (not_canThrow_ignoring h).elim
      · exact (not_canThrow_ignoring h).elim
      · rcases throws_bind_iff.mp h with hflag | ⟨_, s, -, hcallback⟩
        · cases hflag
        · exact ⟨decoded, s.2, hcallback⟩

end Lambdas

variable [Library] (kind : MessageKind) (self : Connection) (callback : kind.Handler)

/-- The consumer, called in `w`, calls `consume` with the timeout `t` in `v`. -/
def Calls {p : Period} (timeout : Duration p) (w : World) (t : ClockDuration) (v : World) :
    Prop :=
  ∃ vars s, Reaches (self.consuming.turn (kind.onEnvelope callback) (kind.onReturned callback)
      (kind.onAcknowledge callback) (Library.now w.calls))
      ((durationCast .nanoseconds timeout, false), (false, w.tick)) (vars, s) ∧
    t = nextTimeout vars.1 (Library.now w.calls) (Library.now s.2.calls) ∧ v = s.2.tick

/-- The same without a timeout. -/
def CallsBlocking (w v : World) : Prop :=
  ∃ done, Reaches (self.consuming.blockingTurn (kind.onEnvelope callback)
    (kind.onReturned callback) (kind.onAcknowledge callback)) ((), (false, w)) ((), (done, v))

variable {kind self callback} {w : World} {e : Exc}

/-- What leaves a consumer left the user's callback, or one of its calls of `consume` throws it
itself. -/
theorem timed_throws {p : Period} {timeout : Duration p} {fuel : Nat}
    (h : (kind.timed self.consuming timeout callback fuel).Throws w e) :
    kind.HandlerThrows callback e ∨
      ∃ t v, kind.Calls self callback timeout w t v ∧
        self.ThrowsItself (some (timeValue t)) v e := by
  rw [MessageKind.timed_eq, Consume.untilDone, throws_withLocal_iff (fun _ _ => rfl)] at h
  rcases throws_bind_iff.mp h with hclock | ⟨start, s, hstart, hrest⟩
  · cases hclock
  cases hstart
  rcases throws_bind_iff.mp hrest with hloop | ⟨vars, s', -, hpure⟩
  · obtain ⟨vars, s', hreaches, hturn⟩ := throws_doWhile hloop
    rw [Consume.turn] at hturn
    rcases throws_bind_iff.mp hturn with hclock | ⟨now, s₁, hnow, hcall⟩
    · cases hclock
    cases hnow
    rcases throws_bind_iff.mp hcall with hthrown | ⟨r, s₂, -, hget⟩
    · rcases consumeImpl_throws hthrown with hitself | hcallback
      · exact Or.inr ⟨_, _, ⟨vars, s', hreaches, rfl, rfl⟩, hitself⟩
      · exact Or.inl (handlerThrows_of_callbackThrows hcallback)
    · cases hget
  · exact (not_throws_pure _ hpure).elim

theorem blocking_throws {fuel : Nat}
    (h : (kind.blocking self.consuming callback fuel).Throws w e) :
    kind.HandlerThrows callback e ∨
      ∃ v, kind.CallsBlocking self callback w v ∧ self.ThrowsItself none v e := by
  rw [MessageKind.blocking_eq, Consume.blockingUntilDone,
    throws_withLocal_iff (fun _ _ => rfl)] at h
  obtain ⟨vars, ⟨done, v⟩, hreaches, hturn⟩ := throws_doWhile h
  rw [Consume.blockingTurn] at hturn
  rcases throws_bind_iff.mp hturn with hthrown | ⟨_, s₁, -, hget⟩
  · have hcall := throws_then_iff.mp hthrown
    rcases consumeImpl_throws hcall with hitself | hcallback
    · exact Or.inr ⟨v, ⟨done, hreaches⟩, hitself⟩
    · exact Or.inl (handlerThrows_of_callbackThrows hcallback)
  · cases hget

end MessageKind

/-! ## All paths -/

section AllPaths

variable [Library]

/-- Every way an exception leaves the library: an operation; a consume call, whose callbacks may
throw, too; the consumers, whose exceptions are those of their consume calls; `Connection::rpc`
with a callable; and the constructor of a connection. -/
theorem exceptions_identify_iff {L α : Type} {p : Period} (op : Operation) (self : Connection)
    (tv : Option Timeval) (envelopeCallback : Callback Envelope L)
    (returnedMessageCallback : Callback ReturnedMessage L)
    (acknowledgeCallback : AcknowledgeCallback L) (l : L) (kind : MessageKind)
    (callback : kind.Handler) (timeout : Duration p) (fuel : Nat)
    (f : Handle → Code World Exc α) (setup : Setup) (w : World) :
    ((∀ e, op.code.Throws w e → e.Identifies (op.examined w).failure) ↔
      (op.LetsOut → (op.examined w).SparesChannels)) ∧
    ((∀ e, self.ThrowsItself tv w e → e.Identifies (self.failure tv w)) ↔
      self.FailsPlainly tv w) ∧
    (∀ e, (self.consumeImpl tv envelopeCallback returnedMessageCallback
        acknowledgeCallback).Throws (l, w) e →
      self.ThrowsItself tv w e ∨
        CallbackThrows envelopeCallback returnedMessageCallback acknowledgeCallback e) ∧
    (∀ e, (kind.timed self.consuming timeout callback fuel).Throws w e →
      kind.HandlerThrows callback e ∨ ∃ t v, kind.Calls self callback timeout w t v ∧
        self.ThrowsItself (some (timeValue t)) v e) ∧
    (∀ e, (kind.blocking self.consuming callback fuel).Throws w e →
      kind.HandlerThrows callback e ∨
        ∃ v, kind.CallsBlocking self callback w v ∧ self.ThrowsItself none v e) ∧
    (∀ e, (self.rpc f).Throws w e → (f self.connection_).Throws w e ∨
      e.Identifies (((f self.connection_).run w).2.conns self.connection_).lastReply.failure ∨
      e.IsChannelClose) ∧
    (∀ e, setup.code.Throws w e → e.Identifies (setup.failure w) ∨ e.IsChannelClose) :=
  ⟨operation_identifies_iff op w, consumeImpl_identifies_iff self tv w,
    fun _ h => consumeImpl_throws h, fun _ h => MessageKind.timed_throws h,
    fun _ h => MessageKind.blocking_throws h, fun _ h => connection_rpc_throws h,
    fun _ h => setup_throws h⟩

end AllPaths

/-! ## A channel that is closed while a queue is declared -/

/-- Every synchronous RPC is answered by closing the channel it was made on. -/
@[reducible] def closesChannelSeven : Library :=
  { allSucceed with
    sync := fun _ =>
      { reply := ⟨.serverException, 7, some (.channelClose ⟨406, "PRECONDITION_FAILED"⟩), .ok⟩
        ok := ⟨"", 0, false⟩
        arrivals := [] } }

/-- `declare` throws a `ChannelCloseException` that names channel 0. -/
theorem declare_names_channel_zero :
    ¬ ∀ e, (@Operation.code closesChannelSeven
        (.queue ⟨⟨⟨some 1, "Connection(1): "⟩, 7, "Channel(7): ", false⟩, "q", "Queue(q): "⟩
          (.declare false true false false []))).Throws .initial e →
      e.Identifies (@Operation.examined closesChannelSeven
        (.queue ⟨⟨⟨some 1, "Connection(1): "⟩, 7, "Channel(7): ", false⟩, "q", "Queue(q): "⟩
          (.declare false true false false [])) .initial).failure := by
  intro hall
  have hchannel := hall _ rfl
  cases hchannel

end RmqCxx
