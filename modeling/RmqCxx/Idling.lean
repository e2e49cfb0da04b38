/-
# `RmqCxx.Idling` — what consumers leave as it is

Between a consumer's call and the callback it calls, if it gets that far, only so much can
happen: the clock is read, structures are made and destroyed, frames are taken off the
connection, and buffers are released.  A relation between the worlds before and after that
these keep (`Idling`) is kept by the whole run up to the callback, and by the way out after
it (`progress_idles`).
-/
import RmqCxx.Arrivals
import RmqCxx.ConsumerRuns
import RmqCxx.Cpp.Keeping

namespace RmqCxx

open Cpp Code

/-- What happens in a consume call besides its callbacks keeps `R`. -/
structure Idling (R : World → World → Prop) : Prop where
  fresh (w : World) : R w w.fresh
  tick (w : World) : R w w.tick
  taking (w : World) (h : Handle) {f : CFunction} (args : List Arg) (queued : List ChannelId)
    (hf : f = .consumeMessage ∨ f = .simpleWaitFrameNoblock ∨ f = .readMessage) :
    R w (w.afterTaking h f args queued)
  envelope (w : World) (ident : Nat) : R w (w.envelopeDestroyed ident)
  message (w : World) (ident : Nat) : R w (w.messageDestroyed ident)
  released (w : World) (h : Handle) : R w (w.released h)

section Idling

variable {R : World → World → Prop} [Std.Refl R] [IsTrans World R] (hR : Idling R)

include hR

/-! ## The way out -/

omit [IsTrans World R] in
theorem ignored_idles (w : World) (received : Received) : R w (received.ignored w) := by
  cases received with
  | envelope memory => exact hR.envelope w _
  | returned memory _ => exact hR.message w _
  | nothing | acknowledge _ | failed _ => exact refl w

omit [Std.Refl R] in
theorem close_idles (h : Handle) (memory : AmqpEnvelope) (w : World) (item : Item) :
    R w (item.close h memory w) := by
  cases item with
  | envelope => exact hR.released w h
  | unreadable message _ =>
      exact IsTrans.trans _ _ _ (hR.message w _)
        (IsTrans.trans _ _ _ (hR.envelope _ _) (hR.released _ h))
  | nothing | acknowledge _ | returned _ | failed _ =>
      exact IsTrans.trans _ _ _ (hR.envelope w _) (hR.released _ h)

variable [Library] (self : Connection) (tv : Option Timeval)

/-! ## Receiving -/

omit [Std.Refl R] in
theorem receiveReturn_idles (frame : Frame) (decoded : BasicReturn Bytes) :
    Keeps R (self.receiveReturn frame decoded) := by
  intro w
  rw [receiveReturn_run]
  exact IsTrans.trans _ _ _ (hR.fresh w) (hR.taking w.fresh _ _ _ (.inr (.inr rfl)))

theorem receiveFrame_idles (start : ClockDuration) (reply : RpcReply) :
    Keeps R (self.receiveFrame tv start reply) := by
  have htimeout : Keeps R (Connection.secondTimeout start tv) := by
    cases tv with
    | none => exact keeps_pure none
    | some tv => exact keeps_bind hR.tick fun _ => keeps_pure _
  refine keeps_bind htimeout fun tv =>
    keeps_bind (fun w => hR.taking w _ _ _ (.inr (.inl rfl))) ?_
  rintro ⟨status, ⟨channel, payload⟩⟩
  dsimp only
  cases status with
  | timeout => exact keeps_pure _
  | socketError | unexpectedState | other _ => exact keeps_pure _
  | ok =>
      cases payload with
      | other _ => exact keeps_pure _
      | method m =>
          dsimp only
          cases m.decoded with
          | basicReturn decoded => exact receiveReturn_idles hR self _ decoded
          | basicAck _ | channelClose _ | connectionClose _ | other _ => exact keeps_pure _

theorem receiveItem_idles (start : ClockDuration) (reply : RpcReply) (memory : AmqpEnvelope) :
    Keeps R (self.receiveItem tv start reply memory) := by
  rw [Connection.receiveItem]
  cases reply.replyType with
  | normal => exact keeps_ite (keeps_pure _) (keeps_pure _)
  | none | serverException | other _ => exact keeps_pure _
  | libraryException =>
      dsimp only
      cases reply.libraryError with
      | unexpectedState => exact receiveFrame_idles hR self tv start reply
      | ok | timeout | socketError | other _ => exact keeps_pure _

theorem receive_idles : Keeps R (self.receive tv) := by
  refine keeps_bind hR.fresh fun ident => keeps_bind hR.tick fun start =>
    keeps_bind (fun w => hR.taking w _ _ _ (.inl rfl)) ?_
  rintro ⟨reply, memory⟩
  exact keeps_bind (receiveItem_idles hR self tv start reply memory) fun item => keeps_pure _

/-! ## Runs of consumers -/

theorem take_idles (timeout : Option ClockDuration) (w : World) :
    R w (self.source.take timeout w).2 := by
  obtain ⟨contents, item, w', hreceive, -⟩ := @receive_fits _ self (timeout.map timeValue) w
  have hidles := receive_idles hR self (timeout.map timeValue) w
  rw [hreceive] at hidles
  simp only [Connection.source, hreceive]
  exact hidles

omit [Std.Refl R] in
theorem leave_idles (timeout : Option ClockDuration) (w w' : World) :
    R w' (self.source.leave timeout w w') := by
  obtain ⟨contents, item, w₁, hreceive, -⟩ := @receive_fits _ self (timeout.map timeValue) w
  simp only [Connection.source, hreceive]
  exact close_idles hR _ _ w' item

/-- The last thing received, in the world `last`: `w₁` is the world before that call. -/
structure LastTaken (self : Connection) (kind : MessageKind) (R : World → World → Prop)
    (w last : World) (ending : Received × (World → World)) : Prop where
  stops : kind.stops ending.1 = true
  leave (w' : World) : R w' (ending.2 w')
  taken : ∃ timeout w₁, R w w₁ ∧ self.source.take (some timeout) w₁ = (ending.1, last)

omit hR [Std.Refl R] in
theorem LastTaken.earlier {self : Connection} {kind : MessageKind} {v w last : World}
    {ending : Received × (World → World)} (hv : R v w) (h : LastTaken self kind R w last ending) :
    LastTaken self kind R v last ending := by
  obtain ⟨hstops, hleave, timeout, w₁, hw₁, htaken⟩ := h
  exact ⟨hstops, hleave, timeout, w₁, IsTrans.trans _ _ _ hv hw₁, htaken⟩

/-- The induction is on the number of turns. -/
theorem progress_idles (kind : MessageKind) (start : ClockDuration) (fuel : Nat)
    (timeout : ClockDuration) (w : World) :
    R w (self.source.progress kind start fuel timeout w).world ∧
      ∀ ending ∈ (self.source.progress kind start fuel timeout w).ending,
        LastTaken self kind R w (self.source.progress kind start fuel timeout w).world ending := by
  induction fuel generalizing timeout w with
  | zero =>
      refine ⟨refl w, fun ending hending => ?_⟩
      cases hending
  | succ fuel ih =>
      generalize ht : nextTimeout timeout start (Library.now w.calls) = timeout'
      obtain ⟨received, w', htake⟩ : ∃ received w',
          self.source.take (some timeout') w.tick = (received, w') := ⟨_, _, rfl⟩
      have hw' : R w.tick w' := by
        have hidles := take_idles hR self (some timeout') w.tick
        rwa [htake] at hidles
      rw [Source.progress, ht, htake]
      dsimp only
      cases h : kind.stops received with
      | true =>
          rw [if_pos rfl]
          refine ⟨IsTrans.trans _ _ _ (hR.tick w) hw', fun ending hending => ?_⟩
          cases hending
          exact ⟨h, leave_idles hR self (some timeout') w.tick, timeout', w.tick, hR.tick w, htake⟩
      | false =>
          rw [if_neg Bool.false_ne_true]
          have hleft : R w (self.source.leave (some timeout') w.tick (received.ignored w')) :=
            IsTrans.trans _ _ _ (hR.tick w) (IsTrans.trans _ _ _ hw'
              (IsTrans.trans _ _ _ (ignored_idles hR w' received)
                (leave_idles hR self (some timeout') w.tick _)))
          obtain ⟨hworld, hends⟩ := ih timeout' _
          exact ⟨IsTrans.trans _ _ _ hleft hworld, fun ending hending =>
            (hends ending hending).earlier hleft⟩

/-- A whole call of a consumer with a timeout. -/
theorem timed_idles (kind : MessageKind) {p : Period} (timeout : Duration p) (fuel : Nat)
    (w : World) :
    ∃ progress : Progress,
      (∀ callback, (kind.timed self.consuming timeout callback fuel).run w =
        kind.conclude callback progress) ∧
      R w progress.world ∧
      ∀ ending ∈ progress.ending, LastTaken self kind R w progress.world ending := by
  obtain ⟨hworld, hends⟩ := progress_idles hR self kind (Library.now w.calls) fuel
    (durationCast .nanoseconds timeout) w.tick
  refine ⟨_, fun callback => ?_, IsTrans.trans _ _ _ (hR.tick w) hworld,
    fun ending hending => (hends ending hending).earlier (hR.tick w)⟩
  rw [self.consuming_eq]
  exact timed_run timeout fuel w

end Idling
end RmqCxx
