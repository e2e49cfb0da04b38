/-
# `RmqCxx.ConsumeRuns` — one consume call with given callbacks

`consume_run` puts together what is received (`Connection.receive`), what the
callback does with it (`Script.final`) and what happens on the way out: the local
envelope is destroyed if it was not handed on, and then the buffers are released.
`receive_fits` says what is known of what is received.
-/
import RmqCxx.Consume
import RmqCxx.Callbacks

namespace RmqCxx

open Cpp Code

/-- The three callbacks of a consume call. -/
structure Callbacks where
  envelope : Script
  returned : Script
  acknowledgeOps : List Operation
  acknowledgeExit : Option Nat

/-- The world after the buffers of all channels were released. -/
def World.released (w : World) (h : Handle) : World :=
  (w.tell (.call .maybeReleaseBuffers h [])).setConn h ((w.conns h).recycle (fun _ => true))

section Consume

variable [Library]

def Callbacks.acknowledge (cbs : Callbacks) : Code World Exc Unit := do
  operate cbs.acknowledgeOps
  exitCode cbs.acknowledgeExit

/-- `consumeImpl` with these callbacks, which capture nothing. -/
def Connection.consumeWith (self : Connection) (tv : Option Timeval) (cbs : Callbacks) :
    Code World Exc Bool :=
  ⟨fun w =>
    let (r, (_, w)) := (self.consumeImpl tv (past (cbs.envelope.code Envelope.passed))
      (past (cbs.returned.code ReturnedMessage.passed))
      (fun _ => beside cbs.acknowledge)).run ((), w)
    (r, w)⟩

/-- How the scope of the envelope ends, and the world then; `none` if the callback ends
the program. -/
def Callbacks.dispatched (cbs : Callbacks) (memory : AmqpEnvelope) (item : Item) (w : World) :
    Option (Outcome Exc Bool × World) :=
  match item with
  | .nothing => some (.ret false, w.envelopeDestroyed memory.ident)
  | .envelope =>
      (cbs.envelope.final Envelope.passed (AMQPStruct.make memory) w).map fun w =>
        ((exitOutcome cbs.envelope.exit).map (fun _ => true), w)
  | .acknowledge _ =>
      (runOps cbs.acknowledgeOps w).map fun w =>
        ((exitOutcome cbs.acknowledgeExit).map (fun _ => true), w.envelopeDestroyed memory.ident)
  | .returned r =>
      (cbs.returned.final ReturnedMessage.passed r w).map fun w =>
        ((exitOutcome cbs.returned.exit).map (fun _ => true), w.envelopeDestroyed memory.ident)
  | .failed e => some (.thrown e, w.envelopeDestroyed memory.ident)
  | .unreadable message e =>
      some (.thrown e,
        (w.messageDestroyed message.memory_.ident).envelopeDestroyed memory.ident)

/-- The local message of a received item was not moved from. -/
def Item.Owns : Item → Prop
  | .returned r => r.message_.moved_ = false
  | .unreadable message _ => message.moved_ = false
  | _ => True

section Dispatch

variable {cbs : Callbacks} {memory : AmqpEnvelope} {w w' : World}

omit [Library] in
/-- Outside the scope of the envelope. -/
theorem besideDispatch_run {c : Code (Unit × World) Exc Bool} {o : Outcome Exc Bool}
    (ho : o ≠ .terminate) (hc : c.run ((), w) = (o, ((), w'))) :
    (withLocal (AMQPStruct.make memory : Envelope) (fun e => beside (Envelope.destroy e))
        (beside c)).run ((), w) =
      (o, ((), w'.envelopeDestroyed memory.ident)) := by
  have hrun : (beside c).run ((AMQPStruct.make memory : Envelope), ((), w)) =
      (o, (AMQPStruct.make memory, ((), w'))) := by
    rw [beside_run, hc]
  rw [withLocal_of ho hrun]
  show (o.leave (.ret ()), _) = _
  rw [Outcome.leave_ret]
  rfl

omit [Library] in
theorem exitOutcome_map_ne {exit : Option Nat} :
    (exitOutcome exit).map (fun _ => true) ≠ .terminate :=
  Outcome.map_ne_terminate (exitOutcome_ne_terminate exit)

/-- The scope of the envelope, when the callback does not end the program. -/
theorem dispatch_run {item : Item} (hitem : item.Owns) {o : Outcome Exc Bool}
    (h : cbs.dispatched memory item w = some (o, w')) :
    o ≠ .terminate ∧
    (withLocal (AMQPStruct.make memory) (fun e => beside (Envelope.destroy e))
      (item.dispatch (past (cbs.envelope.code Envelope.passed))
        (past (cbs.returned.code ReturnedMessage.passed))
        (fun _ => beside cbs.acknowledge))).run ((), w) = (o, ((), w')) := by
  cases item with
  | nothing =>
      cases h
      exact ⟨nofun, besideDispatch_run nofun rfl⟩
  | failed e =>
      cases h
      exact ⟨nofun, besideDispatch_run nofun rfl⟩
  | envelope =>
      obtain ⟨w₂, hfinal, hw⟩ := Option.map_eq_some_iff.mp h
      cases hw
      have hscope : (withLocal (AMQPStruct.make memory) Envelope.destroy
          (cbs.envelope.code Envelope.passed)).run w = _ := scope_run rfl hfinal
      refine ⟨exitOutcome_map_ne, ?_⟩
      rw [Item.dispatch, withLocal_then, withLocal_past, hscope]
  | acknowledge decoded =>
      obtain ⟨w₂, hops, hw⟩ := Option.map_eq_some_iff.mp h
      cases hw
      refine ⟨exitOutcome_map_ne, besideDispatch_run exitOutcome_map_ne ?_⟩
      have hrun := operate_run cbs.acknowledgeOps w
      rw [hops] at hrun
      rw [Item.dispatchFrame, run_then, beside_run, Callbacks.acknowledge, bind_of_ret hrun,
        exitCode_run]
  | returned r =>
      obtain ⟨w₂, hfinal, hw⟩ := Option.map_eq_some_iff.mp h
      cases hw
      have hscope : (withLocal r ReturnedMessage.destroy
          (cbs.returned.code ReturnedMessage.passed)).run w = _ := scope_run hitem hfinal
      refine ⟨exitOutcome_map_ne, besideDispatch_run exitOutcome_map_ne ?_⟩
      rw [Item.dispatchFrame, run_then, withLocal_past, hscope]
  | unreadable message e =>
      cases h
      refine ⟨nofun, besideDispatch_run nofun ?_⟩
      obtain ⟨memory', moved⟩ := message
      cases (show moved = false from hitem)
      rfl

/-- And when it does. -/
theorem dispatch_run_none {item : Item} (hitem : item.Owns)
    (h : cbs.dispatched memory item w = none) :
    ((withLocal (AMQPStruct.make memory) (fun e => beside (Envelope.destroy e))
      (item.dispatch (past (cbs.envelope.code Envelope.passed))
        (past (cbs.returned.code ReturnedMessage.passed))
        (fun _ => beside cbs.acknowledge))).run ((), w)).1 = .terminate := by
  cases item with
  | nothing | failed _ | unreadable _ _ => cases h
  | envelope =>
      have hfinal := Option.map_eq_none_iff.mp h
      have hscope : ((withLocal (AMQPStruct.make memory) Envelope.destroy
          (cbs.envelope.code Envelope.passed)).run w).1 = _ := scope_run_none rfl hfinal
      rw [Item.dispatch, withLocal_then, withLocal_past, hscope]
      rfl
  | acknowledge decoded =>
      have hops := Option.map_eq_none_iff.mp h
      have hrun := operate_run cbs.acknowledgeOps w
      rw [hops] at hrun
      have hne : Item.acknowledge decoded ≠ .envelope := nofun
      refine withLocal_terminate ?_
      rw [dispatch_of_ne hne, beside_run, Item.dispatchFrame, run_then, beside_run]
      show ((cbs.acknowledge.run w).1).map _ = _
      rw [Callbacks.acknowledge, terminate_of_bind hrun]
      rfl
  | returned r =>
      have hfinal := Option.map_eq_none_iff.mp h
      have hscope : ((withLocal r ReturnedMessage.destroy
          (cbs.returned.code ReturnedMessage.passed)).run w).1 = _ := scope_run_none hitem hfinal
      have hne : Item.returned r ≠ .envelope := nofun
      refine withLocal_terminate ?_
      rw [dispatch_of_ne hne, beside_run, Item.dispatchFrame, run_then, withLocal_past, hscope]
      rfl

end Dispatch

end Consume

/-! ## What is received -/

/-- An entry of the log made by waiting for frames. -/
def Event.IsWait : Event → Prop
  | .call f _ _ => f = .consumeMessage ∨ f = .simpleWaitFrameNoblock ∨ f = .readMessage
  | _ => False

theorem Event.IsWait.call {e : Event} (h : e.IsWait) : ∃ f state args, e = .call f state args := by
  cases e with
  | call f state args => exact ⟨f, state, args, rfl⟩
  | newConnection _ | tcpSocketNew _ _ | destroyEnvelope _ | destroyMessage _ | deref _ _
  | lifeEnds _ => exact h.elim

/-- From `w` to `w'` the program waited for frames, and created the structures with the
identities in between. -/
structure World.Waits (w w' : World) : Prop where
  log : World.Appends Event.IsWait w w'
  kept : w'.kept = w.kept
  recycled (h : Handle) : (w'.conns h).recycled = (w.conns h).recycled
  created : w.nextIdent ≤ w'.nextIdent
  freed (i : Nat) : i < w.nextIdent → w'.freed i = w.freed i
  fresh (i : Nat) : w.nextIdent ≤ i → i < w'.nextIdent → w'.freed i = false

namespace World.Waits

instance : Std.Refl World.Waits where
  refl w := ⟨refl w, rfl, fun _ => rfl, Nat.le_refl _, fun _ _ => rfl,
    fun _ hi hi' => absurd hi (Nat.not_le.mpr hi')⟩

instance : IsTrans World World.Waits where
  trans := by
    intro u v w huv hvw
    refine ⟨IsTrans.trans _ _ _ huv.log hvw.log, hvw.kept.trans huv.kept,
      fun h => (hvw.recycled h).trans (huv.recycled h), Nat.le_trans huv.created hvw.created,
      fun i hi => ?_, fun i hi hi' => ?_⟩
    · exact (hvw.freed i (Nat.lt_of_lt_of_le hi huv.created)).trans (huv.freed i hi)
    · rcases Nat.lt_or_ge i v.nextIdent with hiv | hiv
      · exact (hvw.freed i hiv).trans (huv.fresh i hi hiv)
      · exact hvw.fresh i hiv hi'

end World.Waits

theorem waits_fresh (w : World) : w.Waits w.fresh := by
  refine ⟨.of_log_eq rfl, rfl, fun _ => rfl, Nat.le_succ _, fun i hi => ?_, fun i hi hi' => ?_⟩
  · exact if_neg (Nat.ne_of_lt hi)
  · exact if_pos (Nat.le_antisymm (Nat.lt_succ_iff.mp hi') hi)

theorem waits_tick (w : World) : w.Waits w.tick :=
  ⟨.of_log_eq rfl, rfl, fun _ => rfl, Nat.le_refl _, fun _ _ => rfl,
    fun _ hi hi' => absurd hi (Nat.not_le.mpr hi')⟩

theorem waits_afterTaking (w : World) (h : Handle) {f : CFunction} (args : List Arg)
    (queued : List ChannelId)
    (hf : f = .consumeMessage ∨ f = .simpleWaitFrameNoblock ∨ f = .readMessage) :
    w.Waits (w.afterTaking h f args queued) := by
  refine ⟨.of_tell rfl hf, rfl, fun h' => ?_, Nat.le_refl _, fun _ _ => rfl,
    fun _ hi hi' => absurd hi (Nat.not_le.mpr hi')⟩
  show (if h' = h then _ else w.conns h').recycled = _
  split
  · next heq => rw [heq]
  · rfl

section Receive

variable [Library] {self : Connection}

theorem waits_secondTimeout (start : ClockDuration) (tv : Option Timeval) :
    Keeps World.Waits (Connection.secondTimeout start tv) := by
  cases tv with
  | none => exact keeps_pure _
  | some tv => exact keeps_bind waits_tick fun _ => keeps_pure _

theorem waits_receiveReturn (frame : Frame) (decoded : BasicReturn Bytes) :
    Keeps World.Waits (self.receiveReturn frame decoded) := by
  refine keeps_bind waits_fresh fun ident => keeps_bind ?_ ?_
  · intro w
    exact waits_afterTaking w _ _ _ (.inr (.inr rfl))
  · rintro ⟨reply, memory⟩
    dsimp only
    cases Connection.processReply (self.context_ ++ " Consumer (return method): ") reply with
    | ok _ | error _ => exact keeps_pure _

theorem waits_receiveFrame (tv : Option Timeval) (start : ClockDuration) (reply : RpcReply) :
    Keeps World.Waits (self.receiveFrame tv start reply) := by
  refine keeps_bind (waits_secondTimeout start tv) fun tv => keeps_bind ?_ ?_
  · intro w
    exact waits_afterTaking w _ _ _ (.inr (.inl rfl))
  · rintro ⟨status, ⟨channel, payload⟩⟩
    dsimp only
    cases status with
    | timeout | socketError | unexpectedState | other _ => exact keeps_pure _
    | ok =>
        cases payload with
        | other _ => exact keeps_pure _
        | method m =>
            dsimp only
            cases m.decoded with
            | basicReturn decoded => exact waits_receiveReturn _ _
            | basicAck _ | channelClose _ | connectionClose _ | other _ => exact keeps_pure _

theorem waits_receive (tv : Option Timeval) : Keeps World.Waits (self.receive tv) := by
  refine keeps_bind waits_fresh fun ident => keeps_bind waits_tick fun start =>
    keeps_bind (fun w => waits_afterTaking w _ _ _ (.inl rfl)) ?_
  rintro ⟨reply, memory⟩
  refine keeps_bind ?_ fun item => keeps_pure _
  unfold Connection.receiveItem
  cases reply.replyType with
  | none | serverException | other _ => exact keeps_pure _
  | normal =>
      dsimp only
      split <;> exact keeps_pure _
  | libraryException =>
      dsimp only
      cases reply.libraryError with
      | unexpectedState => exact waits_receiveFrame _ _ _
      | ok | timeout | socketError | other _ => exact keeps_pure _

end Receive

/-- A decoded method in a pool of `h` that is there. -/
def Method.LiesIn (m : Method) (h : Handle) (w : World) : Prop :=
  ∃ channel d, m = (w.conns h).place h channel d

/-- What is known of an item that was received over `h`, in the world then; `first` is the
identity of the structure in the local envelope. -/
def Item.Fits (h : Handle) (first : Nat) (w : World) : Item → Prop
  | .nothing | .envelope | .acknowledge _ => w.nextIdent = first + 1
  | .returned r =>
      w.nextIdent = first + 2 ∧
      (∃ contents : MessageContents, r.message_ = AMQPStruct.make (contents.fill (first + 1))) ∧
      ∃ (channel : ChannelId) (d : BasicReturn String),
        r.method_ = d.map (⟨·, .pool ((w.conns h).ref h channel)⟩)
  | .failed e => w.nextIdent = first + 1 ∧ ∀ m ∈ e.methods, m.LiesIn h w
  | .unreadable message e =>
      w.nextIdent = first + 2 ∧
      (∃ contents : MessageContents, message = AMQPStruct.make (contents.fill (first + 1))) ∧
      ∀ m ∈ e.methods, m.LiesIn h w

theorem Item.Fits.owns {h : Handle} {first : Nat} {w : World} {item : Item}
    (hfits : item.Fits h first w) : item.Owns := by
  cases item with
  | nothing | envelope | acknowledge _ | failed _ => trivial
  | returned r =>
      obtain ⟨-, ⟨contents, hmessage⟩, -⟩ := hfits
      exact congrArg AMQPStruct.moved_ hmessage
  | unreadable message e =>
      obtain ⟨-, ⟨contents, hmessage⟩, -⟩ := hfits
      exact congrArg AMQPStruct.moved_ hmessage

section Fits

variable {h : Handle} {w w' : World} {m : Method}

theorem Method.LiesIn.of_recycled (hm : m.LiesIn h w)
    (hrecycled : (w'.conns h).recycled = (w.conns h).recycled) : m.LiesIn h w' := by
  obtain ⟨channel, d, rfl⟩ := hm
  refine ⟨channel, d, ?_⟩
  simp only [ConnState.place, ConnState.ref, hrecycled]

theorem placeReply_liesIn (r : ReplyContents)
    (hm : m ∈ ((w.conns h).placeReply h r).reply) : m.LiesIn h w := by
  obtain ⟨d, -, rfl⟩ := Option.map_eq_some_iff.mp hm
  exact ⟨r.channel, d, rfl⟩

theorem setConn_recycled (w : World) (h h' : Handle) {c : ConnState}
    (hc : c.recycled = (w.conns h).recycled) :
    ((w.setConn h c).conns h').recycled = (w.conns h').recycled := by
  show (if h' = h then c else w.conns h').recycled = _
  split
  · next heq => rw [heq, hc]
  · rfl

variable [Library]

/-- The exceptions of `processReply` reach no further than the reply. -/
theorem processReply_methods {context : String} {reply : RpcReply} {e : Exc}
    (he : Connection.processReply context reply = .error e) (hm : m ∈ e.methods) :
    m ∈ reply.reply := by
  rcases processReply_error he with ⟨what, rfl⟩ | ⟨what, rfl⟩ | ⟨what, rfl⟩ | ⟨what, rfl⟩
  · exact Option.mem_toList.mp hm
  · exact Option.mem_toList.mp hm
  · cases hm
  · cases hm

variable {self : Connection} {first : Nat}

theorem receiveReturn_fits (frame : Frame) {decoded : BasicReturn Bytes}
    (hw : w.nextIdent = first + 1)
    (hdecoded : ∃ (channel : ChannelId) (d : BasicReturn String), decoded =
      d.map (⟨·, .pool ((w.conns self.connection_).ref self.connection_ channel)⟩)) :
    ∃ item w', (self.receiveReturn frame decoded).run w = (.ret item, w') ∧
      item.Fits self.connection_ first w' := by
  have hrecycled : ((self.afterRead frame w).conns self.connection_).recycled =
      (w.conns self.connection_).recycled := setConn_recycled w.fresh _ _ rfl
  have hident : (self.afterRead frame w).nextIdent = first + 2 := congrArg (· + 1) hw
  have hmessage : w.readMessage =
      AMQPStruct.make ((Library.readMessage w.calls).message.fill (first + 1)) := by
    rw [World.readMessage, hw]
  refine ⟨_, _, receiveReturn_run frame decoded w, ?_⟩
  cases hv : Connection.processReply (self.context_ ++ " Consumer (return method): ")
      (self.readReply w) with
  | ok _ =>
      obtain ⟨channel, d, hd⟩ := hdecoded
      refine ⟨hident, ⟨_, hmessage⟩, channel, d, ?_⟩
      rw [hd]
      simp only [ConnState.ref, hrecycled]
  | error e =>
      refine ⟨hident, ⟨_, hmessage⟩, fun m hm => ?_⟩
      exact (placeReply_liesIn _ (processReply_methods hv hm)).of_recycled hrecycled

/-- The frame that the second wait takes lies in the pool of its channel. -/
theorem receiveFrame_fits (tv : Option Timeval) (start : ClockDuration) {reply : RpcReply}
    (hw : w.nextIdent = first + 1) (hreply : ∀ m ∈ reply.reply, m.LiesIn self.connection_ w) :
    ∃ item w', (self.receiveFrame tv start reply).run w = (.ret item, w') ∧
      item.Fits self.connection_ first w' := by
  have htv := secondTimeout_run w start tv
  have hconns := afterReading_conns w tv
  have hw₁ := (afterReading_nextIdent w tv).trans hw
  generalize secondTimeval tv start _ = tv' at htv
  generalize w.afterReading tv = w₁ at htv hconns hw₁
  rw [Connection.receiveFrame, bind_of_ret htv,
    bind_of_ret (amqpSimpleWaitFrameNoblock_run w₁ self.connection_ tv')]
  generalize hw₂ : w₁.afterTaking self.connection_ .simpleWaitFrameNoblock _ _ = w₂
  have hident : w₂.nextIdent = first + 1 := by rw [← hw₂]; exact hw₁
  have hrecycled : (w₂.conns self.connection_).recycled =
      (w₁.conns self.connection_).recycled := by
    rw [← hw₂]
    exact setConn_recycled w₁.tick _ _ rfl
  have hreply' : ∀ m ∈ reply.reply.toList, m.LiesIn self.connection_ w₂ := by
    intro m hm
    refine (hreply m (Option.mem_toList.mp hm)).of_recycled ?_
    rw [hrecycled, hconns]
  cases (Library.simpleWaitFrameNoblock w₁.calls).status with
  | timeout => exact ⟨_, _, rfl, hident⟩
  | socketError => exact ⟨_, _, rfl, hident, hreply'⟩
  | unexpectedState => exact ⟨_, _, rfl, hident, hreply'⟩
  | other code => exact ⟨_, _, rfl, hident, hreply'⟩
  | ok =>
      cases (Library.simpleWaitFrameNoblock w₁.calls).payload with
      | other frameType =>
          refine ⟨_, _, rfl, hident, fun m hm => ?_⟩
          exact hreply' m ((List.append_nil _).subst hm)
      | method d =>
          cases d with
          | basicAck decoded => exact ⟨_, _, rfl, hident⟩
          | channelClose decoded => exact ⟨_, _, rfl, hident, List.forall_mem_nil _⟩
          | connectionClose decoded => exact ⟨_, _, rfl, hident, List.forall_mem_nil _⟩
          | basicReturn decoded =>
              refine receiveReturn_fits _ hident
                ⟨(Library.simpleWaitFrameNoblock w₁.calls).channel, decoded, ?_⟩
              simp only [ConnState.ref, hrecycled]
          | other id =>
              refine ⟨_, _, rfl, hident, fun m hm => ?_⟩
              rcases List.mem_append.mp hm with hm | hm
              · exact hreply' m hm
              · rw [List.mem_singleton.mp hm]
                exact Method.LiesIn.of_recycled ⟨_, _, rfl⟩ hrecycled

/-- What is received fits the world it was received in. -/
theorem receive_fits (tv : Option Timeval) (w : World) :
    ∃ (contents : EnvelopeContents) (item : Item) (w' : World), (self.receive tv).run w =
        (.ret (AMQPStruct.make (contents.fill w.nextIdent), item), w') ∧
      item.Fits self.connection_ w.nextIdent w' := by
  rw [Connection.receive, bind_of_ret (newIdent_run w), bind_of_ret (clockNow_run w.fresh),
    bind_of_ret (amqpConsumeMessage_run w.fresh.tick self.connection_ w.nextIdent tv 0)]
  generalize (Library.consumeMessage w.fresh.tick.calls).envelope = contents
  generalize hw₁ : w.fresh.tick.afterTaking self.connection_ .consumeMessage _ _ = w₁
  have hident : w₁.nextIdent = w.nextIdent + 1 := by rw [← hw₁]; rfl
  have hrecycled : (w₁.conns self.connection_).recycled =
      (w.conns self.connection_).recycled := by
    rw [← hw₁]
    exact setConn_recycled w.fresh.tick _ _ rfl
  have hreply : ∀ m ∈ ((w.fresh.tick.conns self.connection_).placeReply self.connection_
      (Library.consumeMessage w.fresh.tick.calls).reply).reply, m.LiesIn self.connection_ w₁ :=
    fun m hm => (placeReply_liesIn (w := w.fresh.tick) _ hm).of_recycled hrecycled
  revert hreply
  generalize (w.fresh.tick.conns self.connection_).placeReply self.connection_
    (Library.consumeMessage w.fresh.tick.calls).reply = reply
  intro hreply
  dsimp only
  obtain ⟨item, w', hitem, hfits⟩ : ∃ item w',
      (self.receiveItem tv (Library.now w.fresh.calls) reply (contents.fill w.nextIdent)).run w₁ =
        (.ret item, w') ∧ item.Fits self.connection_ w.nextIdent w' := by
    unfold Connection.receiveItem
    have hfailed : ∀ m ∈ reply.reply.toList, m.LiesIn self.connection_ w₁ :=
      fun m hm => hreply m (Option.mem_toList.mp hm)
    cases reply.replyType with
    | none => exact ⟨_, _, rfl, hident, hfailed⟩
    | serverException => exact ⟨_, _, rfl, hident, hfailed⟩
    | other code => exact ⟨_, _, rfl, hident, hfailed⟩
    | normal =>
        dsimp only
        split
        · exact ⟨_, _, rfl, hident⟩
        · exact ⟨_, _, rfl, hident⟩
    | libraryException =>
        dsimp only
        cases reply.libraryError with
        | unexpectedState => exact receiveFrame_fits _ _ hident hreply
        | timeout => exact ⟨_, _, rfl, hident⟩
        | socketError => exact ⟨_, _, rfl, hident, List.forall_mem_nil _⟩
        | ok => exact ⟨_, _, rfl, hident, hfailed⟩
        | other code => exact ⟨_, _, rfl, hident, hfailed⟩
  exact ⟨contents, item, w', by rw [bind_of_ret hitem]; rfl, hfits⟩

end Fits

/-! ## The whole call -/

section Run

variable [Library] {self : Connection}

/-- What `consumeImpl` comes to from `w`, whatever its callbacks are: the item is dispatched in
`w'`, in the scope of an envelope with this memory. -/
def Connection.Consumes (self : Connection) (tv : Option Timeval) (w : World)
    (memory : AmqpEnvelope) (item : Item) (w' : World) : Prop :=
  ∀ {L : Type} (envelopeCallback : Callback Envelope L)
    (returnedMessageCallback : Callback ReturnedMessage L)
    (acknowledgeCallback : AcknowledgeCallback L) (l : L),
    (self.consumeImpl tv envelopeCallback returnedMessageCallback acknowledgeCallback).run (l, w) =
      (defer (beside (amqpMaybeReleaseBuffers self.connection_))
        (withLocal (AMQPStruct.make memory) (fun e => beside (Envelope.destroy e))
          (item.dispatch envelopeCallback returnedMessageCallback acknowledgeCallback))).run
        (l, w')

theorem consumes_of_receive {tv : Option Timeval} {w w' : World} {memory : AmqpEnvelope}
    {item : Item} (h : (self.receive tv).run w = (.ret (AMQPStruct.make memory, item), w')) :
    self.Consumes tv w memory item w' := by
  intro L envelopeCallback returnedMessageCallback acknowledgeCallback l
  obtain ⟨memory', item', w'', hreceive, hrun⟩ := @consumeImpl_run _ L self envelopeCallback
    returnedMessageCallback acknowledgeCallback tv l w
  rw [h] at hreceive
  cases hreceive
  exact hrun

/-- One call of `consumeImpl` with given callbacks. -/
theorem consume_run (tv : Option Timeval) (cbs : Callbacks) (w : World) :
    ∃ (contents : EnvelopeContents) (item : Item) (w' : World),
      w.Waits w' ∧ item.Fits self.connection_ w.nextIdent w' ∧
      (self.receive tv).run w =
        (.ret (AMQPStruct.make (contents.fill w.nextIdent), item), w') ∧
      match cbs.dispatched (contents.fill w.nextIdent) item w' with
      | some (o, w'') =>
          o ≠ .terminate ∧ (self.consumeWith tv cbs).run w = (o, w''.released self.connection_)
      | none => ((self.consumeWith tv cbs).run w).1 = .terminate := by
  obtain ⟨contents, item, w', hreceive, hfits⟩ := @receive_fits _ self tv w
  obtain ⟨memory, item', w'', hreceive', himpl⟩ := @consumeImpl_run _ Unit self
    (past (cbs.envelope.code Envelope.passed)) (past (cbs.returned.code ReturnedMessage.passed))
    (fun _ => beside cbs.acknowledge) tv () w
  rw [hreceive] at hreceive'
  cases hreceive'
  have hwaits := @waits_receive _ self tv w
  rw [hreceive] at hwaits
  refine ⟨contents, item, w', hwaits, hfits, hreceive, ?_⟩
  have howns := hfits.owns
  cases hd : cbs.dispatched (contents.fill w.nextIdent) item w' with
  | none =>
      have hscope := dispatch_run_none howns hd
      show ((self.consumeImpl _ _ _ _).run ((), w)).1 = _
      rw [himpl]
      exact scopeExit_terminate hscope
  | some result =>
      obtain ⟨o, w₂⟩ := result
      obtain ⟨ho, hscope⟩ := dispatch_run howns hd
      have hrun := himpl.trans (scopeExit_of ho hscope)
      refine ⟨ho, ?_⟩
      simp only [Connection.consumeWith, hrun]
      show (o.leave (.ret ()), _) = _
      rw [Outcome.leave_ret]
      rfl

end Run
end RmqCxx
