/-
# `RmqCxx.MainLoopRuns` — what the runs of the two programs do

In every run of `consumer.cpp`, the tags that are acknowledged are those of messages that
were delivered, in the order of the deliveries and none twice (`consumerMain_acks`).  Each
turn of the loop acknowledges the one message it receives and goes on, or it acknowledges
nothing (`consumerMain_serves`): `queue.bind` has left a normal reply on record, so that the
`ack` in the callback does not throw.

In every run of `publisher.cpp`, what is read of the returned messages is there
(`publisherMain_sound`).
-/
import RmqCxx.AdvConsumerCalls
import RmqCxx.MainLoops
import RmqCxx.ReplyLifetime

namespace RmqCxx

open Cpp Code MainLoop
open Consumer (IsDelivery Deliveries Locals)

/-! ## Receiving -/

/-- From `w` to `w'` no acknowledgement was sent, and the replies on record stayed. -/
structure World.Unanswered (w w' : World) : Prop where
  later : w.Later w'
  acks : w'.acks = w.acks
  lastReply : ∀ h, (w'.conns h).lastReply = (w.conns h).lastReply

instance : Std.Refl World.Unanswered := ⟨fun w => ⟨refl w, rfl, fun _ => rfl⟩⟩

instance : IsTrans World World.Unanswered where
  trans _ _ _ h h' := ⟨IsTrans.trans _ _ _ h.later h'.later, h'.acks.trans h.acks,
    fun handle => (h'.lastReply handle).trans (h.lastReply handle)⟩

theorem acks_tell {w w' : World} {e : Event} (hlog : w'.log = w.log ++ [e])
    (he : e.ack = none) : w'.acks = w.acks :=
  acks_of_appends (P := fun e => e.ack = none) (.of_tell hlog he) fun _ h => h

theorem setConn_lastReply (w : World) (h h' : Handle) {c : ConnState}
    (hc : c.lastReply = (w.conns h).lastReply) :
    ((w.setConn h c).conns h').lastReply = (w.conns h').lastReply := by
  show (if h' = h then c else w.conns h').lastReply = _
  split
  · next heq => rw [heq, hc]
  · rfl

theorem idling_unanswered : Idling World.Unanswered where
  fresh w := ⟨Nat.le_refl w.calls, rfl, fun _ => rfl⟩
  tick w := ⟨Nat.le_succ w.calls, rfl, fun _ => rfl⟩
  taking w h f args queued hf := by
    refine ⟨Nat.le_succ w.calls, acks_tell (e := .call f h args) rfl ?_,
      fun h' => setConn_lastReply w.tick h h' rfl⟩
    rcases hf with rfl | rfl | rfl <;> rfl
  envelope w _ := ⟨Nat.le_refl w.calls, acks_tell rfl rfl, fun _ => rfl⟩
  message w _ := ⟨Nat.le_refl w.calls, acks_tell rfl rfl, fun _ => rfl⟩
  released w h :=
    ⟨Nat.le_refl w.calls, acks_tell rfl rfl, fun h' => setConn_lastReply _ h h' rfl⟩

/-! ## A turn of `consumer.cpp` -/

section Turn

variable [Library] {n : Nat} {channel : Channel} {w : World}

/-- The acknowledgement of the message that the `a.1`-th answer delivered over `a.2`. -/
def ackOf (a : Nat × Handle) : Handle × Int :=
  (a.2, ((Library.consumeMessage a.1).envelope.deliveryTag.toNat : Int))

/-- The reply on record over `n` is a normal one, so that a method that only sends does not
throw. -/
def World.Settled (n : Nat) (w : World) : Prop :=
  (w.conns (some n)).lastReply.replyType = .normal

/-- How a call of `consumeEnvelope` ends, and what it acknowledged until then. -/
inductive Served (n : Nat) (w : World) : Outcome Exc (Option Bool) × World → Prop
  | waiting {w' : World} (h : w.Unanswered w') : Served n w (.ret none, w')
  | timeout {w' : World} (h : w.Unanswered w') : Served n w (.ret (some false), w')
  | failed {e : Exc} {w' : World} (he : Consumer.caughtBy e = true) (h : w.Unanswered w') :
      Served n w (.thrown e, w')
  | acknowledged {a : Nat} {w' : World} (hdelivery : IsDelivery a) (hfirst : w.calls ≤ a)
      (hlast : a < w'.calls) (hacks : w'.acks = w.acks ++ [ackOf (a, some n)])
      (hsettled : w'.Settled n) : Served n w (.ret (some true), w')

/-- What is received throws only the wrapper's own exceptions. -/
theorem Receives.own {self : Connection} {tv : Option Timeval} {item : Item}
    (h : Receives self tv w item) (memory : AmqpEnvelope) {e : Exc}
    (he : item.received memory = .failed e) : Consumer.caughtBy e = true := by
  refine Consumer.caughtBy_of_own ?_
  cases h with
  | delivery | channelZero | firstTimeout | secondTimeout | acknowledge | returned => cases he
  | unreadable _ _ hread =>
      cases he
      exact processReply_own hread
  | _ =>
      cases he
      trivial

/-- What the last thing taken was. -/
theorem taken_of_take {self : Connection} {timeout : Option ClockDuration} {received : Received}
    {w' : World} (h : self.source.take timeout w = (received, w')) :
    ∃ item, Receives self (timeout.map timeValue) w item ∧
      received = item.received ((deliveryAnswer w).envelope.fill w.nextIdent) ∧
      w.calls + 2 ≤ w'.calls := by
  obtain ⟨item, v, hreceive, hreceives⟩ := receive_receives self (timeout.map timeValue) w
  have hcalls := receive_calls self (timeout.map timeValue) w
  rw [hreceive] at hcalls
  simp only [Connection.source, hreceive] at h
  cases h
  exact ⟨item, hreceives, rfl, hcalls⟩

variable {locals : Locals}

theorem ack_settles (h : locals.Over n) (hw : w.Settled n) (tag : UInt64) :
    ∃ status w', (locals.channel.ack tag false).run w = (.ret status, w') ∧
      Consumer.Acks n tag w w' ∧ w'.Settled n := by
  obtain ⟨o, w', hrun, hacks⟩ := Consumer.ack_acks h tag w
  have hasync : (locals.channel.ack tag false).run w = _ :=
    Channel.rpcWith_async (c := (amqpBasicAck · · tag false)) rfl
  have hverdict : locals.channel.verdict locals.channel.context_
      (w.conns locals.channel.handle).lastReply = .ok () := by
    rw [Channel.verdict_ok_iff, h.channel]
    exact hw
  rw [hverdict] at hasync
  have hw' := congrArg Prod.snd (hrun.symm.trans hasync)
  have ho := congrArg Prod.fst (hrun.symm.trans hasync)
  dsimp only at hw' ho
  subst hw' ho
  refine ⟨_, _, hrun, hacks, ?_⟩
  rw [h.channel, World.Settled]
  simp only [World.settled, World.setConn_conns_self, ConnState.recycle,
    World.afterAsync_lastReply]
  exact hw

/-- The callback, with the envelope it is given. -/
theorem acknowledging_run (h : locals.Over n) (hw : w.Settled n) (memory : AmqpEnvelope) :
    ∃ w', (withLocal (AMQPStruct.make memory) Envelope.destroy
        (acknowledging locals.channel)).run w = (.ret (), w') ∧ w.Later w' ∧ w'.Settled n ∧
      w'.acks = w.acks ++ [(some n, (memory.deliveryTag.toNat : Int))] := by
  obtain ⟨status, w', hack, hacks, hsettled⟩ := ack_settles h hw memory.deliveryTag
  have hbeside : (beside (locals.channel.ack memory.deliveryTag false) :
      Code (Envelope × World) Exc Status).run (AMQPStruct.make memory, w) =
        (.ret status, (AMQPStruct.make memory, w')) := by
    rw [beside_run, hack]
  have hscope : (withLocal (AMQPStruct.make memory) Envelope.destroy
      (acknowledging locals.channel)).run w = (.ret (), w'.envelopeDestroyed memory.ident) := by
    refine (scope_passByValue (P := Envelope.passed) rfl _).trans ?_
    exact withLocal_of (by nofun)
      (show _ = (Outcome.ret (), (AMQPStruct.make memory, w')) from bind_of_ret hbeside)
  refine ⟨_, hscope, hacks.quiet.later, hsettled, ?_⟩
  rw [← hacks.acks]
  exact acks_tell rfl rfl

omit [Library] in
theorem World.Settled.of_unanswered {v : World} (hw : w.Settled n) (h : w.Unanswered v) :
    v.Settled n := by
  rw [World.Settled, h.lastReply]
  exact hw

/-- A consumer that ends, with its last thing received. -/
theorem conclude_served (h : locals.Over n) (hw : w.Settled n) {progress : Progress}
    {received : Received} {leave : World → World}
    (hprogress : w.Unanswered progress.world) (hending : progress.ending = some (received, leave))
    (hlast : LastTaken locals.connection .envelope World.Unanswered w progress.world
      (received, leave)) :
    Served n w (MessageKind.envelope.conclude (acknowledging locals.channel) progress) := by
  obtain ⟨hstops, hleave, timeout, w₁, hw₁, htake⟩ := hlast
  obtain ⟨item, hreceives, hreceived, hcalls⟩ := taken_of_take htake
  have hconclude : MessageKind.envelope.conclude (acknowledging locals.channel) progress =
      (fun r : Outcome Exc Bool × World => (r.1.map some, r.2))
        ((scopeExit (modify leave) (MessageKind.envelope.finish (acknowledging locals.channel)
          received)).run progress.world) := by
    simp only [MessageKind.conclude, hending]
  rw [hconclude]
  cases received with
  | nothing => exact .timeout (IsTrans.trans _ _ _ hprogress (hleave progress.world))
  | failed e =>
      refine .failed (hreceives.own _ hreceived.symm) ?_
      exact IsTrans.trans _ _ _ hprogress (hleave progress.world)
  | returned _ _ | acknowledge _ => cases hstops
  | envelope memory =>
      cases item with
      | nothing | acknowledge _ | returned _ | failed _ | unreadable _ _ => cases hreceived
      | envelope =>
          cases hreceived
          obtain ⟨w₂, hserve, hlater, hsettled, hacks⟩ :=
            acknowledging_run h (hw.of_unanswered hprogress)
              ((deliveryAnswer w₁).envelope.fill w₁.nextIdent)
          have hfinish : (MessageKind.envelope.finish (acknowledging locals.channel)
              (.envelope ((deliveryAnswer w₁).envelope.fill w₁.nextIdent))).run progress.world =
                (.ret true, w₂) := bind_of_ret hserve
          rw [scopeExit_of_ret hfinish]
          have hleft := hleave w₂
          have hend : w₁.calls + 2 ≤ (leave w₂).calls :=
            Nat.le_trans hcalls (Nat.le_trans hlater hleft.later)
          cases hreceives with
          | delivery htype hchannel =>
              refine .acknowledged (a := w₁.calls + 1) ⟨htype, hchannel⟩
                (Nat.le_succ_of_le hw₁.later) hend ?_ (hsettled.of_unanswered hleft)
              rw [run_modify, hleft.acks, hacks, hprogress.acks]
              rfl

theorem consumerMain_served (h : locals.Over n) (hw : w.Settled n) (fuel : Nat) :
    Served n w ((consumerMain.receive locals fuel).run w) := by
  obtain ⟨progress, hrun, hprogress, hends⟩ := timed_idles idling_unanswered locals.connection
    .envelope (⟨1⟩ : Duration .seconds) fuel w
  have hreceive : (consumerMain.receive locals fuel).run w = _ :=
    hrun (acknowledging locals.channel)
  rw [hreceive]
  match hending : progress.ending with
  | none =>
      simp only [MessageKind.conclude, hending]
      exact .waiting hprogress
  | some (received, leave) =>
      exact conclude_served h hw hprogress hending (hends _ hending)

end Turn

/-! ## The set-up of `consumer.cpp` -/

section SetUp

variable [Library] {n : Nat} {channel : Channel}

/-- After a `bind` that returned, its reply is on record. -/
theorem bind_settles (self : Queue) (hh : self.channel_.handle = some n)
    (exchange routingKey : String) (args : List TableEntry) :
    Returns (fun _ w => w.Settled n) (self.bind exchange routingKey args) := by
  intro w _ hret
  have hrpc : (self.rpc (amqpQueueBinding · · .queueBind · exchange routingKey
      (Table.make args w.mem).1.toRaw)).run (w.withTable args) = _ := Channel.rpcWith_sync rfl
  cases hv : self.channel_.verdict self.context_
      ((w.withTable args).replied self.channel_.handle) with
  | error e =>
      rw [hv] at hrpc
      have hscope := bind_of_thrown (k := fun _ => (pure () : Code World Exc Unit)) hrpc
      rw [Queue.bind, withArguments_of (by nofun) hscope] at hret
      cases hret
  | ok _ =>
      rw [hv] at hrpc
      have hscope := bind_of_ret (k := fun _ => (pure () : Code World Exc Unit)) hrpc
      rw [Queue.bind, withArguments_of (by nofun) hscope, hh]
      have hnormal := (Channel.verdict_ok_iff _ _).mp hv
      rw [hh] at hnormal
      simp only [World.Settled, World.withoutTable, World.settled, World.setConn_conns_self,
        ConnState.recycle, World.afterSync_lastReply]
      exact hnormal

theorem inside_consumerQueues (hh : channel.handle = some n) (connection : Connection) :
    Keeps (World.Does (Event.Inside n)) (consumerQueues connection channel) := by
  have hasks {α : Type} {c : Code World Exc α}
      (hc : Keeps (World.Asks (channel.Logs (· != .basicAck)) channel.handle) c) :
      Keeps (World.Does (Event.Inside n)) c :=
    keeps_mono (fun _ _ h => h.does.mono fun e he => he.inside hh rfl) hc
  refine keeps_bind (hasks ?_) fun _ => keeps_bind (fun _ => .of_log_eq rfl rfl) fun arg => ?_
  · exact asks_withArguments fun table =>
      asks_drop (keeps_noexcept (asks_tabled channel _ rfl table _))
  refine keeps_bind (hasks ?_) fun _ => keeps_bind (hasks ?_) fun _ => keeps_bind (hasks ?_)
    fun _ => keeps_pure _
  · exact asks_withArguments fun table => asks_tabled channel _ rfl table _
  · exact consume_asks (Queue.make channel "queue0") rfl _ _ _ _ _
  · exact asks_withArguments fun table => asks_drop (asks_tabled channel _ rfl table _)

theorem returns_consumerQueues {connection : Connection} (hh : channel.handle = some n)
    (hover : ∀ arg, (⟨connection, channel, arg⟩ : Locals).Over n) :
    Returns (fun (locals : Locals) w => locals.Over n ∧ w.Settled n)
      (consumerQueues connection channel) := by
  refine returns_then fun _ => returns_then fun arg => returns_then fun _ => returns_then fun _ =>
    returns_bind (bind_settles (Queue.make channel "queue0") hh _ _ _) ?_
  rintro _ w hsettled locals ⟨⟩
  exact ⟨hover arg, hsettled⟩

theorem consumerMain_setUp (w : World) :
    (consumerMain.setUp.run w).2.acks = w.acks ∧
      ∀ locals, (consumerMain.setUp.run w).1 = .ret locals →
        locals.Over w.nextHandle ∧ (consumerMain.setUp.run w).2.Settled w.nextHandle := by
  let setup : Setup := .plain "172.17.0.2" 5672 "guest" "guest" "consumer-test" 0 131072 1
    (⟨1⟩ : Duration .seconds)
  have hinside := acks_of_appends (Consumer.inside_setup setup w) fun _ he => he.1
  have hmade := setup_constructed setup w
  have hsetUp : consumerMain.setUp = setup.code >>= fun connection =>
    Channel.make connection 1 >>= fun channel => consumerQueues connection channel := rfl
  rw [hsetUp]
  generalize hr : setup.code.run w = r at hinside hmade
  cases hmade with
  | noHandle | failed =>
      rw [bind_of_thrown hr]
      exact ⟨hinside, fun _ h => by cases h⟩
  | @object connection v _ _ _ hh _ _ =>
      rw [bind_of_ret hr]
      obtain ⟨r, v', hmake, hsends⟩ := channel_make_run connection 1 v
      rw [hh] at hsends
      have hacks := (acks_of_appends (hsends.inside (by simp)).log fun _ he => he.1).trans hinside
      cases r with
      | error e =>
          rw [bind_of_thrown hmake]
          exact ⟨hacks, fun _ h => by cases h⟩
      | ok _ =>
          let channel : Channel :=
            ⟨connection, 1, "Channel(" ++ toString (1 : ChannelId).toNat ++ "): ", false⟩
          have hchannel : channel.handle = some w.nextHandle := hh
          rw [bind_of_ret hmake]
          refine ⟨?_, returns_consumerQueues hchannel (fun _ => ⟨hh, hchannel, rfl, rfl⟩) v'⟩
          have hqueues := (inside_consumerQueues hchannel connection v').log
          exact (acks_of_appends hqueues fun _ he => he.1).trans hacks

end SetUp

/-! ## Runs of `consumer.cpp` -/

section Runs

variable [Library] {w w' : World} {s t : State Locals}

/-- The acknowledgements are of messages that were delivered over the first connection, in that
order. -/
def World.Acked (w : World) : Prop :=
  ∃ answers, Deliveries 0 w.calls answers ∧ (∀ a ∈ answers, a.2 = some 1) ∧
    w.acks = answers.map ackOf

theorem World.Acked.later (h : w.Acked) (hlater : w.Later w') (hacks : w'.acks = w.acks) :
    w'.Acked := by
  obtain ⟨answers, hall, hvia, hanswers⟩ := h
  exact ⟨answers, hall.mono hlater, hvia, hacks.trans hanswers⟩

theorem World.Acked.served {o : Outcome Exc (Option Bool)} (h : w.Acked)
    (hserved : Served 1 w (o, w')) : w'.Acked := by
  cases hserved with
  | waiting hw | timeout hw | failed _ hw => exact h.later hw.later hw.acks
  | @acknowledged a _ hdelivery hfirst hlast hacks _ =>
      obtain ⟨answers, hall, hvia, hanswers⟩ := h
      refine ⟨answers ++ [(a, some 1)], ?_, ?_, by rw [hacks, hanswers, List.map_append]; rfl⟩
      · exact hall.append (.single hfirst hlast hdelivery) (Nat.zero_le _)
          (Nat.le_trans hfirst (Nat.le_of_lt hlast))
      · exact List.forall_mem_append.mpr ⟨hvia, List.forall_mem_singleton.mpr rfl⟩

/-- What is known at each stage. -/
def Ready (s : State Locals) : Prop :=
  match s.stage with
  | .starting => s.world = .initial
  | .looping locals => locals.Over 1 ∧ s.world.Settled 1
  | .leaving locals => locals.Over 1
  | .returned | .aborted => True

theorem consumerMain_stepped {fuel : Nat} (hs : Ready s ∧ s.world.Acked)
    (h : Stepped consumerMain fuel s t) : Ready t ∧ t.world.Acked := by
  obtain ⟨hready, hacked⟩ := hs
  cases h with
  | @setUp _ w _ h =>
      obtain rfl : w = .initial := hready
      obtain ⟨hacks, hreturns⟩ := consumerMain_setUp World.initial
      rw [h] at hacks hreturns
      exact ⟨hreturns _ rfl, hacked.later (Nat.zero_le _) hacks⟩
  | @refused _ w _ h _ =>
      obtain rfl : w = .initial := hready
      obtain ⟨hacks, -⟩ := consumerMain_setUp World.initial
      rw [h] at hacks
      exact ⟨trivial, hacked.later (Nat.zero_le _) hacks⟩
  | received h =>
      have hserved := consumerMain_served hready.1 hready.2 fuel
      rw [h] at hserved
      refine ⟨⟨hready.1, ?_⟩, hacked.served hserved⟩
      cases hserved with
      | timeout hw => exact hready.2.of_unanswered hw
      | acknowledged _ _ _ _ hsettled => exact hsettled
  | caught h _ =>
      have hserved := consumerMain_served hready.1 hready.2 fuel
      rw [h] at hserved
      exact ⟨hready.1, hacked.served hserved⟩
  | uncaught h _ _ =>
      have hserved := consumerMain_served hready.1 hready.2 fuel
      rw [h] at hserved
      exact ⟨trivial, hacked.served hserved⟩
  | @left locals w _ h =>
      obtain ⟨w', hrun, hleaves⟩ := Consumer.destroy_leaves hready w
      cases hrun.symm.trans h
      exact ⟨trivial, hacked.later hleaves.quiet.later
        (acks_of_appends hleaves.does.log fun _ he => he.1)⟩
  | @undestroyed locals _ w _ h ho =>
      obtain ⟨w', hrun, -⟩ := Consumer.destroy_leaves hready w
      cases hrun.symm.trans h
      exact absurd rfl ho

theorem consumerMain_ready (fuels : List Nat) :
    Visits consumerMain.step (fun s => Ready s ∧ s.world.Acked) .initial fuels :=
  visits_of_step (fun hs h => consumerMain_stepped hs (step_stepped h))
    ⟨rfl, [], .nil, List.forall_mem_nil _, rfl⟩

/-- In every run, the tags that are acknowledged are those of deliveries, each of one of its
own, in the order of the deliveries. -/
theorem consumerMain_acks (fuels : List Nat) :
    Visits consumerMain.step (fun s => s.world.Acked) .initial fuels :=
  (consumerMain_ready fuels).mono fun _ hs => hs.2

/-- In every run, a turn of the loop acknowledges the message that it receives, and the loop
goes on; or it acknowledges nothing. -/
theorem consumerMain_serves (fuels : List Nat) :
    Visits consumerMain.step (fun s => ∀ locals, s.stage = .looping locals →
      ∀ fuel, Served 1 s.world ((consumerMain.receive locals fuel).run s.world)) .initial
      fuels := by
  refine (consumerMain_ready fuels).mono fun s hs locals hat fuel => ?_
  have hready := hs.1
  rw [Ready, hat] at hready
  exact consumerMain_served hready.1 hready.2 fuel

end Runs

/-! ## Reads of `publisher.cpp` -/

section Reading

theorem idling_sound : Idling (World.Appends Event.Sound) where
  fresh _ := .of_log_eq rfl
  tick _ := .of_log_eq rfl
  taking _ _ _ _ _ _ := .of_tell rfl fun _ he => nomatch he
  envelope _ _ := .of_tell rfl fun _ he => nomatch he
  message _ _ := .of_tell rfl fun _ he => nomatch he
  released _ _ := .of_tell rfl fun _ he => nomatch he

/-- From `w` to `w'` memory was read that is there, and nothing else happened to it. -/
structure World.Reads (w w' : World) : Prop where
  sound : World.Appends Event.Sound w w'
  conns : w'.conns = w.conns

instance : IsTrans World World.Reads where
  trans _ _ _ h h' := ⟨IsTrans.trans _ _ _ h.sound h'.sound, h'.conns.trans h.conns⟩

/-- The string is not in a pool, or in one that was not recycled. -/
def Bytes.There (w : World) (b : Bytes) : Prop :=
  ∀ ref, b.mem = .pool ref → w.poolAlive ref = true

theorem World.Reads.there {w w' : World} (h : w.Reads w') {b : Bytes} (hb : b.There w) :
    b.There w' := by
  intro ref href
  rw [World.poolAlive, h.conns]
  exact hb ref href

variable [Library] {w : World}

theorem containerString_reads {b : Bytes} (hb : b.There w) :
    ∃ text w', (containerString b : Code World Exc String).run w = (.ret text, w') ∧
      w.Reads w' := by
  obtain ⟨data, mem⟩ := b
  cases mem with
  | own ident => exact ⟨_, w, rfl, refl w, rfl⟩
  | pool ref =>
      refine ⟨_, _, rfl, .of_tell rfl ?_, rfl⟩
      rw [hb ref rfl]
      exact fun _ he => nomatch he

theorem copies_reads {strings : List Bytes} (h : ∀ b ∈ strings, b.There w) :
    ∃ w', (copies strings).run w = (.ret (), w') ∧ w.Reads w' := by
  induction strings generalizing w with
  | nil => exact ⟨w, rfl, refl w, rfl⟩
  | cons b strings ih =>
      obtain ⟨hb, hstrings⟩ := List.forall_mem_cons.mp h
      obtain ⟨text, v, hcopy, hreads⟩ := containerString_reads hb
      obtain ⟨w', hrest, hreads'⟩ := ih fun b' hb' => hreads.there (hstrings b' hb')
      exact ⟨w', (bind_of_ret hcopy).trans hrest, IsTrans.trans _ _ _ hreads hreads'⟩

/-- The callback, with a returned message whose method is there. -/
theorem reading_sound {memory : AmqpMessage} {method : BasicReturn Bytes}
    (hbody : memory.body.There w) (hmethod : ∀ b ∈ method.strings, b.There w) :
    World.Appends Event.Sound w
      ((withLocal (aReturned memory method) ReturnedMessage.destroy reading).run w).2 := by
  obtain ⟨w', hcopies, hreads⟩ := copies_reads (List.forall_mem_cons.mpr ⟨hbody, hmethod⟩)
  have hbeside : (beside (copies (memory.body :: method.strings)) :
      Code (ReturnedMessage × World) Exc Unit).run (aReturned memory method, w) =
        (.ret (), (aReturned memory method, w')) := by
    rw [beside_run, hcopies]
  have hrun : (withLocal (aReturned memory method) ReturnedMessage.destroy reading).run w =
      (.ret (), w'.messageDestroyed memory.ident) := by
    refine (scope_passByValue (P := ReturnedMessage.passed) rfl _).trans ?_
    exact withLocal_of (by nofun)
      (show _ = (Outcome.ret (), (aReturned memory method, w')) from hbeside)
  rw [hrun]
  exact IsTrans.trans _ _ _ hreads.sound (idling_sound.message w' memory.ident)

/-- The method of a returned message that was taken is there. -/
theorem there_of_take {self : Connection} {timeout : Option ClockDuration} {memory : AmqpMessage}
    {method : BasicReturn Bytes} {w' : World}
    (h : self.source.take timeout w = (.returned memory method, w')) :
    memory.body.There w' ∧ ∀ b ∈ method.strings, b.There w' := by
  obtain ⟨contents, item, v, hreceive, hfits⟩ :=
    @receive_fits _ self (timeout.map timeValue) w
  simp only [Connection.source, hreceive] at h
  cases item with
  | nothing | envelope | acknowledge _ | failed _ | unreadable _ _ => cases h
  | returned r =>
      cases h
      obtain ⟨-, ⟨message, hmessage⟩, channel, d, hmethod⟩ := hfits
      rw [hmessage, hmethod]
      refine ⟨fun ref href => ?_, fun b hb ref href => ?_⟩
      · cases href
      · have hb' : b.mem = .pool ((w'.conns self.connection_).ref self.connection_ channel) := by
          rcases hb with _ | ⟨_, _ | ⟨_, _ | ⟨_, hb⟩⟩⟩
          · rfl
          · rfl
          · rfl
          · cases hb
        cases hb'.symm.trans href
        exact decide_eq_true rfl

end Reading

/-! ## Runs of `publisher.cpp` -/

section Sound

variable [Library]

theorem sound_setup (setup : Setup) : Keeps (World.Appends Event.Sound) setup.code := by
  intro w
  have hmade := setup_constructed setup w
  have hcalls {calls : List Event} (hall : ∀ e ∈ calls, e.concerns (some w.nextHandle) = true) :
      ∀ e ∈ Event.newConnection (some w.nextHandle) :: calls, e.Sound := by
    refine List.forall_mem_cons.mpr ⟨by nofun, fun e he ref href => ?_⟩
    have hconcerns := hall e he
    rw [href] at hconcerns
    cases hconcerns
  generalize setup.code.run w = r at hmade
  cases hmade with
  | noHandle hlog _ =>
      exact ⟨_, hlog, List.forall_mem_singleton.mpr fun _ he => nomatch he⟩
  | object hlog _ _ hall _ | failed hlog _ hall _ => exact ⟨_, hlog, hcalls hall⟩

theorem sound_publisher_setUp : Keeps (World.Appends Event.Sound) publisherMain.setUp := by
  let setup : Setup := .plain "172.17.0.2" 5672 "guest" "guest" "/" 0 131072 1
    (⟨1⟩ : Duration .seconds)
  refine keeps_bind (sound_setup setup) fun connection => keeps_bind ?_ fun channel => ?_
  · exact keeps_bind (keeps_connection_rpcWith _ _ _ (keeps_amqpSync _ _ _ _)) fun _ =>
      keeps_pure _
  refine keeps_bind ?_ fun _ => keeps_bind ?_ fun _ => keeps_pure _
  · exact keeps_withArguments _ fun _ => keeps_drop (keeps_noexcept
      (keeps_channel_rpcWith _ _ (keeps_seenTable _ fun _ => keeps_amqpSync _ _ _ _)))
  · refine keeps_bind (keeps_channel_rpcWith _ _ (keeps_amqpAsync _ _ _ _)) fun status => ?_
    cases status with
    | ok => exact keeps_pure ()
    | timeout | socketError | unexpectedState | other _ => exact keeps_throw _

theorem sound_publisher_destroy (locals : PublisherLocals) :
    Keeps (World.Appends Event.Sound) (publisherMain.destroy locals) := by
  refine keeps_bind ?_ fun _ => keeps_bind ?_ fun _ => ?_
  · exact keeps_ite (keeps_pure ()) (keeps_tryCatch
      (keeps_drop (keeps_connection_rpcWith _ _ _ (keeps_amqpSync _ _ _ _))) fun _ =>
      keeps_pure ())
  · exact keeps_ite (keeps_pure ()) (keeps_tryCatch
      (keeps_drop (keeps_connection_rpcWith _ _ _ (keeps_amqpSync _ _ _ _))) fun _ =>
      keeps_pure ())
  · exact keeps_ite (keeps_pure ()) fun _ => .of_tell rfl fun _ he => nomatch he

/-- A turn of the loop. -/
theorem sound_publisher_receive (locals : PublisherLocals) (fuel : Nat) :
    Keeps (World.Appends Event.Sound) (publisherMain.receive locals fuel) := by
  intro w
  obtain ⟨progress, hrun, hprogress, hends⟩ := timed_idles idling_sound locals.connection
    .returnedMessage (⟨1⟩ : Duration .seconds) fuel w
  have hreceive : (publisherMain.receive locals fuel).run w = _ := hrun reading
  rw [hreceive]
  match hending : progress.ending with
  | none =>
      simp only [MessageKind.conclude, hending]
      exact hprogress
  | some (received, leave) =>
      obtain ⟨hstops, hleave, timeout, w₁, -, htake⟩ := hends _ hending
      simp only [MessageKind.conclude, hending]
      refine IsTrans.trans _ _ _ hprogress (scopeExit_related ?_ (keeps_modify hleave))
      cases received with
      | nothing | failed _ => exact refl progress.world
      | envelope _ | acknowledge _ => cases hstops
      | returned memory method =>
          obtain ⟨hbody, hmethod⟩ := there_of_take htake
          show World.Appends Event.Sound progress.world ((withLocal (aReturned memory method)
            ReturnedMessage.destroy reading >>= fun _ => pure true).run progress.world).2
          rw [run_then]
          exact reading_sound hbody hmethod

/-- In every run, each string of a returned message is read while its pool is there. -/
theorem publisherMain_sound (fuels : List Nat) :
    Visits publisherMain.step (fun s => ∀ e ∈ s.world.log, e.Sound) .initial fuels := by
  refine (visits_of_keeps sound_publisher_setUp sound_publisher_receive sound_publisher_destroy
    fuels).mono fun s hs => ?_
  obtain ⟨es, hlog, hes⟩ := hs
  rw [hlog]
  exact hes

end Sound
end RmqCxx
