/-
# `RmqCxx.ReplyLifetime` — are replies read before their memory is recycled?

`Channel::rpc` releases the channel's buffers when its scope is left, that is,
before its caller gets the pointer that the C function returned.  `flow`,
`consume`, `remove` and `purge` read through that pointer afterwards, and
`declare` hands it on.  The release recycles the pool unless a frame is queued
for the channel, so what these operations read is there exactly when a frame
happens to be waiting (or when the reply was not normal and nothing is read).
-/
import RmqCxx.Operation

namespace RmqCxx

open Cpp Code World

/-- Not a read of memory that was recycled. -/
def Event.Sound (e : Event) : Prop := ∀ ref, e ≠ .deref ref false

/-! ## Reading nothing -/

theorem keeps_withArguments {α : Type} (args : List TableEntry)
    {scope : RawTable → Code World Exc α} (h : ∀ t, Keeps (Appends Event.Sound) (scope t)) :
    Keeps (Appends Event.Sound) (withArguments args scope) :=
  keeps_bind keeps_get fun _ => keeps_bind (fun _ => .of_log_eq rfl) fun _ =>
    keeps_scopeExit (fun _ => .of_log_eq rfl) (h _)

theorem keeps_seenTable {α : Type} (t : RawTable) {k : Arg → Code World Exc α}
    (hk : ∀ a, Keeps (Appends Event.Sound) (k a)) :
    Keeps (Appends Event.Sound) (seenTable t >>= k) :=
  keeps_bind (fun _ => .of_log_eq rfl) hk

/-- A call whose result is dropped. -/
theorem keeps_drop {α : Type} {c : Code World Exc α} (hc : Keeps (Appends Event.Sound) c) :
    Keeps (Appends Event.Sound) (do let _ ← c; pure () : Code World Exc Unit) :=
  keeps_bind hc fun _ => keeps_pure ()

theorem withArguments_appends_iff {α : Type} {P : Event → Prop} {args : List TableEntry}
    {scope : RawTable → Code World Exc α} {w : World} :
    Appends P w ((withArguments args scope).run w).2 ↔
      Appends P (w.withTable args)
        ((scope (Table.make args w.mem).1.toRaw).run (w.withTable args)).2 := by
  rw [Appends, (withArguments_run args scope w).2]
  rfl

theorem map_appends_iff {α β : Type} {P : Event → Prop} {f : α → β} {c : Code World Exc α}
    {w : World} : Appends P w ((f <$> c).run w).2 ↔ Appends P w (c.run w).2 := by
  rw [run_map]

/-- A table dies with its function, and is not in a pool. -/
theorem alive_withoutTable_iff {o : Outcome Exc OkPtr} {args : List TableEntry}
    {w w₁ : World} :
    (∀ p w', (o, w₁.withoutTable w args) = (.ret p, w') → w'.poolAlive p.ref = true) ↔
      ∀ p w', (o, w₁) = (.ret p, w') → w'.poolAlive p.ref = true := by
  constructor
  · intro h p w' hp
    cases hp
    exact h p (w₁.withoutTable w args) rfl
  · intro h p w' hp
    cases hp
    exact h p w₁ rfl

section ReplyLifetime

variable [Library]

/-- The operation reads only memory that is still there, and if it is `declare`,
what it returns is still there, too. -/
def RepliesAreThere (op : Operation) (w : World) : Prop :=
  Appends Event.Sound w (op.code.run w).2 ∧
    match op with
    | .queue self (.declare passive durable exclusive autoDelete args) =>
        ∀ p w', (self.declare passive durable exclusive autoDelete args).run w = (.ret p, w') →
          w'.poolAlive p.ref = true
    | _ => True

/-- The next synchronous method on the channel fails, or leaves a frame queued
for the channel. -/
def PoolStays (self : Channel) (w : World) : Prop :=
  (Library.sync w.calls).reply.replyType ≠ .normal ∨
    self.channel_ ∈ (w.conns self.handle).queued ++ (Library.sync w.calls).arrivals

def PoolStaysForReader (op : Operation) (w : World) : Prop :=
  match op with
  | .channel self (.flow _) => PoolStays self w
  | .queue self (.declare _ _ _ _ _) | .queue self (.consume _ _ _ _ _)
  | .queue self (.remove _ _) | .queue self .purge => PoolStays self.channel_ w
  | _ => True

/-! ## Operations that read nothing -/

theorem keeps_amqpSync (f : CFunction) (h : Handle) (channel : ChannelId) (args : List Arg) :
    Keeps (Appends Event.Sound) (amqpSync f h channel args : Code World Exc OkPtr) :=
  fun _ => .of_tell rfl fun _ he => nomatch he

theorem keeps_amqpAsync (f : CFunction) (h : Handle) (channel : ChannelId) (args : List Arg) :
    Keeps (Appends Event.Sound) (amqpAsync f h channel args : Code World Exc Status) :=
  fun _ => .of_tell rfl fun _ he => nomatch he

theorem keeps_connection_rpcWith {α : Type} (self : Connection) (maybeRelease : Bool)
    (context : String) {f : Handle → Code World Exc α}
    (hf : Keeps (Appends Event.Sound) (f self.connection_)) :
    Keeps (Appends Event.Sound) (self.rpcWith maybeRelease context f) := by
  refine keeps_scopeExit (keeps_bind ?_ fun reply => keeps_bind (keeps_ofExcept _) fun _ => ?_) hf
  · intro _
    exact .of_tell rfl fun _ he => nomatch he
  · cases maybeRelease with
    | false => exact keeps_pure ()
    | true =>
        intro _
        exact .of_tell rfl fun _ he => nomatch he

theorem keeps_channel_rpcWith {α : Type} (self : Channel) (context : String)
    {f : Handle → ChannelId → Code World Exc α}
    (hf : Keeps (Appends Event.Sound) (f self.handle self.channel_)) :
    Keeps (Appends Event.Sound) (self.rpcWith context f) :=
  keeps_scopeExit (fun _ => .of_tell rfl fun _ he => nomatch he)
    (keeps_connection_rpcWith _ _ _ hf)

theorem keeps_request (r : Request) (first : List Arg) (c : Handle) (channel : ChannelId) :
    Keeps (Appends Event.Sound) (r.code first c channel) := by
  unfold Request.code
  split
  · exact keeps_map _ (keeps_amqpSync _ _ _ _)
  · exact keeps_map _ (keeps_amqpAsync _ _ _ _)

theorem keeps_channelOp (self : Channel) (op : ChannelOp) (h : ∀ active, op ≠ .flow active) :
    Keeps (Appends Event.Sound) (Operation.channel self op).code := by
  cases op with
  | flow active => exact absurd rfl (h active)
  | ack =>
      refine keeps_map _ ?_
      unfold Channel.ack Channel.rpc
      exact keeps_channel_rpcWith _ _ (keeps_amqpAsync _ _ _ _)
  | nack =>
      refine keeps_map _ ?_
      unfold Channel.nack Channel.rpc
      exact keeps_channel_rpcWith _ _ (keeps_amqpAsync _ _ _ _)
  | qos => exact keeps_map _ (keeps_drop (keeps_channel_rpcWith _ _ (keeps_amqpSync _ _ _ _)))
  | recover => exact keeps_map _ (keeps_drop (keeps_channel_rpcWith _ _ (keeps_amqpSync _ _ _ _)))
  | publish =>
      refine keeps_map _ (keeps_bind (keeps_channel_rpcWith _ _ (keeps_amqpAsync _ _ _ _)) ?_)
      intro status
      cases status with
      | ok => exact keeps_pure ()
      | timeout | socketError | unexpectedState | other _ => exact keeps_throw _
  | rpc r => exact keeps_channel_rpcWith _ _ (keeps_request _ _ _ _)

theorem keeps_exchangeOp (self : Exchange) (op : ExchangeOp) :
    Keeps (Appends Event.Sound) (op.code self) := by
  have hrpc {α : Type} {f : Handle → ChannelId → String → Code World Exc α}
      (hf : Keeps (Appends Event.Sound)
        (f self.channel_.handle self.channel_.channel_ self.name_)) :
      Keeps (Appends Event.Sound) (self.rpc f) :=
    keeps_noexcept (keeps_channel_rpcWith _ _ hf)
  cases op with
  | declare | bind | unbind =>
      exact keeps_map _ (keeps_withArguments _ fun _ =>
        keeps_drop (hrpc (keeps_seenTable _ fun _ => keeps_amqpSync _ _ _ _)))
  | remove => exact keeps_map _ (keeps_drop (hrpc (keeps_amqpSync _ _ _ _)))
  | rpc r =>
      exact keeps_noexcept (keeps_channel_rpcWith _ _ (keeps_request _ [.bytes self.name_] _ _))

theorem keeps_construct (connection : Connection) (id : ChannelId) :
    Keeps (Appends Event.Sound) (Operation.construct connection id).code :=
  keeps_map _ (keeps_bind (keeps_connection_rpcWith _ _ _ (keeps_amqpSync _ _ _ _))
    fun _ => keeps_pure _)

theorem keeps_destruct (self : Channel) :
    Keeps (Appends Event.Sound) (Operation.destruct self).code := by
  refine keeps_map _ (keeps_noexcept ?_)
  split
  · exact keeps_pure ()
  · exact keeps_tryCatch
      (keeps_drop (keeps_connection_rpcWith _ _ _ (keeps_amqpSync _ _ _ _)))
      fun _ => keeps_pure ()

/-! ## Operations that read -/

section Reader

variable {self : Channel} {context : String} {f : CFunction} {args : List Arg} {β : Type}
  {w : World} {c : Handle → ChannelId → Code World Exc OkPtr}
  (hc : (c self.handle self.channel_).run w =
    (.ret (w.okPtr self.handle self.channel_), w.afterSync self.handle f self.channel_ args))
include hc

/-- An rpc whose result is then read by `k`: sound exactly when the pool stays.
What `k` reads first is the structure itself. -/
theorem reader_sound_iff {k : OkPtr → Code World Exc β}
    (hk : ∀ v, ∃ es, ((k (w.okPtr self.handle self.channel_)).run v).2.log = v.log ++ es ∧
      ((∀ e ∈ es, e.Sound) ↔
        v.poolAlive (w.okPtr self.handle self.channel_).ref = true)) :
    Appends Event.Sound w ((self.rpcWith context c >>= k).run w).2 ↔ PoolStays self w := by
  have hrpc : (self.rpcWith context c).run w = _ := Channel.rpcWith_sync hc
  have hsound : Appends Event.Sound w
      ((w.afterSync self.handle f self.channel_ args).settled self.handle self.channel_) := by
    refine ⟨[.call f self.handle (.channel self.channel_ :: args),
      .call .getRpcReply self.handle [],
      .call .maybeReleaseBuffersOnChannel self.handle [.channel self.channel_]], ?_, ?_⟩
    · simp [World.settled, World.afterSync]
    · simp [Event.Sound]
  have hnormal : (w.replied self.handle).replyType = (Library.sync w.calls).reply.replyType := rfl
  rw [PoolStays, ← hnormal, ← okPtr_alive_iff f args]
  cases hv : self.verdict context (w.replied self.handle) with
  | error e =>
      rw [hv] at hrpc
      rw [bind_of_thrown hrpc]
      exact iff_of_true hsound (.inl (Channel.not_normal_of_error hv))
  | ok _ =>
      rw [hv] at hrpc
      rw [bind_of_ret hrpc]
      have hn : (w.replied self.handle).replyType = .normal :=
        (Channel.verdict_ok_iff self context).mp hv
      obtain ⟨es, hlog, hes⟩ := hk
        ((w.afterSync self.handle f self.channel_ args).settled self.handle self.channel_)
      rw [World.appends_iff hsound hlog, hes]
      exact ⟨.inr, fun h => h.resolve_left (fun hne => hne hn)⟩

/-- The same for what `declare` hands on. -/
theorem declared_alive_iff :
    (∀ p w', (self.rpcWith context c).run w = (.ret p, w') → w'.poolAlive p.ref = true) ↔
      PoolStays self w := by
  have hrpc : (self.rpcWith context c).run w = _ := Channel.rpcWith_sync hc
  have hnormal : (w.replied self.handle).replyType = (Library.sync w.calls).reply.replyType := rfl
  rw [PoolStays, ← hnormal, ← okPtr_alive_iff f args, hrpc]
  cases hv : self.verdict context (w.replied self.handle) with
  | error e =>
      exact iff_of_true (fun p w' h => nomatch h) (.inl (Channel.not_normal_of_error hv))
  | ok _ =>
      have hn : (w.replied self.handle).replyType = .normal :=
        (Channel.verdict_ok_iff self context).mp hv
      constructor
      · intro h
        exact .inr (h _ _ rfl)
      · intro h p w' hp
        cases hp
        exact h.resolve_left (fun hne => hne hn)

end Reader

/-- Reading one structure through a pointer. -/
theorem load_sound_iff (p : OkPtr) (v : World) {β : Type} (g : OkMethod Bytes → β) :
    ∃ es, ((do let ok ← p.load; pure (g ok) : Code World Exc β).run v).2.log = v.log ++ es ∧
      ((∀ e ∈ es, e.Sound) ↔ v.poolAlive p.ref = true) := by
  refine ⟨[.deref p.ref (v.poolAlive p.ref)], rfl, ?_⟩
  simp [Event.Sound]


/-- Reading the structure and then the consumer tag it points to, which is in the
same pool: if the structure is gone, the pointer is whatever stands there. -/
theorem load_tag_sound_iff {p : OkPtr} (htag : p.target.consumerTag.mem = .pool p.ref)
    (v : World) :
    ∃ es, ((p.load >>= fun ok => containerString ok.consumerTag : Code World Exc String).run
        v).2.log = v.log ++ es ∧ ((∀ e ∈ es, e.Sound) ↔ v.poolAlive p.ref = true) := by
  have hload : (p.load : Code World Exc _).run v = _ := rfl
  rw [bind_of_ret hload]
  cases hp : v.poolAlive p.ref with
  | true =>
      refine ⟨[.deref p.ref true, .deref p.ref true], ?_, by simp [Event.Sound]⟩
      have hp' : (v.tell (.deref p.ref true)).poolAlive p.ref = true := hp
      simp [containerString, htag, hp']
  | false =>
      cases hm : (Library.stale : OkMethod Bytes).consumerTag.mem with
      | own ident =>
          refine ⟨[.deref p.ref false], ?_, by simp [Event.Sound]⟩
          simp [containerString, hm]
      | pool ref =>
          refine ⟨[.deref p.ref false, .deref ref (v.poolAlive ref)], ?_, by simp [Event.Sound]⟩
          have href : (v.tell (.deref p.ref false)).poolAlive ref = v.poolAlive ref := rfl
          simp [containerString, hm, href]

theorem flow_sound_iff (self : Channel) (active : Bool) (w : World) :
    Appends Event.Sound w ((self.flow active).run w).2 ↔ PoolStays self w :=
  reader_sound_iff rfl (fun v => load_sound_iff _ v _)

theorem remove_sound_iff (self : Queue) (ifUnused ifEmpty : Bool) (w : World) :
    Appends Event.Sound w ((self.remove ifUnused ifEmpty).run w).2 ↔ PoolStays self.channel_ w :=
  reader_sound_iff rfl (fun v => load_sound_iff _ v _)

theorem purge_sound_iff (self : Queue) (w : World) :
    Appends Event.Sound w (self.purge.run w).2 ↔ PoolStays self.channel_ w :=
  reader_sound_iff rfl (fun v => load_sound_iff _ v _)

theorem consume_sound_iff (self : Queue) (consumerTag : String)
    (noLocal noAck exclusive : Bool) (args : List TableEntry) (w : World) :
    Appends Event.Sound w ((self.consume consumerTag noLocal noAck exclusive args).run w).2 ↔
      PoolStays self.channel_ w := by
  rw [Queue.consume, withArguments_appends_iff]
  exact reader_sound_iff rfl (fun v => load_tag_sound_iff rfl v)

theorem declare_sound (self : Queue) (passive durable exclusive autoDelete : Bool)
    (args : List TableEntry) :
    Keeps (Appends Event.Sound) (self.declare passive durable exclusive autoDelete args) :=
  keeps_withArguments _ fun _ =>
    keeps_channel_rpcWith _ _ (keeps_seenTable _ fun _ => keeps_amqpSync _ _ _ _)

theorem declare_alive_iff (self : Queue) (passive durable exclusive autoDelete : Bool)
    (args : List TableEntry) (w : World) :
    (∀ p w', (self.declare passive durable exclusive autoDelete args).run w = (.ret p, w') →
      w'.poolAlive p.ref = true) ↔ PoolStays self.channel_ w := by
  have hrpc : (self.rpc (fun c channel name => amqpQueueDeclare c channel name passive durable
      exclusive autoDelete (Table.make args w.mem).1.toRaw)).run (w.withTable args) = _ :=
    Channel.rpcWith_sync rfl
  rw [Queue.declare, withArguments_of (Outcome.checked_ne_terminate _ _) hrpc,
    alive_withoutTable_iff, ← hrpc]
  exact declared_alive_iff rfl

theorem queueOp_sound_iff (self : Queue) (op : QueueOp) (w : World) :
    RepliesAreThere (.queue self op) w ↔ PoolStaysForReader (.queue self op) w := by
  cases op with
  | declare passive durable exclusive autoDelete args =>
      have hsound := keeps_map Value.ok
        (declare_sound self passive durable exclusive autoDelete args) w
      exact (and_iff_right hsound).trans (declare_alive_iff self _ _ _ _ args w)
  | consume consumerTag noLocal noAck exclusive args =>
      exact (and_iff_left trivial).trans
        (map_appends_iff.trans (consume_sound_iff self _ _ _ _ args w))
  | remove ifUnused ifEmpty =>
      exact (and_iff_left trivial).trans (map_appends_iff.trans (remove_sound_iff self _ _ w))
  | purge => exact (and_iff_left trivial).trans (map_appends_iff.trans (purge_sound_iff self w))
  | bind exchange routingKey args =>
      exact iff_of_true ⟨keeps_map _ (keeps_withArguments _ fun _ => keeps_drop
        (keeps_channel_rpcWith _ _ (keeps_seenTable _ fun _ => keeps_amqpSync _ _ _ _))) w,
        trivial⟩ trivial
  | unbind exchange routingKey args =>
      exact iff_of_true ⟨keeps_map _ (keeps_withArguments _ fun _ => keeps_drop
        (keeps_channel_rpcWith _ _ (keeps_seenTable _ fun _ => keeps_amqpSync _ _ _ _))) w,
        trivial⟩ trivial
  | rpc r =>
      exact iff_of_true
        ⟨keeps_channel_rpcWith _ _ (keeps_request _ [.bytes self.name_] _ _) w, trivial⟩ trivial

/-- One operation. -/
theorem repliesAreThere_iff (op : Operation) (w : World) :
    RepliesAreThere op w ↔ PoolStaysForReader op w := by
  cases op with
  | construct connection id =>
      exact iff_of_true ⟨keeps_construct connection id w, trivial⟩ trivial
  | destruct self => exact iff_of_true ⟨keeps_destruct self w, trivial⟩ trivial
  | exchange self op => exact iff_of_true ⟨keeps_exchangeOp self op w, trivial⟩ trivial
  | queue self op => exact queueOp_sound_iff self op w
  | channel self op =>
    cases op with
    | flow active =>
        exact (and_iff_left trivial).trans (map_appends_iff.trans (flow_sound_iff self active w))
    | ack | nack | qos | recover | publish | rpc =>
        exact iff_of_true ⟨keeps_channelOp self _ (by nofun) w, trivial⟩ trivial

/-- In a run, every reply is read, and handed on, while its memory is there, if
and only if whenever one of the five operations succeeds a frame is queued for its
channel. -/
theorem replies_there_iff_pools_stay (ops : List Operation) (w : World) :
    Along Operation.step RepliesAreThere w ops ↔
      Along Operation.step PoolStaysForReader w ops :=
  along_congr (I := fun _ => True) (fun _ _ => trivial) (fun _ => repliesAreThere_iff _ _) trivial

end ReplyLifetime

/-! ## A purge on a quiet channel -/

/-- The queue is purged while no frame is queued: the message count is read from a
pool that `Channel::rpc` has just recycled. -/
theorem purge_reads_recycled_pool :
    ¬ Along (@Operation.step allSucceed) (@RepliesAreThere allSucceed) World.initial
      [.construct ⟨some 1, "Connection(1): "⟩ 1,
        .queue ⟨⟨⟨some 1, "Connection(1): "⟩, 1, "Channel(1): ", false⟩, "q", "Queue(q): "⟩
          .purge] := by
  intro h
  have hpurge := ((h _ rfl).2 _ rfl).1.1
  have hreads := (World.appends_iff (refl _) rfl).mp hpurge
  exact hreads _ (.tail _ (.tail _ (.tail _ (.head _)))) _ rfl

end RmqCxx
