/-
# `RmqCxx.Releases` — the releases that operations make

A release of buffers recycles the pools of the channels it is about, except those
with queued frames.  `Operation.release` is the release that an operation makes, if
it makes one, in terms of the state before it and of the library's next answer; and
`step_holdings` says that otherwise an operation leaves the memory of objects that
were handed out as it is.
-/
import RmqCxx.Operation

namespace RmqCxx

open Cpp Code

/-! ## Releases -/

/-- A release of the buffers of channels, with the frame queue it finds. -/
structure Release where
  handle : Handle
  which : ChannelId → Bool
  queued : List ChannelId

namespace Release

/-- The release leaves the pool of `ref` alone. -/
def Spares (r : Release) (ref : PoolRef) : Prop :=
  ref.handle = r.handle → r.which ref.channel = true → ref.channel ∈ r.queued

def recycle (r : Release) (recycled : Handle → ChannelId → Nat) : Handle → ChannelId → Nat :=
  fun h channel =>
    if h = r.handle ∧ r.which channel = true ∧ channel ∉ r.queued then recycled h channel + 1
    else recycled h channel

theorem le_recycle (r : Release) (recycled : Handle → ChannelId → Nat) (h : Handle)
    (channel : ChannelId) : recycled h channel ≤ r.recycle recycled h channel := by
  unfold recycle
  split
  · exact Nat.le_succ _
  · exact Nat.le_refl _

/-- Of the pools that are there, exactly those the release spares stay. -/
theorem recycle_eq_iff (r : Release) (recycled : Handle → ChannelId → Nat) (ref : PoolRef) :
    r.recycle recycled ref.handle ref.channel = recycled ref.handle ref.channel ↔
      r.Spares ref := by
  unfold recycle Spares
  split
  · next h =>
      refine iff_of_false (Nat.succ_ne_self _) fun hspares => ?_
      exact h.2.2 (hspares h.1 h.2.1)
  · next h =>
      refine iff_of_true rfl fun hhandle hwhich => ?_
      by_contra hqueued
      exact h ⟨hhandle, hwhich, hqueued⟩

end Release

/-! ## Memory that was handed out -/

def Event.lifeEnd : Event → Option Bool
  | .lifeEnds intact => some intact
  | _ => none

/-- A C structure with an `amqp_destroy_*` function, by its identity. -/
inductive Structure where
  | envelope (ident : Nat)
  | message (ident : Nat)
  deriving DecidableEq, Repr

/-- The structure that is passed to its `amqp_destroy_*` function. -/
def Event.disposed : Event → Option Structure
  | .destroyEnvelope ident => some (.envelope ident)
  | .destroyMessage ident => some (.message ident)
  | _ => none

def Structure.ident : Structure → Nat
  | envelope ident | message ident => ident

namespace Kept

/-- The structure in the object. -/
def struct : Kept → Structure
  | envelope e => .envelope e.memory_.ident
  | returned r => .message r.message_.memory_.ident

/-- The structure that the object disposes of at the end of its life. -/
def owned : Kept → Option Structure
  | envelope e => e.holding.map fun memory => .envelope memory.ident
  | returned r => r.message_.holding.map fun memory => .message memory.ident

end Kept

/-- What decides about objects that were handed out: the kept ones, the structures
that were freed, the ends of lives noted and the structures disposed of so far, and the
generations of the pools. -/
structure Holdings where
  kept : List Kept
  nextIdent : Nat
  freed : Nat → Bool
  ends : List Bool
  disposed : List Structure
  recycled : Handle → ChannelId → Nat

namespace World

def holdings (w : World) : Holdings where
  kept := w.kept
  nextIdent := w.nextIdent
  freed := w.freed
  ends := w.log.filterMap Event.lifeEnd
  disposed := w.log.filterMap Event.disposed
  recycled h := (w.conns h).recycled

/-- All these pools are there. -/
def Holds (w : World) (refs : List PoolRef) : Prop := ∀ ref ∈ refs, w.poolAlive ref = true

theorem poolAlive_iff {w : World} {ref : PoolRef} :
    w.poolAlive ref = true ↔ w.holdings.recycled ref.handle ref.channel = ref.generation :=
  decide_eq_true_iff

theorem holdings_tell {w : World} {e : Event} (he : e.lifeEnd = none)
    (hdisposed : e.disposed = none) : (w.tell e).holdings = w.holdings := by
  simp only [holdings, tell_log, List.filterMap_append, List.filterMap_cons_none he,
    List.filterMap_cons_none hdisposed, List.filterMap_nil, List.append_nil, tell_conns]
  rfl

theorem holdings_setConn {w : World} {h : Handle} {c : ConnState}
    (hc : c.recycled = (w.conns h).recycled) : (w.setConn h c).holdings = w.holdings := by
  have hrecycled : (fun h' => ((w.setConn h c).conns h').recycled) =
      fun h' => (w.conns h').recycled := by
    funext h'
    show (if h' = h then c else w.conns h').recycled = _
    split
    · next heq => rw [heq, hc]
    · rfl
  unfold holdings
  rw [hrecycled]
  rfl

end World

/-- After a release. -/
def Holdings.released (v : Holdings) (r : Release) : Holdings :=
  { v with recycled := r.recycle v.recycled }

theorem World.holdings_recycle (w : World) (h : Handle) (which : ChannelId → Bool) :
    (w.setConn h ((w.conns h).recycle which)).holdings =
      w.holdings.released ⟨h, which, (w.conns h).queued⟩ := by
  have hrecycled : (fun h' => ((w.setConn h ((w.conns h).recycle which)).conns h').recycled) =
      Release.recycle ⟨h, which, (w.conns h).queued⟩ (fun h' => (w.conns h').recycled) := by
    funext h' channel
    show (if h' = h then (w.conns h).recycle which else w.conns h').recycled channel = _
    unfold Release.recycle
    by_cases heq : h' = h
    · subst heq
      rw [if_pos rfl]
      simp only [ConnState.recycle, true_and]
    · rw [if_neg heq, if_neg (fun hand => heq hand.1)]
  unfold World.holdings Holdings.released
  rw [hrecycled]
  rfl

/-! ## What an operation releases -/

section Operations

variable [Library]

def Request.arrivals (r : Request) (n : Nat) : List ChannelId :=
  if r.synchronous then (Library.sync n).arrivals else (Library.async n).arrivals

/-- The channels of the frames that arrive during the call. -/
def ChannelOp.arrivals (n : Nat) : ChannelOp → List ChannelId
  | .ack _ _ | .nack _ _ _ | .publish _ _ _ _ _ _ => (Library.async n).arrivals
  | .qos _ _ _ | .flow _ | .recover _ => (Library.sync n).arrivals
  | .rpc r => r.arrivals n

def QueueOp.arrivals (n : Nat) : QueueOp → List ChannelId
  | .rpc r => r.arrivals n
  | _ => (Library.sync n).arrivals

def ExchangeOp.arrivals (n : Nat) : ExchangeOp → List ChannelId
  | .rpc r => r.arrivals n
  | _ => (Library.sync n).arrivals

/-- The release of all channels that a connection makes when its next synchronous
method is answered normally. -/
def Connection.releaseAll (self : Connection) (w : World) : Option Release :=
  if (Library.sync w.calls).reply.replyType = .normal then
    some ⟨self.connection_, fun _ => true,
      (w.conns self.connection_).queued ++ (Library.sync w.calls).arrivals⟩
  else none

/-- The release that a channel makes on every exit of an rpc. -/
def Channel.releaseOwn (self : Channel) (w : World) (arrivals : List ChannelId) : Release :=
  ⟨self.handle, (· == self.channel_), (w.conns self.handle).queued ++ arrivals⟩

/-- The release that the operation makes from `w`, if it makes one. -/
def Operation.release (w : World) : Operation → Option Release
  | .construct connection _ => connection.releaseAll w
  | .destruct self => if self.moved_ then none else self.connection_.releaseAll w
  | .channel self op => some (self.releaseOwn w (op.arrivals w.calls))
  | .queue self op => some (self.channel_.releaseOwn w (op.arrivals w.calls))
  | .exchange self op => some (self.channel_.releaseOwn w (op.arrivals w.calls))

/-- The operation, from `w`, leaves the pools of `refs` alone. -/
def Operation.Spares (refs : List PoolRef) (op : Operation) (w : World) : Prop :=
  ∀ r ∈ op.release w, ∀ ref ∈ refs, r.Spares ref

/-! ## The holdings after a call -/

section Calls

variable {α : Type} {self : Channel} {context : String} {w w' : World} {a : α}

theorem sameHoldings_load (p : OkPtr) :
    Keeps (Same World.holdings) (p.load : Code World Exc (OkMethod Bytes)) :=
  fun _ => World.holdings_tell rfl rfl

theorem sameHoldings_containerString (b : Bytes) :
    Keeps (Same World.holdings) (containerString b : Code World Exc String) := by
  intro w
  obtain ⟨data, mem⟩ := b
  cases mem with
  | pool ref => exact World.holdings_tell rfl rfl
  | own ident => rfl

theorem holdings_afterSync (w : World) (h : Handle) (f : CFunction) (channel : ChannelId)
    (args : List Arg) : (w.afterSync h f channel args).holdings = w.holdings := by
  refine (World.holdings_setConn ?_).trans (World.holdings_tell ?_ ?_)
  · rfl
  · rfl
  · rfl

theorem holdings_afterAsync (w : World) (h : Handle) (f : CFunction) (channel : ChannelId)
    (args : List Arg) : (w.afterAsync h f channel args).holdings = w.holdings := by
  refine (World.holdings_setConn ?_).trans (World.holdings_tell ?_ ?_)
  · rfl
  · rfl
  · rfl

/-- `Channel::rpc` releases once, with the frame queue that the call left. -/
theorem leaves_channel_rpcWith {f : Handle → ChannelId → Code World Exc α}
    (hf : (f self.handle self.channel_).run w = (.ret a, w')) (hw : w'.holdings = w.holdings) :
    Leaves World.holdings
      (w.holdings.released ⟨self.handle, (· == self.channel_), (w'.conns self.handle).queued⟩)
      (self.rpcWith context f) w := by
  rw [Leaves, Channel.rpcWith_of_ret hf, ← hw]
  exact (World.holdings_recycle _ self.handle (· == self.channel_)).trans
    (congrArg (Holdings.released · _)
      ((World.holdings_tell rfl rfl).trans (World.holdings_tell rfl rfl)))

theorem leaves_sync {f : CFunction} {args : List Arg}
    {c : Handle → ChannelId → Code World Exc OkPtr}
    (hc : (c self.handle self.channel_).run w =
      (.ret (w.okPtr self.handle self.channel_), w.afterSync self.handle f self.channel_ args)) :
    Leaves World.holdings
      (w.holdings.released (self.releaseOwn w (Library.sync w.calls).arrivals))
      (self.rpcWith context c) w := by
  have hqueued : ((w.afterSync self.handle f self.channel_ args).conns self.handle).queued =
      (w.conns self.handle).queued ++ (Library.sync w.calls).arrivals := by
    rw [World.afterSync, World.setConn_conns_self]
  rw [Channel.releaseOwn, ← hqueued]
  exact leaves_channel_rpcWith hc (holdings_afterSync _ _ _ _ _)

theorem leaves_async {f : CFunction} {args : List Arg}
    {c : Handle → ChannelId → Code World Exc Status}
    (hc : (c self.handle self.channel_).run w =
      (.ret (Library.async w.calls).status, w.afterAsync self.handle f self.channel_ args)) :
    Leaves World.holdings
      (w.holdings.released (self.releaseOwn w (Library.async w.calls).arrivals))
      (self.rpcWith context c) w := by
  have hqueued : ((w.afterAsync self.handle f self.channel_ args).conns self.handle).queued =
      (w.conns self.handle).queued ++ (Library.async w.calls).arrivals := by
    rw [World.afterAsync, World.setConn_conns_self]
  rw [Channel.releaseOwn, ← hqueued]
  exact leaves_channel_rpcWith hc (holdings_afterAsync _ _ _ _ _)

/-- `Connection::rpc` with a synchronous method releases everything after a normal
reply. -/
theorem leaves_connection_rpc {connection : Connection} {f : CFunction} {channel : ChannelId}
    {args : List Arg} {c : Handle → Code World Exc OkPtr}
    (hc : (c connection.connection_).run w =
      (.ret (w.okPtr connection.connection_ channel),
        w.afterSync connection.connection_ f channel args)) :
    Leaves World.holdings ((connection.releaseAll w).elim w.holdings w.holdings.released)
      (connection.rpcWith true context c) w := by
  have hsame : ((w.afterSync connection.connection_ f channel args).tell
      (.call .getRpcReply connection.connection_ [])).holdings = w.holdings :=
    (World.holdings_tell rfl rfl).trans (holdings_afterSync _ _ _ _ _)
  have hqueued : ((w.afterSync connection.connection_ f channel args).conns
      connection.connection_).queued =
      (w.conns connection.connection_).queued ++ (Library.sync w.calls).arrivals := by
    rw [World.afterSync, World.setConn_conns_self]
  have hverdict : Connection.processReply (connection.context_ ++ context)
      ((w.afterSync connection.connection_ f channel args).conns
        connection.connection_).lastReply = .ok () ↔
      (Library.sync w.calls).reply.replyType = .normal := by
    rw [World.afterSync_lastReply]
    exact processReply_ok_iff
  rw [Leaves, Connection.rpcWith_of_ret hc, Connection.releaseAll]
  dsimp only
  split
  · next hreleases =>
      rw [if_pos (hverdict.mp hreleases.1), ← hqueued]
      refine (World.holdings_recycle _ connection.connection_ (fun _ => true)).trans ?_
      exact congrArg (Holdings.released · _) ((World.holdings_tell rfl rfl).trans hsame)
  · next hkeeps =>
      rw [if_neg (fun h => hkeeps ⟨hverdict.mpr h, rfl⟩)]
      exact hsame

/-- The generic rpc, on a channel or through a queue or an exchange. -/
theorem leaves_request {r : Request} {first : List Arg} :
    Leaves World.holdings (w.holdings.released (self.releaseOwn w (r.arrivals w.calls)))
      (self.rpcWith context (r.code first)) w := by
  cases hs : r.synchronous with
  | true =>
      have hcall := r.code_of_sync hs first self.handle self.channel_ w
      have hqueued : ((w.afterSync self.handle r.function self.channel_
          (first ++ r.args)).conns self.handle).queued =
          (w.conns self.handle).queued ++ (Library.sync w.calls).arrivals := by
        rw [World.afterSync, World.setConn_conns_self]
      rw [Channel.releaseOwn, Request.arrivals, if_pos hs, ← hqueued]
      exact leaves_channel_rpcWith hcall (holdings_afterSync _ _ _ _ _)
  | false =>
      have hcall := r.code_of_async hs first self.handle self.channel_ w
      have hqueued : ((w.afterAsync self.handle r.function self.channel_
          (first ++ r.args)).conns self.handle).queued =
          (w.conns self.handle).queued ++ (Library.async w.calls).arrivals := by
        rw [World.afterAsync, World.setConn_conns_self]
      rw [Channel.releaseOwn, Request.arrivals, if_neg (Bool.eq_false_iff.mp hs), ← hqueued]
      exact leaves_channel_rpcWith hcall (holdings_afterAsync _ _ _ _ _)

end Calls

/-! ## Every operation -/

section Each

variable {w : World}

theorem channelOp_leaves (self : Channel) (op : ChannelOp) :
    Leaves World.holdings (w.holdings.released (self.releaseOwn w (op.arrivals w.calls)))
      (op.code self) w := by
  cases op with
  | ack tag multiple =>
      refine Leaves.map _ ?_
      unfold Channel.ack Channel.rpc
      exact leaves_async rfl
  | nack tag multiple requeue =>
      refine Leaves.map _ ?_
      unfold Channel.nack Channel.rpc
      exact leaves_async rfl
  | qos prefetchCount perChannel prefetchSize => exact (leaves_sync rfl).drop.map _
  | recover requeue => exact (leaves_sync rfl).drop.map _
  | flow active =>
      exact ((leaves_sync rfl).bind fun p =>
        keeps_bind (sameHoldings_load p) fun ok => keeps_pure _).map _
  | rpc r => exact leaves_request
  | publish exchange routingKey mandatory immediate body properties =>
      refine ((leaves_async rfl).bind fun status => ?_).map _
      cases status with
      | ok => exact keeps_pure _
      | timeout | socketError | unexpectedState | other _ => exact keeps_throw _

theorem queueOp_leaves (self : Queue) (op : QueueOp) :
    Leaves World.holdings
      (w.holdings.released (self.channel_.releaseOwn w (op.arrivals w.calls)))
      (op.code self) w := by
  have hmem (w : World) (m : Memory) : World.holdings { w with mem := m } = w.holdings := rfl
  cases op with
  | declare passive durable exclusive autoDelete args =>
      exact (leaves_withArguments hmem (leaves_sync rfl)).map _
  | bind exchange routingKey args => exact (leaves_withArguments hmem (leaves_sync rfl).drop).map _
  | unbind exchange routingKey args =>
      exact (leaves_withArguments hmem (leaves_sync rfl).drop).map _
  | consume consumerTag noLocal noAck exclusive args =>
      exact (leaves_withArguments hmem ((leaves_sync rfl).bind fun p =>
        keeps_bind (sameHoldings_load p) fun ok => sameHoldings_containerString _)).map _
  | remove ifUnused ifEmpty =>
      exact ((leaves_sync rfl).bind fun p =>
        keeps_bind (sameHoldings_load p) fun ok => keeps_pure _).map _
  | purge =>
      exact ((leaves_sync rfl).bind fun p =>
        keeps_bind (sameHoldings_load p) fun ok => keeps_pure _).map _
  | rpc r => exact leaves_request

theorem exchangeOp_leaves (self : Exchange) (op : ExchangeOp) :
    Leaves World.holdings
      (w.holdings.released (self.channel_.releaseOwn w (op.arrivals w.calls)))
      (op.code self) w := by
  have hmem (w : World) (m : Memory) : World.holdings { w with mem := m } = w.holdings := rfl
  cases op with
  | declare type passive durable autoDelete args =>
      exact (leaves_withArguments hmem (leaves_sync rfl).noexcept.drop).map _
  | bind src routingKey args =>
      exact (leaves_withArguments hmem (leaves_sync rfl).noexcept.drop).map _
  | unbind src routingKey args =>
      exact (leaves_withArguments hmem (leaves_sync rfl).noexcept.drop).map _
  | remove ifUnused => exact (leaves_sync rfl).noexcept.drop.map _
  | rpc r => exact leaves_request.noexcept

/-- `~Channel()` releases what closing the channel releases. -/
theorem destruct_leaves (self : Channel) :
    Leaves World.holdings
      (((Operation.destruct self).release w).elim w.holdings w.holdings.released)
      (Operation.destruct self).code w := by
  refine Leaves.map _ (Leaves.noexcept ?_)
  rw [Operation.release]
  cases self.moved_ with
  | true => exact rfl
  | false =>
      exact ((leaves_connection_rpc rfl).drop).tryCatch fun _ => keeps_pure _

end Each

/-- One operation changes the pools by its release, and nothing else. -/
theorem operation_leaves (op : Operation) (w : World) :
    Leaves World.holdings ((op.release w).elim w.holdings w.holdings.released) op.code w := by
  cases op with
  | construct connection id =>
      exact ((leaves_connection_rpc rfl).bind fun _ => keeps_pure _).map _
  | destruct self => exact destruct_leaves self
  | channel self op => exact channelOp_leaves self op
  | queue self op => exact queueOp_leaves self op
  | exchange self op => exact exchangeOp_leaves self op

theorem step_holdings {op : Operation} {w w' : World} (hstep : op.step w = some w') :
    w'.holdings = (op.release w).elim w.holdings w.holdings.released := by
  have hleaves := operation_leaves op w
  unfold Operation.step at hstep
  rcases hr : op.code.run w with ⟨_ | _ | _, w''⟩
  · rw [hr] at hstep
    cases hstep
    rw [Leaves, hr] at hleaves
    exact hleaves
  · rw [hr] at hstep
    cases hstep
    rw [Leaves, hr] at hleaves
    exact hleaves
  · rw [hr] at hstep
    cases hstep

end Operations
end RmqCxx
