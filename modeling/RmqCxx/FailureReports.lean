/-
# `RmqCxx.FailureReports` — Queue and Exchange report what Channel::rpc reports

`Queue` and `Exchange` are written alike, and an operation of either should end
as `Channel::rpc` ends: with the function's result, or with the exception that
`processReply` assigns to the reply.  For `Queue` it does.  `Exchange::rpc` is
declared `noexcept`, so every reply that is not normal ends the program there.
-/
import RmqCxx.Operation

namespace RmqCxx

open Cpp Code

/-- An operation of one of the two classes. -/
inductive NamedOp where
  | queue (self : Queue) (op : QueueOp)
  | exchange (self : Exchange) (op : ExchangeOp)

/-- The C function under an operation. -/
def QueueOp.function : QueueOp → CFunction
  | .declare _ _ _ _ _ => .queueDeclare
  | .bind _ _ _ => .queueBind
  | .unbind _ _ _ => .queueUnbind
  | .consume _ _ _ _ _ => .basicConsume
  | .remove _ _ => .queueDelete
  | .purge => .queuePurge
  | .rpc r => r.function

def ExchangeOp.function : ExchangeOp → CFunction
  | .declare _ _ _ _ _ => .exchangeDeclare
  | .bind _ _ _ => .exchangeBind
  | .unbind _ _ _ => .exchangeUnbind
  | .remove _ => .exchangeDelete
  | .rpc r => r.function

/-- A read through a pointer, which is no call. -/
def Event.IsRead (e : Event) : Prop := ∃ ref live, e = .deref ref live

/-! ## One call -/

section Calls

/-- The log of one call of `f` through `Channel::rpc`, and then reads only: the
handle, the channel and the name come first among the arguments. -/
def CallsOnce (f : CFunction) (channel : Channel) (name : String) (w w' : World) : Prop :=
  ∃ args reads,
    w'.log = w.log ++
      [.call f channel.handle (.channel channel.channel_ :: .bytes name :: args),
        .call .getRpcReply channel.handle [],
        .call .maybeReleaseBuffersOnChannel channel.handle [.channel channel.channel_]] ++ reads ∧
    ∀ e ∈ reads, e.IsRead

/-- `c` makes one call of `f` for the object and ends in `o`. -/
def Reports {β : Type} (f : CFunction) (channel : Channel) (name : String)
    (c : Code World Exc β) (w : World) (o : Outcome Exc β) : Prop :=
  CallsOnce f channel name w (c.run w).2 ∧ (c.run w).1 = o

variable {β γ : Type} {f : CFunction} {channel : Channel} {name : String}
  {c : Code World Exc β} {w : World} {o : Outcome Exc β}

theorem Reports.map (g : β → γ) (h : Reports f channel name c w o) :
    Reports f channel name (g <$> c) w (o.map g) := by
  rw [Reports, run_map, h.2]
  exact ⟨h.1, rfl⟩

theorem Reports.value {b : β} {r : Except Exc Unit} (g : β → γ)
    (h : Reports f channel name c w (.checked b r)) :
    Reports f channel name (g <$> c) w (.checked (g b) r) := by
  have hmap := h.map g
  rwa [Outcome.map_checked] at hmap

theorem Reports.drop (h : Reports f channel name c w o) :
    Reports f channel name (do let _ ← c; pure ()) w (o.map (fun _ => ())) := by
  rw [Reports, run_drop, h.2]
  exact ⟨h.1, rfl⟩

theorem Reports.sealed (h : Reports f channel name c w o) :
    Reports f channel name (noexcept_ c) w o.sealed := by
  rw [Reports, run_noexcept, h.2]
  exact ⟨h.1, rfl⟩

theorem Reports.withArguments {args : List TableEntry} {scope : RawTable → Code World Exc β}
    (h : Reports f channel name (scope (Table.make args w.mem).1.toRaw) (w.withTable args) o) :
    Reports f channel name (withArguments args scope) w o := by
  obtain ⟨hout, hlog⟩ := withArguments_run args scope w
  obtain ⟨⟨rest, reads, hw, hreads⟩, ho⟩ := h
  exact ⟨⟨rest, reads, hlog.trans hw, hreads⟩, hout.trans ho⟩

end Calls

section Reports

variable [Library]

/-! ## What the operations should do -/

/-- What the pointer finds once the buffers of its channel were released. -/
def World.found (w : World) (h : Handle) (channel : ChannelId) : OkMethod Bytes :=
  if channel ∈ (w.conns h).queued ++ (Library.sync w.calls).arrivals then
    (w.okPtr h channel).target
  else Library.stale

def Request.result (r : Request) (w : World) (h : Handle) (channel : ChannelId) : Value :=
  if r.synchronous then .ok (w.okPtr h channel) else .status (Library.async w.calls).status

/-- What an operation makes of the function's result. -/
def QueueOp.result (op : QueueOp) (w : World) (h : Handle) (channel : ChannelId) : Value :=
  match op with
  | .declare _ _ _ _ _ => .ok (w.okPtr h channel)
  | .bind _ _ _ | .unbind _ _ _ => .unit
  | .consume _ _ _ _ _ => .text (w.found h channel).consumerTag.data
  | .remove _ _ | .purge => .count (w.found h channel).messageCount
  | .rpc r => r.result w h channel

def ExchangeOp.result (op : ExchangeOp) (w : World) (h : Handle) (channel : ChannelId) : Value :=
  match op with
  | .declare _ _ _ _ _ | .bind _ _ _ | .unbind _ _ _ | .remove _ => .unit
  | .rpc r => r.result w h channel

def Request.reply (r : Request) (w : World) (h : Handle) : RpcReply :=
  if r.synchronous then w.replied h else (w.conns h).lastReply

namespace NamedOp

def code : NamedOp → Code World Exc Value
  | .queue self op => op.code self
  | .exchange self op => op.code self

def channel : NamedOp → Channel
  | .queue self _ => self.channel_
  | .exchange self _ => self.channel_

def name : NamedOp → String
  | .queue self _ => self.name_
  | .exchange self _ => self.name_

def context : NamedOp → String
  | .queue self _ => self.context_
  | .exchange self _ => self.context_

def function : NamedOp → CFunction
  | .queue _ op => op.function
  | .exchange _ op => op.function

def result (op : NamedOp) (w : World) : Value :=
  match op with
  | .queue self op => op.result w self.channel_.handle self.channel_.channel_
  | .exchange self op => op.result w self.channel_.handle self.channel_.channel_

/-- The reply on record once the function was called. -/
def reply (op : NamedOp) (w : World) : RpcReply :=
  match op with
  | .queue self (.rpc r) => r.reply w self.channel_.handle
  | .exchange self (.rpc r) => r.reply w self.channel_.handle
  | op => w.replied op.channel.handle

end NamedOp

/-- One call, and the end that `Channel::rpc` of the same call has. -/
def ReportsAsChannel (op : NamedOp) (w : World) : Prop :=
  Reports op.function op.channel op.name op.code w
    (.checked (op.result w) (op.channel.verdict op.context (op.reply w)))

/-! ## What they do -/

section Lemmas

variable {β : Type} {f : CFunction} {channel : Channel} {name context : String} {w : World}

/-- The call itself, synchronous or not. -/
theorem reports_rpc {call : Handle → ChannelId → Code World Exc β} {b : β} {w' : World}
    {args : List Arg} (hcall : (call channel.handle channel.channel_).run w = (.ret b, w'))
    (hlog : w'.log =
      w.log ++ [.call f channel.handle (.channel channel.channel_ :: .bytes name :: args)]) :
    Reports f channel name (channel.rpcWith context call) w
      (.checked b (channel.verdict context (w'.conns channel.handle).lastReply)) := by
  rw [Reports, Channel.rpcWith_of_ret hcall]
  refine ⟨⟨args, [], ?_, List.forall_mem_nil _⟩, rfl⟩
  simp [World.settled, hlog]

theorem reports_sync {call : Handle → ChannelId → Code World Exc OkPtr} {args : List Arg}
    (hcall : (call channel.handle channel.channel_).run w =
      (.ret (w.okPtr channel.handle channel.channel_),
        w.afterSync channel.handle f channel.channel_ (.bytes name :: args))) :
    Reports f channel name (channel.rpcWith context call) w
      (.checked (w.okPtr channel.handle channel.channel_)
        (channel.verdict context (w.replied channel.handle))) := by
  have h : Reports f channel name (channel.rpcWith context call) w _ := reports_rpc hcall rfl
  rwa [World.afterSync_lastReply] at h

/-- A call whose result is then read by `k`. -/
theorem reports_read {call : Handle → ChannelId → Code World Exc OkPtr} {args : List Arg}
    (hcall : (call channel.handle channel.channel_).run w =
      (.ret (w.okPtr channel.handle channel.channel_),
        w.afterSync channel.handle f channel.channel_ (.bytes name :: args)))
    {k : OkPtr → Code World Exc β} {b : β}
    (hk : ∃ v reads, (k (w.okPtr channel.handle channel.channel_)).run
        ((w.afterSync channel.handle f channel.channel_ (.bytes name :: args)).settled
          channel.handle channel.channel_) = (.ret b, v) ∧
      v.log = ((w.afterSync channel.handle f channel.channel_ (.bytes name :: args)).settled
          channel.handle channel.channel_).log ++ reads ∧ ∀ e ∈ reads, e.IsRead) :
    Reports f channel name (channel.rpcWith context call >>= k) w
      (.checked b (channel.verdict context (w.replied channel.handle))) := by
  have hrpc : (channel.rpcWith context call).run w = _ := Channel.rpcWith_sync hcall
  have hsync : Reports f channel name (channel.rpcWith context call) w _ := reports_sync hcall
  obtain ⟨⟨rest, none, hlog, hnone⟩, -⟩ := hsync
  cases hv : channel.verdict context (w.replied channel.handle) with
  | error e =>
      rw [hv] at hrpc
      rw [hrpc] at hlog
      rw [Reports, bind_of_thrown hrpc]
      exact ⟨⟨rest, none, hlog, hnone⟩, rfl⟩
  | ok _ =>
      rw [hv] at hrpc
      rw [hrpc] at hlog
      obtain ⟨v, reads, hrun, hv, hreads⟩ := hk
      rw [Reports, bind_of_ret hrpc, hrun]
      refine ⟨⟨rest, none ++ reads, ?_, ?_⟩, rfl⟩
      · rw [hv, hlog, List.append_assoc]
      · intro e he
        rcases List.mem_append.mp he with he | he
        · exact hnone e he
        · exact hreads e he

theorem load_found {h : Handle} {id : ChannelId} (f : CFunction) (args : List Arg) (w : World) :
    let v := (w.afterSync h f id args).settled h id
    (w.okPtr h id).load.run v =
      ((.ret (w.found h id) : Outcome Exc _),
        v.tell (.deref (w.okPtr h id).ref (v.poolAlive (w.okPtr h id).ref))) := by
  intro v
  have halive : v.poolAlive (w.okPtr h id).ref = true ↔ _ := okPtr_alive_iff f args
  by_cases hmem : id ∈ (w.conns h).queued ++ (Library.sync w.calls).arrivals
  · simp [OkPtr.load, World.found, hmem, halive.mpr hmem]
  · have hdead : v.poolAlive (w.okPtr h id).ref = false := by
      rw [← Bool.not_eq_true, halive]
      exact hmem
    simp [OkPtr.load, World.found, hmem, hdead]

end Lemmas

/-- A call whose result is dropped, inside the life of a table. -/
theorem reports_binding {channel : Channel} {name context : String} {f : CFunction}
    {args : List TableEntry} {w : World}
    {call : RawTable → Handle → ChannelId → Code World Exc OkPtr} {rest : List Arg}
    (hcall : (call (Table.make args w.mem).1.toRaw channel.handle channel.channel_).run
        (w.withTable args) =
      (.ret (w.okPtr channel.handle channel.channel_),
        (w.withTable args).afterSync channel.handle f channel.channel_ (.bytes name :: rest))) :
    Reports f channel name
      (withArguments args fun t => do
        let _ ← channel.rpcWith context (call t)
        pure ()) w
      (.checked () (channel.verdict context (w.replied channel.handle))) := by
  have h : Reports f channel name (channel.rpcWith context (call (Table.make args w.mem).1.toRaw))
      (w.withTable args) _ := reports_sync hcall
  have hdrop := h.drop
  rw [Outcome.map_checked] at hdrop
  exact Reports.withArguments hdrop

/-- A call of which one field of the result is read. -/
theorem reports_field {channel : Channel} {name context : String} {f : CFunction}
    {args : List Arg} {w : World} {β : Type} {g : OkMethod Bytes → β}
    {call : Handle → ChannelId → Code World Exc OkPtr}
    (hcall : (call channel.handle channel.channel_).run w =
      (.ret (w.okPtr channel.handle channel.channel_),
        w.afterSync channel.handle f channel.channel_ (.bytes name :: args))) :
    Reports f channel name
      (do
        let ok ← channel.rpcWith context call
        let ok ← ok.load
        pure (g ok)) w
      (.checked (g (w.found channel.handle channel.channel_))
        (channel.verdict context (w.replied channel.handle))) := by
  let v := (w.afterSync channel.handle f channel.channel_ (.bytes name :: args)).settled
    channel.handle channel.channel_
  let ref := (w.okPtr channel.handle channel.channel_).ref
  refine reports_read hcall
    ⟨v.tell (.deref ref (v.poolAlive ref)), [.deref ref (v.poolAlive ref)], ?_, rfl, ?_⟩
  · rw [bind_of_ret (load_found f (.bytes name :: args) w)]
    rfl
  · intro e he
    exact ⟨_, _, List.mem_singleton.mp he⟩

/-- Copying the consumer tag gives what stands where the structure points, also
when both are gone. -/
theorem container_found {h : Handle} {id : ChannelId} (f : CFunction) (args : List Arg)
    (w : World) (e : Event) :
    let v := ((w.afterSync h f id args).settled h id).tell e
    ((containerString (w.found h id).consumerTag).run v).1 =
      (.ret (w.found h id).consumerTag.data : Outcome Exc _) := by
  intro v
  have halive : v.poolAlive (w.okPtr h id).ref = true ↔ _ := okPtr_alive_iff f args
  by_cases hmem : id ∈ (w.conns h).queued ++ (Library.sync w.calls).arrivals
  · have hfound : w.found h id = (w.okPtr h id).target := if_pos hmem
    have htag : v.alive (w.okPtr h id).target.consumerTag.mem = true := halive.mpr hmem
    simp [containerString, hfound, htag]
  · have hfound : w.found h id = Library.stale := if_neg hmem
    simp [containerString, hfound]

theorem containerString_log (bytes : Bytes) (w : World) :
    ∃ reads, ((containerString bytes : Code World Exc String).run w).2.log = w.log ++ reads ∧
      ∀ e ∈ reads, e.IsRead := by
  cases hm : bytes.mem with
  | own ident => exact ⟨[], by simp [containerString, hm], List.forall_mem_nil _⟩
  | pool ref =>
      refine ⟨[.deref ref (w.poolAlive ref)], by simp [containerString, hm], fun e he => ?_⟩
      exact ⟨_, _, List.mem_singleton.mp he⟩

/-- `consume` reads a field and what it points to; the copy is of what stands
there. -/
theorem reports_tag {channel : Channel} {name context : String} {f : CFunction}
    {args : List Arg} {w : World}
    {call : Handle → ChannelId → Code World Exc OkPtr}
    (hcall : (call channel.handle channel.channel_).run w =
      (.ret (w.okPtr channel.handle channel.channel_),
        w.afterSync channel.handle f channel.channel_ (.bytes name :: args))) :
    Reports f channel name
      (do
        let ok ← channel.rpcWith context call
        let ok ← ok.load
        containerString ok.consumerTag) w
      (.checked (w.found channel.handle channel.channel_).consumerTag.data
        (channel.verdict context (w.replied channel.handle))) := by
  let v := (w.afterSync channel.handle f channel.channel_ (.bytes name :: args)).settled
    channel.handle channel.channel_
  let ref := (w.okPtr channel.handle channel.channel_).ref
  let first : Event := .deref ref (v.poolAlive ref)
  let tag := (w.found channel.handle channel.channel_).consumerTag
  obtain ⟨reads, hlog, hreads⟩ := containerString_log tag (v.tell first)
  refine reports_read hcall ⟨((containerString tag : Code World Exc String).run (v.tell first)).2,
    first :: reads, ?_, ?_, ?_⟩
  · rw [bind_of_ret (load_found f (.bytes name :: args) w)]
    exact Prod.ext (container_found f (.bytes name :: args) w first) rfl
  · rw [hlog, World.tell_log, List.append_assoc]
    rfl
  · rintro e (_ | ⟨_, he⟩)
    · exact ⟨_, _, rfl⟩
    · exact hreads e he

/-- The generic rpc. -/
theorem reports_request {channel : Channel} {name context : String} {r : Request} {w : World} :
    Reports r.function channel name
      (channel.rpcWith context (fun c id => r.code [.bytes name] c id)) w
      (.checked (r.result w channel.handle channel.channel_)
        (channel.verdict context (r.reply w channel.handle))) := by
  cases hs : r.synchronous with
  | true =>
      have hcall := r.code_of_sync hs [.bytes name] channel.handle channel.channel_ w
      have h : Reports r.function channel name (channel.rpcWith context
          (fun c id => r.code [.bytes name] c id)) w _ := reports_rpc hcall rfl
      rw [World.afterSync_lastReply] at h
      rwa [Request.result, Request.reply, if_pos hs, if_pos hs]
  | false =>
      have hcall := r.code_of_async hs [.bytes name] channel.handle channel.channel_ w
      have h : Reports r.function channel name (channel.rpcWith context
          (fun c id => r.code [.bytes name] c id)) w _ := reports_rpc hcall rfl
      rw [World.afterAsync_lastReply] at h
      rwa [Request.result, Request.reply, if_neg (Bool.eq_false_iff.mp hs),
        if_neg (Bool.eq_false_iff.mp hs)]

theorem queueOp_reports (self : Queue) (op : QueueOp) (w : World) :
    ReportsAsChannel (.queue self op) w := by
  cases op with
  | declare passive durable exclusive autoDelete args =>
      have h : Reports .queueDeclare self.channel_ self.name_
          (self.declare passive durable exclusive autoDelete args) w
          (.checked (w.okPtr self.channel_.handle self.channel_.channel_)
            (self.channel_.verdict self.context_ (w.replied self.channel_.handle))) := by
        refine Reports.withArguments ?_
        exact reports_sync rfl
      exact h.value Value.ok
  | bind exchange routingKey args =>
      have h : Reports .queueBind self.channel_ self.name_ (self.bind exchange routingKey args) w
          (.checked ()
            (self.channel_.verdict self.context_ (w.replied self.channel_.handle))) :=
        reports_binding rfl
      exact h.value (fun _ => Value.unit)
  | unbind exchange routingKey args =>
      have h : Reports .queueUnbind self.channel_ self.name_
          (self.unbind exchange routingKey args) w
          (.checked ()
            (self.channel_.verdict self.context_ (w.replied self.channel_.handle))) :=
        reports_binding rfl
      exact h.value (fun _ => Value.unit)
  | consume consumerTag noLocal noAck exclusive args =>
      have h : Reports .basicConsume self.channel_ self.name_
          (self.consume consumerTag noLocal noAck exclusive args) w
          (.checked (w.found self.channel_.handle self.channel_.channel_).consumerTag.data
            (self.channel_.verdict self.context_ (w.replied self.channel_.handle))) := by
        refine Reports.withArguments ?_
        exact reports_tag rfl
      exact h.value Value.text
  | remove ifUnused ifEmpty =>
      have h : Reports .queueDelete self.channel_ self.name_ (self.remove ifUnused ifEmpty) w
          (.checked (w.found self.channel_.handle self.channel_.channel_).messageCount
            (self.channel_.verdict self.context_ (w.replied self.channel_.handle))) :=
        reports_field rfl
      exact h.value Value.count
  | purge =>
      have h : Reports .queuePurge self.channel_ self.name_ self.purge w
          (.checked (w.found self.channel_.handle self.channel_.channel_).messageCount
            (self.channel_.verdict self.context_ (w.replied self.channel_.handle))) :=
        reports_field rfl
      exact h.value Value.count
  | rpc r =>
      have h : Reports r.function self.channel_ self.name_
          (self.channel_.rpcWith self.context_
            (fun c channel => r.code [.bytes self.name_] c channel)) w _ :=
        reports_request
      exact h

/-- The same through `Exchange::rpc`: an exception does not get out of it. -/
theorem exchange_binding {channel : Channel} {name context : String} {f : CFunction}
    {args : List TableEntry} {w : World}
    {call : RawTable → Handle → ChannelId → Code World Exc OkPtr} {rest : List Arg}
    (hcall : (call (Table.make args w.mem).1.toRaw channel.handle channel.channel_).run
        (w.withTable args) =
      (.ret (w.okPtr channel.handle channel.channel_),
        (w.withTable args).afterSync channel.handle f channel.channel_ (.bytes name :: rest))) :
    Reports f channel name
      (withArguments args fun t => do
        let _ ← noexcept_ (channel.rpcWith context (call t))
        pure ()) w
      (Outcome.checked () (channel.verdict context (w.replied channel.handle))).sealed := by
  have h : Reports f channel name (channel.rpcWith context (call (Table.make args w.mem).1.toRaw))
      (w.withTable args) _ := reports_sync hcall
  have hdrop := h.sealed.drop
  rw [Outcome.map_sealed, Outcome.map_checked] at hdrop
  exact Reports.withArguments hdrop

/-- An exchange operation has that end as seen from outside a `noexcept` function. -/
theorem exchangeOp_sealed (self : Exchange) (op : ExchangeOp) (w : World) :
    let named : NamedOp := .exchange self op
    Reports named.function named.channel named.name named.code w
      (Outcome.checked (named.result w)
        (named.channel.verdict named.context (named.reply w))).sealed := by
  have hunit {f : CFunction} {c : Code World Exc Unit}
      (h : Reports f self.channel_ self.name_ c w (Outcome.checked ()
        (self.channel_.verdict self.context_ (w.replied self.channel_.handle))).sealed) :
      Reports f self.channel_ self.name_ ((fun _ => Value.unit) <$> c) w
        (Outcome.checked Value.unit
          (self.channel_.verdict self.context_ (w.replied self.channel_.handle))).sealed := by
    have hmap := h.map (fun _ => Value.unit)
    rwa [Outcome.map_sealed, Outcome.map_checked] at hmap
  cases op with
  | declare type passive durable autoDelete args => exact hunit (exchange_binding rfl)
  | bind src routingKey args => exact hunit (exchange_binding rfl)
  | unbind src routingKey args => exact hunit (exchange_binding rfl)
  | remove ifUnused =>
      have h : Reports .exchangeDelete self.channel_ self.name_
          (self.channel_.rpcWith self.context_
            (fun c channel => amqpExchangeDelete c channel self.name_ ifUnused)) w _ :=
        reports_sync rfl
      have hdrop := h.sealed.drop
      rw [Outcome.map_sealed, Outcome.map_checked] at hdrop
      exact hunit hdrop
  | rpc r =>
      have h : Reports r.function self.channel_ self.name_
          (self.channel_.rpcWith self.context_
            (fun c channel => r.code [.bytes self.name_] c channel)) w _ :=
        reports_request
      exact h.sealed

/-- The operation is one of a queue, or its reply is normal. -/
def NamedOp.QueueOrNormal (op : NamedOp) (w : World) : Prop :=
  match op with
  | .queue _ _ => True
  | .exchange _ _ => (op.reply w).replyType = .normal

theorem reports_iff_queue_or_normal (op : NamedOp) (w : World) :
    ReportsAsChannel op w ↔ op.QueueOrNormal w := by
  cases op with
  | queue self op => exact iff_of_true (queueOp_reports self op w) trivial
  | exchange self op =>
      have hsealed := exchangeOp_sealed self op w
      rw [NamedOp.QueueOrNormal, ← self.channel_.verdict_ok_iff self.context_,
        ← Outcome.sealed_checked_eq_iff]
      constructor
      · intro h
        exact hsealed.2.symm.trans h.2
      · intro h
        exact ⟨hsealed.1, hsealed.2.trans h⟩

end Reports

/-! ## An exchange that can not be declared -/

/-- Every synchronous RPC is answered by closing the channel. -/
@[reducible] def brokerRefuses : Library :=
  { allSucceed with
    sync := fun _ =>
      { reply := ⟨.serverException, 1, some (.channelClose ⟨406, "PRECONDITION_FAILED"⟩), .ok⟩
        ok := ⟨"", 0, false⟩
        arrivals := [] } }

/-- The program ends where `Channel::rpc` throws a `ChannelCloseException`. -/
theorem exchange_declare_terminates :
    ¬ @ReportsAsChannel brokerRefuses
      (.exchange ⟨⟨⟨some 1, "Connection(1): "⟩, 1, "Channel(1): ", false⟩, "e", "Exchange(e): "⟩
        (.declare "direct" false true false [])) World.initial := by
  intro h
  exact nomatch h.2

end RmqCxx
