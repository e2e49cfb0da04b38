/-
# `RmqCxx.Isolation` — outcomes of publish, ack and nack

`publish`, `ack` and `nack` only send, and the library has no reply for them;
yet `Channel::rpc` examines the reply on record, which is that of the most
recent synchronous RPC on the connection, whichever object made it.  So the
outcome of an asynchronous operation is its own exactly when that RPC was
answered normally, and after a caught failure every further `publish` throws the
old failure again.
-/
import RmqCxx.Operation

namespace RmqCxx

open Cpp Code

section Isolation

variable [Library]

/-- The outcome is determined by the status of the operation's own C call. -/
def OutcomeIsOwn (op : Operation) (w : World) : Prop :=
  let status := (Library.async w.calls).status
  match op with
  | .channel self (.publish exchange routingKey mandatory immediate body properties) =>
      ((self.publish exchange routingKey mandatory immediate body properties).run w).1 =
        if status = .ok then .ret ()
        else .thrown (self.publishFailure exchange routingKey mandatory immediate body)
  | .channel self (.ack tag multiple) => ((self.ack tag multiple).run w).1 = .ret status
  | .channel self (.nack tag multiple requeue) =>
      ((self.nack tag multiple requeue).run w).1 = .ret status
  | _ => True

/-- An asynchronous operation finds a normal reply on record. -/
def RecordIsNormal (op : Operation) (w : World) : Prop :=
  match op with
  | .channel self (.publish _ _ _ _ _ _) | .channel self (.ack _ _)
  | .channel self (.nack _ _ _) =>
      (w.conns self.connection_.connection_).lastReply.replyType = .normal
  | _ => True

/-- The status of an asynchronous call comes out of `Channel::rpc` if and only if
the reply on record is normal. -/
theorem Channel.rpc_async_ret_iff {self : Channel} {f : CFunction} {args : List Arg}
    {w : World} :
    ((self.rpc (fun c channel => amqpAsync f c channel args)).run w).1 =
        .ret (Library.async w.calls).status ↔
      (w.conns self.handle).lastReply.replyType = .normal := by
  rw [Channel.rpc, Channel.rpcWith_async rfl, ← Channel.verdict_ok_iff self self.context_]
  cases hv : self.verdict self.context_ (w.conns self.handle).lastReply with
  | ok _ => exact iff_of_true rfl rfl
  | error e => exact iff_of_false (fun h => nomatch h) (fun h => nomatch h)

/-- `publish` has the outcome its status calls for if and only if the reply on
record is normal: what `processReply` throws is never a `ChannelException`. -/
theorem publish_own_iff {self : Channel} {exchange routingKey body : String}
    {mandatory immediate : Bool} {properties : List String} {w : World} :
    ((self.publish exchange routingKey mandatory immediate body properties).run w).1 =
        (if (Library.async w.calls).status = .ok then .ret ()
          else .thrown (self.publishFailure exchange routingKey mandatory immediate body)) ↔
      (w.conns self.handle).lastReply.replyType = .normal := by
  have hrpc : (self.rpc (amqpBasicPublish · · exchange routingKey mandatory immediate
      properties body)).run w = _ := Channel.rpcWith_async rfl
  rw [← Channel.verdict_ok_iff self self.context_]
  cases hv : self.verdict self.context_ (w.conns self.handle).lastReply with
  | ok _ =>
      rw [hv] at hrpc
      refine iff_of_true ?_ rfl
      rw [Channel.publish, bind_of_ret hrpc]
      cases (Library.async w.calls).status <;> rfl
  | error e =>
      rw [hv] at hrpc
      refine iff_of_false (fun h => ?_) (fun h => nomatch h)
      rw [Channel.publish, bind_of_thrown hrpc] at h
      split at h
      · cases h
      · obtain rfl : e = _ := Outcome.thrown.inj h
        rcases processReply_error hv with ⟨_, h⟩ | ⟨_, h⟩ | ⟨_, h⟩ | ⟨_, h⟩ <;> cases h

/-- One operation. -/
theorem outcomeIsOwn_iff (op : Operation) (w : World) :
    OutcomeIsOwn op w ↔ RecordIsNormal op w := by
  cases op with
  | channel self op =>
    cases op with
    | publish => exact publish_own_iff
    | ack => exact Channel.rpc_async_ret_iff
    | nack => exact Channel.rpc_async_ret_iff
    | qos | flow | recover | rpc => exact Iff.rfl
  | construct | destruct | queue | exchange => exact Iff.rfl

/-- In a run, caught failures included, all asynchronous operations have outcomes
of their own if and only if each finds a normal reply on record. -/
theorem outcomes_own_iff_records_normal (ops : List Operation) (w : World) :
    Along Operation.step OutcomeIsOwn w ops ↔ Along Operation.step RecordIsNormal w ops :=
  along_congr (I := fun _ => True) (fun _ _ => trivial) (fun _ => outcomeIsOwn_iff _ _) trivial

end Isolation

/-! ## A declare that failed, then a publish -/

/-- The second synchronous RPC is answered by closing the channel. -/
@[reducible] def declareFails : Library :=
  { allSucceed with
    sync := fun n =>
      { reply :=
          if n = 1 then
            ⟨.serverException, 1, some (.channelClose ⟨406, "PRECONDITION_FAILED"⟩), .ok⟩
          else .normal
        ok := ⟨"", 0, false⟩
        arrivals := [] } }

/-- A channel is opened, a queue is declared on it and the failure is caught, and
a message is published: the C call succeeds and `publish` throws. -/
theorem publish_throws_failure_of_declare :
    ¬ Along (@Operation.step declareFails) (@OutcomeIsOwn declareFails) World.initial
      [.construct ⟨some 1, "Connection(1): "⟩ 1,
        .queue ⟨⟨⟨some 1, "Connection(1): "⟩, 1, "Channel(1): ", false⟩, "q", "Queue(q): "⟩
          (.declare false true false false []),
        .channel ⟨⟨some 1, "Connection(1): "⟩, 1, "Channel(1): ", false⟩
          (.publish "" "q" false false "body" [])] := by
  intro h
  have hpublish := (((h _ rfl).2 _ rfl).2 _ rfl).1
  cases hpublish

end RmqCxx
