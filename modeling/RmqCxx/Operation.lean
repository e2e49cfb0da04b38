/-
# `RmqCxx.Operation` — runs of channel, queue and exchange operations

An application is a sequence of operations on objects, each with the arguments
it passes; what an operation throws is caught and the run continues, and a run
ends when the program is terminated.  Every operation asks the library for one
answer, examines one reply and releases the buffers of one channel
(`Effect`): this is what later operations can see of it.
-/
import RmqCxx.Rpc
import RmqCxx.Cpp.Runs

namespace RmqCxx

open Cpp Code

/-- What operations return. -/
inductive Value where
  | unit
  | status (s : Status)
  | flag (b : Bool)
  | count (n : UInt32)
  | text (s : String)
  | ok (p : OkPtr)
  | channel (c : Channel)
  deriving DecidableEq, Repr

/-- A C function given to one of the generic `rpc`s, with the arguments that
follow those the object supplies. -/
structure Request where
  function : CFunction
  synchronous : Bool
  args : List Arg

inductive ChannelOp where
  | ack (tag : UInt64) (multiple : Bool)
  | nack (tag : UInt64) (multiple requeue : Bool)
  | qos (prefetchCount : UInt16) (perChannel : Bool) (prefetchSize : UInt32)
  | flow (active : Bool)
  | recover (requeue : Bool)
  | publish (exchange routingKey : String) (mandatory immediate : Bool) (body : String)
      (properties : List String)
  | rpc (r : Request)

inductive QueueOp where
  | declare (passive durable exclusive autoDelete : Bool) (args : List TableEntry)
  | bind (exchange routingKey : String) (args : List TableEntry)
  | unbind (exchange routingKey : String) (args : List TableEntry)
  | consume (consumerTag : String) (noLocal noAck exclusive : Bool) (args : List TableEntry)
  | remove (ifUnused ifEmpty : Bool)
  | purge
  | rpc (r : Request)

inductive ExchangeOp where
  | declare (type : String) (passive durable autoDelete : Bool) (args : List TableEntry)
  | bind (src routingKey : String) (args : List TableEntry)
  | unbind (src routingKey : String) (args : List TableEntry)
  | remove (ifUnused : Bool)
  | rpc (r : Request)

/-- An operation on an object; `construct` and `destruct` are a channel's. -/
inductive Operation where
  | construct (connection : Connection) (id : ChannelId)
  | destruct (self : Channel)
  | channel (self : Channel) (op : ChannelOp)
  | queue (self : Queue) (op : QueueOp)
  | exchange (self : Exchange) (op : ExchangeOp)

section Code

variable [Library]

/-- The call a generic `rpc` makes, with `first` in front of the arguments. -/
def Request.code (r : Request) (first : List Arg) (c : Handle) (channel : ChannelId) :
    Code World Exc Value :=
  if r.synchronous then .ok <$> amqpSync r.function c channel (first ++ r.args)
  else .status <$> amqpAsync r.function c channel (first ++ r.args)

def ChannelOp.code (self : Channel) : ChannelOp → Code World Exc Value
  | .ack tag multiple => .status <$> self.ack tag multiple
  | .nack tag multiple requeue => .status <$> self.nack tag multiple requeue
  | .qos prefetchCount perChannel prefetchSize =>
      (fun _ => .unit) <$> self.qos prefetchCount perChannel prefetchSize
  | .flow active => .flag <$> self.flow active
  | .recover requeue => (fun _ => .unit) <$> self.recover requeue
  | .publish exchange routingKey mandatory immediate body properties =>
      (fun _ => .unit) <$> self.publish exchange routingKey mandatory immediate body properties
  | .rpc r => self.rpc (r.code [])

def QueueOp.code (self : Queue) : QueueOp → Code World Exc Value
  | .declare passive durable exclusive autoDelete args =>
      .ok <$> self.declare passive durable exclusive autoDelete args
  | .bind exchange routingKey args => (fun _ => .unit) <$> self.bind exchange routingKey args
  | .unbind exchange routingKey args => (fun _ => .unit) <$> self.unbind exchange routingKey args
  | .consume consumerTag noLocal noAck exclusive args =>
      .text <$> self.consume consumerTag noLocal noAck exclusive args
  | .remove ifUnused ifEmpty => .count <$> self.remove ifUnused ifEmpty
  | .purge => .count <$> self.purge
  | .rpc r => self.rpc (fun c channel name => r.code [.bytes name] c channel)

def ExchangeOp.code (self : Exchange) : ExchangeOp → Code World Exc Value
  | .declare type passive durable autoDelete args =>
      (fun _ => .unit) <$> self.declare type passive durable autoDelete args
  | .bind src routingKey args => (fun _ => .unit) <$> self.bind src routingKey args
  | .unbind src routingKey args => (fun _ => .unit) <$> self.unbind src routingKey args
  | .remove ifUnused => (fun _ => .unit) <$> self.remove ifUnused
  | .rpc r => self.rpc (fun c channel name => r.code [.bytes name] c channel)

def Operation.code : Operation → Code World Exc Value
  | .construct connection id => .channel <$> Channel.make connection id
  | .destruct self => (fun _ => .unit) <$> self.destroy
  | .channel self op => op.code self
  | .queue self op => op.code self
  | .exchange self op => op.code self

/-- What the two kinds of requests do. -/
theorem Request.code_of_sync {r : Request} (hs : r.synchronous = true) (first : List Arg)
    (c : Handle) (channel : ChannelId) (w : World) :
    (r.code first c channel).run w =
      (.ret (.ok (w.okPtr c channel)), w.afterSync c r.function channel (first ++ r.args)) := by
  rw [Request.code, if_pos hs]
  rfl

theorem Request.code_of_async {r : Request} (hs : r.synchronous = false) (first : List Arg)
    (c : Handle) (channel : ChannelId) (w : World) :
    (r.code first c channel).run w =
      (.ret (.status (Library.async w.calls).status),
        w.afterAsync c r.function channel (first ++ r.args)) := by
  rw [Request.code, if_neg (Bool.eq_false_iff.mp hs)]
  rfl

/-- The operation with its exceptions caught; `none` when it ends the program. -/
def Operation.step (op : Operation) (w : World) : Option World :=
  match op.code.run w with
  | (.terminate, _) => none
  | (_, w') => some w'

end Code
end RmqCxx
