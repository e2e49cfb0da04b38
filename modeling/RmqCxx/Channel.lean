/-
# `RmqCxx.Channel` — Channel, Queue and Exchange

Every operation of the three classes is one call of `Channel::rpc` with a C
function: `Channel::rpc` releases the channel's buffers when its scope is left,
around `Connection::rpc`, which examines the reply.  `Queue` and `Exchange` put
their name in front of the arguments.
-/
import RmqCxx.Connection

namespace RmqCxx

open Cpp Code

variable [Library] {α : Type}

/-! ## Channel -/

/-- `class Channel`; `connection_` is the connection it refers to. -/
structure Channel where
  connection_ : Connection
  channel_ : ChannelId
  context_ : String
  moved_ : Bool
  deriving DecidableEq, Repr

namespace Channel

/-- `Channel(connection, channel)`. -/
def make (connection : Connection) (channel : ChannelId) : Code World Exc Channel := do
  let self : Channel :=
    ⟨connection, channel, "Channel(" ++ toString channel.toNat ++ "): ", false⟩
  let _ ← self.connection_.rpcWith true self.context_ (amqpChannelOpen · self.channel_)
  pure self

/-- `~Channel()`. -/
def destroy (self : Channel) : Code World Exc Unit :=
  noexcept_ <|
    if self.moved_ then pure ()
    else
      tryCatch
        (do
          let _ ← self.connection_.rpc (amqpChannelClose · self.channel_ amqpReplySuccess)
          pure ())
        (fun _ => pure ())

/-- `Channel(Channel&& other)`: the new object, and what is left of `other`. -/
def moveConstruct (other : Channel) : Channel × Channel :=
  (⟨other.connection_, other.channel_, other.context_, false⟩, { other with moved_ := true })

/-- `rpc(context, f, args...)`, the private one; `f` is the function with its
arguments after the channel. -/
def rpcWith (self : Channel) (context : String) (f : Handle → ChannelId → Code World Exc α) :
    Code World Exc α :=
  defer (amqpMaybeReleaseBuffersOnChannel self.connection_.connection_ self.channel_) <|
    self.connection_.rpcWith false (self.context_ ++ context) (fun c => f c self.channel_)

/-- `rpc(f, args...)`, the public one. -/
def rpc (self : Channel) (f : Handle → ChannelId → Code World Exc α) : Code World Exc α :=
  self.rpcWith self.context_ f

def ack (self : Channel) (tag : UInt64) (multiple : Bool) : Code World Exc Status :=
  self.rpc (amqpBasicAck · · tag multiple)

def nack (self : Channel) (tag : UInt64) (multiple requeue : Bool) : Code World Exc Status :=
  self.rpc (amqpBasicNack · · tag multiple requeue)

def qos (self : Channel) (prefetchCount : UInt16) (perChannel : Bool) (prefetchSize : UInt32) :
    Code World Exc Unit := do
  let _ ← self.rpc (amqpBasicQos · · prefetchSize prefetchCount perChannel)
  pure ()

def flow (self : Channel) (active : Bool) : Code World Exc Bool := do
  let ok ← self.rpc (amqpChannelFlow · · active)
  let ok ← ok.load
  pure ok.active

def recover (self : Channel) (requeue : Bool) : Code World Exc Unit := do
  let _ ← self.rpc (amqpBasicRecover · · requeue)
  pure ()

/-- The text of the exception that `publish` throws. -/
def publishFailure (self : Channel) (exchange routingKey : String) (mandatory immediate : Bool)
    (body : String) : Exc :=
  .channel self.channel_ <|
    self.context_ ++ "Failed to publish message to exchange: " ++ exchange
      ++ " with routingKey: " ++ routingKey
      ++ " mandatory: " ++ (if mandatory then "true" else "false")
      ++ " immediate: " ++ (if immediate then "true" else "false")
      ++ " properties: " ++ "<not serialized>"
      ++ " body: " ++ body

def publish (self : Channel) (exchange routingKey : String) (mandatory immediate : Bool)
    (body : String) (properties : List String) : Code World Exc Unit := do
  let status ←
    self.rpc (amqpBasicPublish · · exchange routingKey mandatory immediate properties body)
  match status with
  | .ok => pure ()
  | _ => throw (self.publishFailure exchange routingKey mandatory immediate body)

end Channel

/-! ## Queue -/

/-- `Table arguments(args...)` as a local of `scope`. -/
def withArguments (args : List TableEntry) (scope : RawTable → Code World Exc α) :
    Code World Exc α := do
  let w ← get
  let (arguments, mem) := Table.make args w.mem
  modify (fun w => { w with mem := mem })
  scopeExit (modify (fun w => { w with mem := w.mem.free arguments.cache_.data }))
    (scope arguments.toRaw)

/-- `class Queue`. -/
structure Queue where
  channel_ : Channel
  name_ : String
  context_ : String
  deriving DecidableEq, Repr

namespace Queue

/-- `Queue(channel, name)`. -/
def make (channel : Channel) (name : String) : Queue :=
  ⟨channel, name, "Queue(" ++ name ++ "): "⟩

/-- `rpc(f, args...)`; `f` is the function with its arguments after the name. -/
def rpc (self : Queue) (f : Handle → ChannelId → String → Code World Exc α) :
    Code World Exc α :=
  self.channel_.rpcWith self.context_ (fun c channel => f c channel self.name_)

def declare (self : Queue) (passive durable exclusive autoDelete : Bool)
    (args : List TableEntry) : Code World Exc OkPtr :=
  withArguments args fun arguments =>
    self.rpc (amqpQueueDeclare · · · passive durable exclusive autoDelete arguments)

def bind (self : Queue) (exchange routingKey : String) (args : List TableEntry) :
    Code World Exc Unit :=
  withArguments args fun arguments => do
    let _ ← self.rpc (amqpQueueBinding · · .queueBind · exchange routingKey arguments)
    pure ()

def unbind (self : Queue) (exchange routingKey : String) (args : List TableEntry) :
    Code World Exc Unit :=
  withArguments args fun arguments => do
    let _ ← self.rpc (amqpQueueBinding · · .queueUnbind · exchange routingKey arguments)
    pure ()

def consume (self : Queue) (consumerTag : String) (noLocal noAck exclusive : Bool)
    (args : List TableEntry) : Code World Exc String :=
  withArguments args fun arguments => do
    let ok ← self.rpc (amqpBasicConsume · · · consumerTag noLocal noAck exclusive arguments)
    let ok ← ok.load
    containerString ok.consumerTag

def remove (self : Queue) (ifUnused ifEmpty : Bool) : Code World Exc UInt32 := do
  let ok ← self.rpc (amqpQueueDelete · · · ifUnused ifEmpty)
  let ok ← ok.load
  pure ok.messageCount

def purge (self : Queue) : Code World Exc UInt32 := do
  let ok ← self.rpc amqpQueuePurge
  let ok ← ok.load
  pure ok.messageCount

end Queue

/-! ## Exchange -/

/-- `class Exchange`; its `moved_` is never read. -/
structure Exchange where
  channel_ : Channel
  name_ : String
  context_ : String
  deriving DecidableEq, Repr

namespace Exchange

/-- `Exchange(channel, name)`. -/
def make (channel : Channel) (name : String) : Exchange :=
  ⟨channel, name, "Exchange(" ++ name ++ "): "⟩

/-- `rpc(f, args...)`, which is declared `noexcept`. -/
def rpc (self : Exchange) (f : Handle → ChannelId → String → Code World Exc α) :
    Code World Exc α :=
  noexcept_ (self.channel_.rpcWith self.context_ (fun c channel => f c channel self.name_))

def declare (self : Exchange) (type : String) (passive durable autoDelete : Bool)
    (args : List TableEntry) : Code World Exc Unit :=
  withArguments args fun arguments => do
    let _ ← self.rpc (amqpExchangeDeclare · · · type passive durable autoDelete false arguments)
    pure ()

def bind (self : Exchange) (src routingKey : String) (args : List TableEntry) :
    Code World Exc Unit :=
  withArguments args fun arguments => do
    let _ ← self.rpc (amqpExchangeBinding · · .exchangeBind · src routingKey arguments)
    pure ()

def unbind (self : Exchange) (src routingKey : String) (args : List TableEntry) :
    Code World Exc Unit :=
  withArguments args fun arguments => do
    let _ ← self.rpc (amqpExchangeBinding · · .exchangeUnbind · src routingKey arguments)
    pure ()

def remove (self : Exchange) (ifUnused : Bool) : Code World Exc Unit := do
  let _ ← self.rpc (amqpExchangeDelete · · · ifUnused)
  pure ()

end Exchange
end RmqCxx
