/-
# `RmqCxx.Library` — the C library as the wrapper meets it

rabbitmq-c is not part of the repository.  Its answers are a parameter
(`Library`): the `n`-th answer of a run, whichever function is asked for it, can
be anything the function may answer.  What the answers do to the library's
state is fixed, and it is all the wrapper relies on:

* a synchronous method records its reply, and `amqp_get_rpc_reply` returns the
  reply recorded last; the other functions leave the record alone;
* decoded methods and the structures that synchronous methods return live in the
  decoding pool of a channel; frames that arrive for other readers are queued;
* `amqp_maybe_release_buffers_on_channel` recycles the pool of a channel for
  which no frame is queued, `amqp_maybe_release_buffers` all such pools;
* messages and envelopes own their byte strings until they are destroyed.

Every call is logged with its arguments as the callee finds them.  Two kinds of
entries of the log are not calls: a read through a pointer into a pool, and the
end of the life of an object that was handed out, both with whether the memory
was still there.
-/
import RmqCxx.Cpp.Code
import RmqCxx.AMQPStruct
import RmqCxx.Chrono
import RmqCxx.FieldValue

namespace RmqCxx

open Cpp

/-! ## Answers -/

/-- The contents of an `amqp_rpc_reply_t`; `channel` is where its method came in. -/
structure ReplyContents where
  replyType : ResponseType
  channel : ChannelId
  decoded : Option (Decoded String)
  libraryError : Status
  deriving DecidableEq, Repr

structure MessageContents where
  properties : List String
  body : String
  deriving DecidableEq, Repr

structure EnvelopeContents where
  channel : ChannelId
  consumerTag : String
  deliveryTag : UInt64
  redelivered : Bool
  exchange : String
  routingKey : String
  message : MessageContents
  deriving DecidableEq, Repr

inductive PayloadContents where
  | method (decoded : Decoded String)
  | other (frameType : UInt8)
  deriving DecidableEq, Repr

/-- The answer to a synchronous method, and the channels of the frames that were
queued while waiting for it. -/
structure SyncAnswer where
  reply : ReplyContents
  ok : OkMethod String
  arrivals : List ChannelId

structure AsyncAnswer where
  status : Status
  arrivals : List ChannelId

/-- The answers of the functions that take frames off the connection; `queued`
is the frame queue they leave. -/
structure ConsumeAnswer where
  reply : ReplyContents
  envelope : EnvelopeContents
  queued : List ChannelId

structure WaitAnswer where
  status : Status
  channel : ChannelId
  payload : PayloadContents
  queued : List ChannelId

structure ReadAnswer where
  reply : ReplyContents
  message : MessageContents
  queued : List ChannelId

/-- The library, the network and the clock: texts, and the answers of a run by
their number. -/
class Library where
  methodName : MethodId → String
  errorString2 : Status → String
  statusCode : Status → Int
  newConnection : Nat → Bool
  tcpSocketNew : Nat → Bool
  socketOpenNoblock : Nat → Status
  setHandshakeTimeout : Nat → Status
  login : Nat → ReplyContents
  sync : Nat → SyncAnswer
  async : Nat → AsyncAnswer
  consumeMessage : Nat → ConsumeAnswer
  simpleWaitFrameNoblock : Nat → WaitAnswer
  readMessage : Nat → ReadAnswer
  now : Nat → ClockDuration
  /-- What is found in memory that was recycled. -/
  stale : OkMethod Bytes

def ReplyContents.normal : ReplyContents := ⟨.normal, 0, none, .ok⟩

/-- A library that never fails and has nothing to deliver. -/
@[reducible] def allSucceed : Library where
  methodName _ := ""
  errorString2 _ := ""
  statusCode _ := 0
  newConnection _ := true
  tcpSocketNew _ := true
  socketOpenNoblock _ := .ok
  setHandshakeTimeout _ := .ok
  login _ := .normal
  sync _ := ⟨.normal, ⟨"", 0, false⟩, []⟩
  async _ := ⟨.ok, []⟩
  consumeMessage _ := ⟨⟨.libraryException, 0, none, .timeout⟩, ⟨0, "", 0, false, "", "", ⟨[], ""⟩⟩, []⟩
  simpleWaitFrameNoblock _ := ⟨.timeout, 0, .other 0, []⟩
  readMessage _ := ⟨.normal, ⟨[], ""⟩, []⟩
  now _ := ⟨0⟩
  stale := ⟨⟨"", .own 0⟩, 0, false⟩

/-- A message comes back on channel 1, and no other frame is queued. -/
@[reducible] def returnsMessage : Library :=
  { allSucceed with
    consumeMessage := fun _ =>
      ⟨⟨.libraryException, 0, none, .unexpectedState⟩, ⟨0, "", 0, false, "", "", ⟨[], ""⟩⟩, []⟩
    simpleWaitFrameNoblock := fun _ =>
      ⟨.ok, 1, .method (.basicReturn ⟨312, "NO_ROUTE", "e", "r"⟩), []⟩
    readMessage := fun _ => ⟨.normal, ⟨[], "body"⟩, []⟩ }

/-! ## The log -/

/-- The C functions that are logged by name. -/
inductive CFunction where
  | socketOpenNoblock | setHandshakeTimeout | login | loginWithProperties
  | connectionClose | destroyConnection
  | getRpcReply | maybeReleaseBuffers | maybeReleaseBuffersOnChannel
  | channelOpen | channelClose | channelFlow
  | basicAck | basicNack | basicQos | basicRecover | basicPublish | basicConsume
  | queueDeclare | queueBind | queueUnbind | queueDelete | queuePurge
  | exchangeDeclare | exchangeBind | exchangeUnbind | exchangeDelete
  | consumeMessage | simpleWaitFrameNoblock | readMessage
  deriving DecidableEq, Repr

/-- An argument after the handle, as the callee finds it. -/
inductive Arg where
  | channel (c : ChannelId)
  | bytes (s : String)
  | flag (b : Bool)
  | num (n : Int)
  | sasl (m : SaslMethod)
  | timeval (tv : Option Timeval)
  | properties (p : List String)
  | table (contents : Option (List (ByteString × AmqpValue)))

inductive Event where
  /-- `amqp_new_connection` and what it returned. -/
  | newConnection (h : Handle)
  /-- `amqp_tcp_socket_new`, and whether there is a socket. -/
  | tcpSocketNew (h : Handle) (created : Bool)
  | call (f : CFunction) (h : Handle) (args : List Arg)
  | destroyEnvelope (ident : Nat)
  | destroyMessage (ident : Nat)
  /-- A read through a pointer into a pool. -/
  | deref (ref : PoolRef) (live : Bool)
  /-- The end of an object, with whether all it gives access to is still there. -/
  | lifeEnds (intact : Bool)

/-! ## The state -/

/-- What the library keeps for one connection. -/
structure ConnState where
  lastReply : RpcReply
  queued : List ChannelId
  recycled : ChannelId → Nat

/-- An object that a callback moved into longer-lived storage. -/
inductive Kept where
  | envelope (e : Envelope)
  | returned (r : ReturnedMessage)
  deriving DecidableEq, Repr

structure World where
  log : List Event
  /-- The number of answers given. -/
  calls : Nat
  conns : Handle → ConnState
  nextHandle : Nat
  nextIdent : Nat
  /-- The structures, by identity, whose own memory was freed. -/
  freed : Nat → Bool
  mem : Memory
  kept : List Kept

namespace ConnState

/-- A place in the pool of `channel`, as of now. -/
def ref (c : ConnState) (h : Handle) (channel : ChannelId) : PoolRef :=
  ⟨h, channel, c.recycled channel⟩

/-- A decoded method put into the pool of `channel`. -/
def place (c : ConnState) (h : Handle) (channel : ChannelId) (d : Decoded String) : Method :=
  ⟨d.map (⟨·, .pool (c.ref h channel)⟩), c.ref h channel⟩

/-- A reply with its method, if it has one, put into the pool. -/
def placeReply (c : ConnState) (h : Handle) (r : ReplyContents) : RpcReply :=
  ⟨r.replyType, r.decoded.map (c.place h r.channel), r.libraryError⟩

/-- A frame, its method decoded into the pool of its channel. -/
def placeFrame (c : ConnState) (h : Handle) (channel : ChannelId) : PayloadContents → Frame
  | .method d => ⟨channel, .method (c.place h channel d)⟩
  | .other t => ⟨channel, .other t⟩

/-- Recycles the pool of every channel in `which` that has no queued frame. -/
def recycle (c : ConnState) (which : ChannelId → Bool) : ConnState :=
  { c with recycled := fun ch =>
      if which ch ∧ ch ∉ c.queued then c.recycled ch + 1 else c.recycled ch }

end ConnState

/-- The message in memory of the structure `ident`. -/
def MessageContents.fill (m : MessageContents) (ident : Nat) : AmqpMessage :=
  ⟨ident, m.properties.map (⟨·, .own ident⟩), ⟨m.body, .own ident⟩⟩

/-- The envelope in memory of the structure `ident`. -/
def EnvelopeContents.fill (e : EnvelopeContents) (ident : Nat) : AmqpEnvelope where
  ident := ident
  channel := e.channel
  consumerTag := ⟨e.consumerTag, .own ident⟩
  deliveryTag := e.deliveryTag
  redelivered := e.redelivered
  exchange := ⟨e.exchange, .own ident⟩
  routingKey := ⟨e.routingKey, .own ident⟩
  message := e.message.fill ident

namespace World

/-- Before anything happened. -/
def initial : World where
  log := []
  calls := 0
  conns _ := ⟨⟨.normal, none, .ok⟩, [], fun _ => 0⟩
  nextHandle := 1
  nextIdent := 0
  freed _ := false
  mem := .empty
  kept := []

/-- The world with one more entry in the log. -/
def tell (w : World) (e : Event) : World := { w with log := w.log ++ [e] }

/-- The world after one more answer. -/
def tick (w : World) : World := { w with calls := w.calls + 1 }

/-- The world with the library's state of `h` changed. -/
def setConn (w : World) (h : Handle) (c : ConnState) : World :=
  { w with conns := fun h' => if h' = h then c else w.conns h' }

/-- Whether a pool was not recycled since. -/
def poolAlive (w : World) (ref : PoolRef) : Bool :=
  decide ((w.conns ref.handle).recycled ref.channel = ref.generation)

/-- Whether memory is still there. -/
def alive (w : World) : Region → Bool
  | .pool ref => w.poolAlive ref
  | .own ident => !w.freed ident

def intact (w : World) (strings : List Bytes) : Bool := strings.all (fun b => w.alive b.mem)

end World

/-! ## The functions -/

section Functions

variable {ε : Type} [Library]

open Code

/-- `high_resolution_clock::now()`. -/
def clockNow : Code World ε ClockDuration :=
  ⟨fun w => (.ret (Library.now w.calls), w.tick)⟩

/-- `amqp_new_connection`. -/
def amqpNewConnection : Code World ε Handle :=
  ⟨fun w =>
    if Library.newConnection w.calls then
      let h : Handle := some w.nextHandle
      (.ret h, { w.tick.tell (.newConnection h) with nextHandle := w.nextHandle + 1 })
    else (.ret none, w.tick.tell (.newConnection none))⟩

/-- `amqp_tcp_socket_new`; the answer says whether it is not null. -/
def amqpTcpSocketNew (state : Handle) : Code World ε Bool :=
  ⟨fun w =>
    let created := Library.tcpSocketNew w.calls
    (.ret created, w.tick.tell (.tcpSocketNew state created))⟩

/-- `amqp_socket_open_noblock`, on the socket of `state`. -/
def amqpSocketOpenNoblock (state : Handle) (host : String) (port : Int) (tv : Timeval) :
    Code World ε Status :=
  ⟨fun w => (.ret (Library.socketOpenNoblock w.calls),
    w.tick.tell (.call .socketOpenNoblock state [.bytes host, .num port, .timeval (some tv)]))⟩

def amqpSetHandshakeTimeout (state : Handle) (tv : Timeval) : Code World ε Status :=
  ⟨fun w => (.ret (Library.setHandshakeTimeout w.calls),
    w.tick.tell (.call .setHandshakeTimeout state [.timeval (some tv)]))⟩

/-- `amqp_login` and `amqp_login_with_properties`. -/
def amqpLogin (f : CFunction) (state : Handle) (args : List Arg) : Code World ε RpcReply :=
  ⟨fun w =>
    let reply := (w.conns state).placeReply state (Library.login w.calls)
    (.ret reply, (w.tick.tell (.call f state args)).setConn state
      { w.conns state with lastReply := reply })⟩

def amqpDestroyConnection (state : Handle) : Code World ε Unit :=
  modify (fun w => w.tell (.call .destroyConnection state []))

/-- A pointer to what a synchronous method returned, null when its reply is not
normal; `target` is what it points to as long as the pool is there. -/
structure OkPtr where
  ref : PoolRef
  target : OkMethod Bytes
  deriving DecidableEq, Repr

/-- A synchronous method `f` on a channel, `args` after the channel. -/
def amqpSync (f : CFunction) (state : Handle) (channel : ChannelId) (args : List Arg) :
    Code World ε OkPtr :=
  ⟨fun w =>
    let answer := Library.sync w.calls
    let conn := w.conns state
    let ref := conn.ref state channel
    (.ret ⟨ref, answer.ok.map (⟨·, .pool ref⟩)⟩,
      (w.tick.tell (.call f state (.channel channel :: args))).setConn state
        { conn with
          lastReply := conn.placeReply state answer.reply
          queued := conn.queued ++ answer.arrivals })⟩

/-- An asynchronous method, which only sends. -/
def amqpAsync (f : CFunction) (state : Handle) (channel : ChannelId) (args : List Arg) :
    Code World ε Status :=
  ⟨fun w =>
    let answer := Library.async w.calls
    let conn := w.conns state
    (.ret answer.status,
      (w.tick.tell (.call f state (.channel channel :: args))).setConn state
        { conn with queued := conn.queued ++ answer.arrivals })⟩

def amqpGetRpcReply (state : Handle) : Code World ε RpcReply :=
  ⟨fun w => (.ret (w.conns state).lastReply, w.tell (.call .getRpcReply state []))⟩

def amqpMaybeReleaseBuffers (state : Handle) : Code World ε Unit :=
  modify (fun w => (w.tell (.call .maybeReleaseBuffers state [])).setConn state
    ((w.conns state).recycle (fun _ => true)))

def amqpMaybeReleaseBuffersOnChannel (state : Handle) (channel : ChannelId) :
    Code World ε Unit :=
  modify (fun w =>
    (w.tell (.call .maybeReleaseBuffersOnChannel state [.channel channel])).setConn state
      ((w.conns state).recycle (· == channel)))

/-- `amqp_consume_message` into the envelope structure `ident`. -/
def amqpConsumeMessage (state : Handle) (ident : Nat) (tv : Option Timeval) (flags : Int) :
    Code World ε (RpcReply × AmqpEnvelope) :=
  ⟨fun w =>
    let answer := Library.consumeMessage w.calls
    let conn := w.conns state
    (.ret (conn.placeReply state answer.reply, answer.envelope.fill ident),
      (w.tick.tell (.call .consumeMessage state [.timeval tv, .num flags])).setConn state
        { conn with queued := answer.queued })⟩

def amqpSimpleWaitFrameNoblock (state : Handle) (tv : Option Timeval) :
    Code World ε (Status × Frame) :=
  ⟨fun w =>
    let answer := Library.simpleWaitFrameNoblock w.calls
    let conn := w.conns state
    (.ret (answer.status, conn.placeFrame state answer.channel answer.payload),
      (w.tick.tell (.call .simpleWaitFrameNoblock state [.timeval tv])).setConn state
        { conn with queued := answer.queued })⟩

/-- `amqp_read_message` into the message structure `ident`. -/
def amqpReadMessage (state : Handle) (channel : ChannelId) (ident : Nat) (flags : Int) :
    Code World ε (RpcReply × AmqpMessage) :=
  ⟨fun w =>
    let answer := Library.readMessage w.calls
    let conn := w.conns state
    (.ret (conn.placeReply state answer.reply, answer.message.fill ident),
      (w.tick.tell (.call .readMessage state [.channel channel, .num flags])).setConn state
        { conn with queued := answer.queued })⟩

def amqpDestroyEnvelope (e : AmqpEnvelope) : Code World ε Unit :=
  modify (fun w =>
    { w.tell (.destroyEnvelope e.ident) with
      freed := fun i => if i = e.ident then true else w.freed i })

def amqpDestroyMessage (m : AmqpMessage) : Code World ε Unit :=
  modify (fun w =>
    { w.tell (.destroyMessage m.ident) with
      freed := fun i => if i = m.ident then true else w.freed i })

/-! ## Reading and owning -/

/-- `*p`: what the pointer points to, or whatever stands there now. -/
def OkPtr.load (p : OkPtr) : Code World ε (OkMethod Bytes) :=
  ⟨fun w => (.ret (if w.poolAlive p.ref then p.target else Library.stale),
    w.tell (.deref p.ref (w.poolAlive p.ref)))⟩

/-- `container<std::string>(bytes)`: copies the bytes, or whatever stands there. -/
def containerString (bytes : Bytes) : Code World ε String :=
  ⟨fun w => (.ret (if w.alive bytes.mem then bytes.data else Library.stale.consumerTag.data),
    match bytes.mem with
    | .pool ref => w.tell (.deref ref (w.poolAlive ref))
    | .own _ => w)⟩

/-- The identity of a new C structure. -/
def newIdent : Code World ε Nat :=
  ⟨fun w => (.ret w.nextIdent,
    { w with nextIdent := w.nextIdent + 1
             freed := fun i => if i = w.nextIdent then false else w.freed i })⟩

/-- What an `amqp_table_t` argument says at this moment. -/
def seenTable (t : RawTable) : Code World ε Arg :=
  ⟨fun w => (.ret (.table (decodeTable w.mem t)), w)⟩

/-! ## The methods by name -/

section Methods

variable (state : Handle) (channel : ChannelId)

/-- `AMQP_REPLY_SUCCESS`. -/
def amqpReplySuccess : Int := 200

/-- `amqp_connection_close`, on channel 0. -/
def amqpConnectionClose (code : Int) : Code World ε OkPtr :=
  amqpSync .connectionClose state 0 [.num code]

def amqpChannelOpen : Code World ε OkPtr := amqpSync .channelOpen state channel []

def amqpChannelClose (code : Int) : Code World ε OkPtr :=
  amqpSync .channelClose state channel [.num code]

def amqpChannelFlow (active : Bool) : Code World ε OkPtr :=
  amqpSync .channelFlow state channel [.flag active]

def amqpBasicAck (deliveryTag : UInt64) (multiple : Bool) : Code World ε Status :=
  amqpAsync .basicAck state channel [.num deliveryTag.toNat, .flag multiple]

def amqpBasicNack (deliveryTag : UInt64) (multiple requeue : Bool) : Code World ε Status :=
  amqpAsync .basicNack state channel [.num deliveryTag.toNat, .flag multiple, .flag requeue]

def amqpBasicPublish (exchange routingKey : String) (mandatory immediate : Bool)
    (properties : List String) (body : String) : Code World ε Status :=
  amqpAsync .basicPublish state channel
    [.bytes exchange, .bytes routingKey, .flag mandatory, .flag immediate,
      .properties properties, .bytes body]

def amqpBasicQos (prefetchSize : UInt32) (prefetchCount : UInt16) («global» : Bool) :
    Code World ε OkPtr :=
  amqpSync .basicQos state channel
    [.num prefetchSize.toNat, .num prefetchCount.toNat, .flag «global»]

def amqpBasicRecover (requeue : Bool) : Code World ε OkPtr :=
  amqpSync .basicRecover state channel [.flag requeue]

def amqpBasicConsume (queue consumerTag : String) (noLocal noAck exclusive : Bool)
    (arguments : RawTable) : Code World ε OkPtr := do
  let arguments ← seenTable arguments
  amqpSync .basicConsume state channel
    [.bytes queue, .bytes consumerTag, .flag noLocal, .flag noAck, .flag exclusive, arguments]

def amqpQueueDeclare (queue : String) (passive durable exclusive autoDelete : Bool)
    (arguments : RawTable) : Code World ε OkPtr := do
  let arguments ← seenTable arguments
  amqpSync .queueDeclare state channel
    [.bytes queue, .flag passive, .flag durable, .flag exclusive, .flag autoDelete, arguments]

/-- `amqp_queue_bind` and `amqp_queue_unbind`. -/
def amqpQueueBinding (f : CFunction) (queue exchange routingKey : String)
    (arguments : RawTable) : Code World ε OkPtr := do
  let arguments ← seenTable arguments
  amqpSync f state channel [.bytes queue, .bytes exchange, .bytes routingKey, arguments]

def amqpQueueDelete (queue : String) (ifUnused ifEmpty : Bool) : Code World ε OkPtr :=
  amqpSync .queueDelete state channel [.bytes queue, .flag ifUnused, .flag ifEmpty]

def amqpQueuePurge (queue : String) : Code World ε OkPtr :=
  amqpSync .queuePurge state channel [.bytes queue]

def amqpExchangeDeclare (exchange type : String)
    (passive durable autoDelete internal : Bool) (arguments : RawTable) :
    Code World ε OkPtr := do
  let arguments ← seenTable arguments
  amqpSync .exchangeDeclare state channel
    [.bytes exchange, .bytes type, .flag passive, .flag durable, .flag autoDelete,
      .flag internal, arguments]

/-- `amqp_exchange_bind` and `amqp_exchange_unbind`. -/
def amqpExchangeBinding (f : CFunction) (destination source routingKey : String)
    (arguments : RawTable) : Code World ε OkPtr := do
  let arguments ← seenTable arguments
  amqpSync f state channel [.bytes destination, .bytes source, .bytes routingKey, arguments]

def amqpExchangeDelete (exchange : String) (ifUnused : Bool) : Code World ε OkPtr :=
  amqpSync .exchangeDelete state channel [.bytes exchange, .flag ifUnused]

end Methods

end Functions

end RmqCxx
