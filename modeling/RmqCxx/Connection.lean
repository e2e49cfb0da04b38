/-
# `RmqCxx.Connection` — Connection: set-up, close, rpc

The connection object without its consumers, which are in `RmqCxx.Consume` and
`RmqCxx.Consumers`.  The order in which things happen is fixed by destructors:
`rpc` looks at the recorded reply in the destructor of a `defer` object, after
the call; the connection handle is destroyed by the destructor of the
`connection_` member, which also runs when the constructor's body throws.
-/
import RmqCxx.Exceptions

namespace RmqCxx

open Cpp Code

variable [Library] {α : Type}

/-- `defer g(f)` at the head of a scope: `f` runs when the scope is left, and may
throw. -/
def defer {σ : Type} (f : Code σ Exc Unit) (scope : Code σ Exc α) : Code σ Exc α :=
  scopeExit f scope

/-- `class Connection`. -/
structure Connection where
  connection_ : Handle
  context_ : String
  deriving DecidableEq, Repr

namespace Connection

/-- `processReply(context, reply)`. -/
def processReply (context : String) (reply : RpcReply) : Except Exc Unit :=
  match reply.replyType with
  | .normal => .ok ()
  | .none => .error (.rpc reply (context ++ "Missing RPC Reply!"))
  | .libraryException => .error (.libraryException reply (context ++ "Library exception: "))
  | .serverException =>
      match reply.reply.map Method.decoded with
      | some (.connectionClose decoded) =>
          .error (.connectionCloseException decoded (context ++ "Connection close received. "))
      | some (.channelClose decoded) =>
          .error (.channelCloseException 0 decoded (context ++ "Channel close received. "))
      | _ =>
          .error (.rpc reply (context ++ "Unhandled Server Response Exception, method name: "
            ++ Library.methodName reply.id))
  | .other _ => .error (.rpc reply (context ++ "Unhandled reply type!"))

/-- `rpc(maybeRelease, context, f, args...)`, the private one; `f` is the
function with its arguments after the handle. -/
def rpcWith (self : Connection) (maybeRelease : Bool) (context : String)
    (f : Handle → Code World Exc α) : Code World Exc α :=
  let c := self.connection_
  defer
    (do
      let reply ← amqpGetRpcReply c
      ofExcept (processReply (self.context_ ++ context) reply)
      if maybeRelease then amqpMaybeReleaseBuffers c else pure ())
    (f c)

/-- `rpc(f, args...)`, the public one. -/
def rpc (self : Connection) (f : Handle → Code World Exc α) : Code World Exc α :=
  self.rpcWith true "" f

/-- `close()`. -/
def close (self : Connection) : Code World Exc Unit :=
  noexcept_ <|
    if self.connection_.isNone then pure ()
    else
      tryCatch
        (do
          let _ ← self.rpcWith false self.context_ (amqpConnectionClose · amqpReplySuccess)
          pure ())
        (fun _ => pure ())

/-- The destructor of the `connection_` member, a `unique_ptr` whose deleter is
`amqp_destroy_connection`. -/
def deleteHandle (self : Connection) : Code World Exc Unit :=
  if self.connection_.isNone then pure () else amqpDestroyConnection self.connection_

/-- The steps of the constructor once the socket was created: opening it, ... -/
def openSocket {p : Period} (self : Connection) (address : String) (port : Int)
    (connectTimeout : Duration p) : Code World Exc Unit := do
  let socketStatus ←
    amqpSocketOpenNoblock self.connection_ address port (timeValue connectTimeout)
  if socketStatus ≠ .ok then do
    self.close
    throw (.socket socketStatus "Failed to open socket!")
  else pure ()

/-- ... setting the handshake timeout if there is one, ... -/
def setHandshakeTimeout {p : Period} (self : Connection)
    (handshakeTimeout : Option (Duration p)) : Code World Exc Unit :=
  match handshakeTimeout with
  | none => pure ()
  | some timeout => do
      let status ← amqpSetHandshakeTimeout self.connection_ (timeValue timeout)
      if status ≠ .ok then do
        self.close
        throw (.operation status "Failed to set handshake timeout!")
      else pure ()

/-- ... and logging in, with properties or without. -/
def login (self : Connection) (vhost : String) (maxChannels maxFrameSize heartbeat : Int)
    (properties : Option RawTable) (saslMethod : SaslMethod) (args : List String) :
    Code World Exc Unit := do
  let settings : List Arg :=
    [.bytes vhost, .num maxChannels, .num maxFrameSize, .num heartbeat]
  let reply ← match properties with
    | none =>
        amqpLogin .login self.connection_
          (settings ++ .sasl saslMethod :: args.map Arg.bytes)
    | some properties =>
        seenTable properties >>= fun properties =>
          amqpLogin .loginWithProperties self.connection_
            (settings ++ properties :: .sasl saslMethod :: args.map Arg.bytes)
  tryCatch (ofExcept (processReply self.context_ reply))
    (fun e => do
      self.close
      throw e)

/-- The body of the constructor. -/
def setUp {p q : Period} (self : Connection) (address : String) (port : Int) (vhost : String)
    (maxChannels maxFrameSize heartbeat : Int) (connectTimeout : Duration p)
    (handshakeTimeout : Option (Duration q)) (properties : Option RawTable)
    (saslMethod : SaslMethod) (args : List String) : Code World Exc Unit :=
  if self.connection_.isNone then throw (.exception "Failed to allocate connection object!")
  else do
    let socket ← amqpTcpSocketNew self.connection_
    if socket = false then throw (.socket .socketError "Failed to allocate socket object!")
    else do
      self.openSocket address port connectTimeout
      self.setHandshakeTimeout handshakeTimeout
      self.login vhost maxChannels maxFrameSize heartbeat properties saslMethod args

/-- The constructor the other two delegate to. -/
def make {p q : Period} (address : String) (port : Int) (vhost : String)
    (maxChannels maxFrameSize heartbeat : Int) (connectTimeout : Duration p)
    (handshakeTimeout : Option (Duration q)) (properties : Option RawTable)
    (saslMethod : SaslMethod) (args : List String) : Code World Exc Connection := do
  let handle ← amqpNewConnection
  let self : Connection := ⟨handle, "Connection(" ++ toString (handle.getD 0) ++ "): "⟩
  constructing self.deleteHandle
    (self.setUp address port vhost maxChannels maxFrameSize heartbeat connectTimeout
      handshakeTimeout properties saslMethod args)
  pure self

/-- The constructor for PLAIN authentication. -/
def makePlain {p : Period} (address : String) (port : Int) (username password vhost : String)
    (maxChannels maxFrameSize heartbeat : Int) (timeout : Duration p) :
    Code World Exc Connection :=
  make address port vhost maxChannels maxFrameSize heartbeat timeout
    (none : Option (Duration .seconds)) none .plain [username, password]

/-- The constructor for EXTERNAL authentication. -/
def makeExternal {p : Period} (address : String) (port : Int) (info vhost : String)
    (maxChannels maxFrameSize heartbeat : Int) (timeout : Duration p) :
    Code World Exc Connection :=
  make address port vhost maxChannels maxFrameSize heartbeat timeout
    (none : Option (Duration .seconds)) none .external [info]

/-- `~Connection()`, then the destructors of the members. -/
def destroy (self : Connection) : Code World Exc Unit :=
  noexcept_ do
    self.close
    self.deleteHandle

/-- `Connection(Connection&&) = default`: `connection_` moves, and the constant
`context_` is copied. -/
def moveConstruct (other : Connection) : Connection × Connection :=
  (⟨other.connection_, other.context_⟩, ⟨none, other.context_⟩)

end Connection
end RmqCxx
