/-
# `RmqCxx.Exceptions` — the exceptions and their texts

One constructor for each class, with the data an object of the class carries
besides the reference to its connection, and the text of `what()`.  `foreign`
stands for whatever else user code throws.
-/
import RmqCxx.Library

namespace RmqCxx

inductive Exc where
  | exception (what : String)
  | connection (what : String)
  | socket (status : Status) (what : String)
  | operation (status : Status) (what : String)
  | rpc (reply : RpcReply) (what : String)
  | frameStatus (reply : RpcReply) (status : Status) (what : String)
  | frame (reply : RpcReply) (frame : Frame) (what : String)
  | channelClose (channel : ChannelId) (what : String)
  | connectionClose (what : String)
  | library (reply : RpcReply) (what : String)
  | channel (channel : ChannelId) (what : String)
  | foreign (tag : Nat)
  deriving DecidableEq, Repr

/-- `impl::decodeCloseMethod`, behind both `decodeAmqpMethod`s. -/
def decodeCloseMethod (decoded : CloseMethod Bytes) : String :=
  "Code: " ++ toString decoded.replyCode.toNat ++ " Message: " ++ decoded.replyText.data

/-! ## Constructors with a text of their own -/

/-- `ChannelCloseException(connection, channel, decoded, reason)`. -/
def Exc.channelCloseException (channel : ChannelId) (decoded : CloseMethod Bytes)
    (reason : String) : Exc :=
  .channelClose channel (reason ++ " " ++ decodeCloseMethod decoded)

/-- `ConnectionCloseException(connection, decoded, reason)`. -/
def Exc.connectionCloseException (decoded : CloseMethod Bytes) (reason : String) : Exc :=
  .connectionClose (reason ++ " " ++ decodeCloseMethod decoded)

/-- `LibraryException(connection, reply, reason)`. -/
def Exc.libraryException [Library] (reply : RpcReply) (reason : String) : Exc :=
  .library reply (reason ++ Library.errorString2 reply.libraryError)

/-- The decoded methods that can be reached from an exception object. -/
def Exc.methods : Exc → List Method
  | .rpc reply _ | .frameStatus reply _ _ | .library reply _ => reply.reply.toList
  | .frame reply received _ =>
      reply.reply.toList ++
        match received.payload with
        | .method m => [m]
        | .other _ => []
  | _ => []

end RmqCxx
