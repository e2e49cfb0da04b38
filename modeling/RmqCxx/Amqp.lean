/-
# `RmqCxx.Amqp` — the C library's data

What rabbitmq-c hands out, as far as the wrapper looks at it: statuses, decoded
methods, frames, replies, messages and envelopes.  Two things are added to the C
declarations.  A byte string says which memory it lives in (`Region`): the
decoding pool of a channel, which is recycled, or memory of a structure's own.
An envelope or message carries the identity of the structure it is a copy of, so
that bitwise copies of one structure can be recognised.

The structures that contain byte strings are generic in them: the library's
answers are given by contents (`String`), and become pointers (`Bytes`) when they
are put into memory.
-/
import Mathlib.Tactic.Common

namespace RmqCxx

/-- `amqp_channel_t`. -/
abbrev ChannelId := UInt16

/-- `amqp_connection_state_t`; `none` is the null pointer. -/
abbrev Handle := Option Nat

/-- A place in the decoding pool of a channel; recycling the pool starts the
next generation. -/
structure PoolRef where
  handle : Handle
  channel : ChannelId
  generation : Nat
  deriving DecidableEq, Repr

/-- The memory a byte string lives in. -/
inductive Region where
  | pool (ref : PoolRef)
  | own (ident : Nat)
  deriving DecidableEq, Repr

/-- `amqp_bytes_t` as the library fills it. -/
structure Bytes where
  data : String
  mem : Region
  deriving DecidableEq, Repr

/-! ## Statuses and identifiers -/

/-- `amqp_status_enum`, by the values the wrapper tells apart. -/
inductive Status where
  | ok | timeout | socketError | unexpectedState
  | other (code : Int)
  deriving DecidableEq, Repr

/-- `amqp_response_type_enum`. -/
inductive ResponseType where
  | none | normal | libraryException | serverException
  | other (code : Nat)
  deriving DecidableEq, Repr

/-- `amqp_method_number_t`, by the values the wrapper tells apart. -/
inductive MethodId where
  | connectionClose | channelClose | basicAck | basicReturn
  | other (id : UInt32)
  deriving DecidableEq, Repr

/-- `amqp_sasl_method_enum`. -/
inductive SaslMethod where
  | plain | external
  deriving DecidableEq, Repr

/-! ## Decoded methods -/

section Decoded

variable {β γ : Type}

/-- `amqp_channel_close_t` and `amqp_connection_close_t`, the fields read. -/
structure CloseMethod (β : Type) where
  replyCode : UInt16
  replyText : β
  deriving DecidableEq, Repr

/-- `amqp_basic_ack_t`. -/
structure BasicAck where
  deliveryTag : UInt64
  multiple : Bool
  deriving DecidableEq, Repr

/-- `amqp_basic_return_t`. -/
structure BasicReturn (β : Type) where
  replyCode : UInt16
  replyText : β
  exchange : β
  routingKey : β
  deriving DecidableEq, Repr

def CloseMethod.map (f : β → γ) (m : CloseMethod β) : CloseMethod γ :=
  ⟨m.replyCode, f m.replyText⟩

def BasicReturn.map (f : β → γ) (m : BasicReturn β) : BasicReturn γ :=
  ⟨m.replyCode, f m.replyText, f m.exchange, f m.routingKey⟩

/-- The byte strings of the method. -/
def BasicReturn.strings (m : BasicReturn β) : List β := [m.replyText, m.exchange, m.routingKey]

/-- What `decoded` in an `amqp_method_t` points to, by the method's id. -/
inductive Decoded (β : Type) where
  | connectionClose (m : CloseMethod β)
  | channelClose (m : CloseMethod β)
  | basicAck (m : BasicAck)
  | basicReturn (m : BasicReturn β)
  | other (id : UInt32)
  deriving DecidableEq, Repr

namespace Decoded

def map (f : β → γ) : Decoded β → Decoded γ
  | .connectionClose m => .connectionClose (m.map f)
  | .channelClose m => .channelClose (m.map f)
  | .basicAck m => .basicAck m
  | .basicReturn m => .basicReturn (m.map f)
  | .other id => .other id

def id : Decoded β → MethodId
  | .connectionClose _ => .connectionClose
  | .channelClose _ => .channelClose
  | .basicAck _ => .basicAck
  | .basicReturn _ => .basicReturn
  | .other id => .other id

end Decoded

/-- The fields the wrapper reads of the `*_ok_t` structures that synchronous
methods return. -/
structure OkMethod (β : Type) where
  consumerTag : β
  messageCount : UInt32
  active : Bool
  deriving DecidableEq, Repr

def OkMethod.map (f : β → γ) (m : OkMethod β) : OkMethod γ :=
  ⟨f m.consumerTag, m.messageCount, m.active⟩

end Decoded

/-- `amqp_method_t`: the decoded method, and the pool it was decoded into. -/
structure Method where
  decoded : Decoded Bytes
  mem : PoolRef
  deriving DecidableEq, Repr

/-- `amqp_rpc_reply_t`; `reply` is `none` when its `decoded` pointer is null. -/
structure RpcReply where
  replyType : ResponseType
  reply : Option Method
  libraryError : Status
  deriving DecidableEq, Repr

/-- `reply.reply.id`. -/
def RpcReply.id (r : RpcReply) : MethodId :=
  match r.reply with
  | some m => m.decoded.id
  | none => .other 0

/-- The payload of a frame, by the frame's type. -/
inductive Payload where
  | method (m : Method)
  | other (frameType : UInt8)
  deriving DecidableEq, Repr

/-- `amqp_frame_t`. -/
structure Frame where
  channel : ChannelId
  payload : Payload
  deriving DecidableEq, Repr

/-! ## Messages and envelopes -/

/-- `amqp_message_t`: `ident` is the structure this is a copy of, `properties`
the byte strings among its properties. -/
structure AmqpMessage where
  ident : Nat
  properties : List Bytes
  body : Bytes
  deriving DecidableEq, Repr

/-- `amqp_envelope_t`. -/
structure AmqpEnvelope where
  ident : Nat
  channel : ChannelId
  consumerTag : Bytes
  deliveryTag : UInt64
  redelivered : Bool
  exchange : Bytes
  routingKey : Bytes
  message : AmqpMessage
  deriving DecidableEq, Repr

/-- The byte strings reachable from a message. -/
def AmqpMessage.strings (m : AmqpMessage) : List Bytes := m.body :: m.properties

/-- The byte strings reachable from an envelope. -/
def AmqpEnvelope.strings (e : AmqpEnvelope) : List Bytes :=
  e.consumerTag :: e.exchange :: e.routingKey :: e.message.strings

/-- `::amqp_message_t{0}`. -/
def AmqpMessage.zero (ident : Nat) : AmqpMessage := ⟨ident, [], ⟨"", .own ident⟩⟩

/-- `::amqp_envelope_t()`. -/
def AmqpEnvelope.zero (ident : Nat) : AmqpEnvelope where
  ident := ident
  channel := 0
  consumerTag := ⟨"", .own ident⟩
  deliveryTag := 0
  redelivered := false
  exchange := ⟨"", .own ident⟩
  routingKey := ⟨"", .own ident⟩
  message := .zero ident

end RmqCxx
