/-
# `RmqCxx.Wrappers` — the destructors of Envelope, Message and ReturnedMessage

A destructor passes the structure to its `amqp_destroy_*` function unless the
object was moved from.  `ReturnedMessage` has no destructor of its own: its member
`message_` is destroyed, and `method_` is plain data.
-/
import RmqCxx.Rpc

namespace RmqCxx

open Cpp Code

variable {ε : Type}

/-- `~Envelope()`. -/
def Envelope.destroy (self : Envelope) : Code World ε Unit :=
  noexcept_ (if self.moved_ then pure () else amqpDestroyEnvelope self.memory_)

/-- `~Message()`. -/
def Message.destroy (self : Message) : Code World ε Unit :=
  noexcept_ (if self.moved_ then pure () else amqpDestroyMessage self.memory_)

/-- `~ReturnedMessage()`. -/
def ReturnedMessage.destroy (self : ReturnedMessage) : Code World ε Unit :=
  noexcept_ (Message.destroy self.message_)

end RmqCxx
