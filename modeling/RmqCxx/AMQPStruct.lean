/-
# `RmqCxx.AMQPStruct` — AMQPStruct and the classes built on it

`AMQPStruct<T>` holds a C structure bitwise and a flag that says the structure
was moved away.  `Envelope` and `Message` dispose of the structure in their
destructors unless the flag is set; `ReturnedMessage` has a `Message` member and
a bitwise copy of the method.  Moves copy the structure and leave the source its
stale copy.
-/
import RmqCxx.Amqp

namespace RmqCxx

variable {T : Type}

/-- `class AMQPStruct<T>`. -/
structure AMQPStruct (T : Type) where
  memory_ : T
  moved_ : Bool
  deriving DecidableEq, Repr

namespace AMQPStruct

/-- `explicit AMQPStruct(T memory)`. -/
def make (memory : T) : AMQPStruct T := ⟨memory, false⟩

/-- `AMQPStruct(AMQPStruct&& other)`: the new object, and what is left of
`other`. -/
def moveConstruct (other : AMQPStruct T) : AMQPStruct T × AMQPStruct T :=
  (⟨other.memory_, false⟩, { other with moved_ := true })

/-- `operator=(AMQPStruct&& other)` between two objects: the object assigned to,
and what is left of `other`.  The three assignments of the body are to distinct
fields, and nothing of the target's old state is read. -/
def moveAssign (other : AMQPStruct T) : AMQPStruct T × AMQPStruct T :=
  (⟨other.memory_, false⟩, { other with moved_ := true })

/-- `operator=` with `other` being the object itself, statement by statement:
the last one sets the flag that the second one cleared. -/
def selfAssign (self : AMQPStruct T) : AMQPStruct T :=
  let self := { self with memory_ := self.memory_ }
  let self := { self with moved_ := false }
  { self with moved_ := true }

/-- The structure the object disposes of at the end of its life. -/
def holding (self : AMQPStruct T) : Option T := if self.moved_ then none else some self.memory_

end AMQPStruct

/-- `class Envelope`. -/
abbrev Envelope := AMQPStruct AmqpEnvelope

/-- `class Message`. -/
abbrev Message := AMQPStruct AmqpMessage

/-- `Envelope::body()`. -/
def Envelope.body (e : Envelope) : String := e.memory_.message.body.data

/-- `class ReturnedMessage`. -/
structure ReturnedMessage where
  message_ : Message
  method_ : BasicReturn Bytes
  deriving DecidableEq, Repr

namespace ReturnedMessage

/-- `ReturnedMessage(Message message, amqp_basic_return_t method)`: the object,
and what is left of the parameter `message`. -/
def make (message : Message) (method : BasicReturn Bytes) : ReturnedMessage × Message :=
  let (message_, message) := message.moveConstruct
  (⟨message_, method⟩, message)

/-- The defaulted move constructor moves the members one by one. -/
def moveConstruct (other : ReturnedMessage) : ReturnedMessage × ReturnedMessage :=
  let (message_, message) := other.message_.moveConstruct
  (⟨message_, other.method_⟩, { other with message_ := message })

/-- The defaulted move assignment does, too. -/
def moveAssign (other : ReturnedMessage) : ReturnedMessage × ReturnedMessage :=
  let (message_, message) := other.message_.moveAssign
  (⟨message_, other.method_⟩, { other with message_ := message })

def selfAssign (self : ReturnedMessage) : ReturnedMessage :=
  { self with message_ := self.message_.selfAssign }

/-- The byte strings reachable through `message()` and `method()`. -/
def strings (self : ReturnedMessage) : List Bytes :=
  self.message_.memory_.strings ++ self.method_.strings

end ReturnedMessage
end RmqCxx
