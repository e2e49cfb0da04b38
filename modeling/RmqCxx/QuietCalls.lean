/-
# `RmqCxx.QuietCalls` — code that waits for nothing

Only the consumers wait for messages.  Whatever else the worker of `RmqCxx.AdvConsumer` calls,
constructors and destructors included, leaves the list of the timeouts that were handed to
the library as it is (`World.Quiet`), and takes no answer of the library back.
-/
import RmqCxx.Overflows
import RmqCxx.Usage

namespace RmqCxx

open Cpp Code

/-- From `w` to `w'`, time went on: the answers given are still given. -/
def World.Later (w w' : World) : Prop := w.calls ≤ w'.calls

instance : Std.Refl World.Later := ⟨fun w => Nat.le_refl w.calls⟩

instance : IsTrans World World.Later := ⟨fun _ _ _ h h' => Nat.le_trans h h'⟩

/-- The timeout of a wait. -/
def Event.waited : Event → Option (Option Timeval)
  | .call f _ args => anyWait f args
  | _ => none

theorem waits_eq (w : World) : w.waits = w.log.filterMap Event.waited := rfl

/-- And nothing was waited for. -/
structure World.Quiet (w w' : World) : Prop where
  later : w.Later w'
  waits : w'.waits = w.waits

instance : Std.Refl World.Quiet := ⟨fun w => ⟨refl w, rfl⟩⟩

instance : IsTrans World World.Quiet :=
  ⟨fun _ _ _ h h' => ⟨IsTrans.trans _ _ _ h.later h'.later, h'.waits.trans h.waits⟩⟩

namespace World.Quiet

variable {w w' : World}

theorem of_log_eq (hlater : w.Later w') (hlog : w'.log = w.log) : w.Quiet w' := by
  refine ⟨hlater, ?_⟩
  rw [waits_eq, waits_eq, hlog]

theorem of_tell {e : Event} (hlater : w.Later w') (hlog : w'.log = w.log ++ [e])
    (he : e.waited = none) : w.Quiet w' := by
  refine ⟨hlater, ?_⟩
  rw [waits_eq, waits_eq, hlog, List.filterMap_append, List.filterMap_cons_none he,
    List.filterMap_nil, List.append_nil]

end World.Quiet

variable [Library] {α : Type}

section Calls

variable (self : Connection) {context : String}

theorem quiet_connectionRpc {maybeRelease : Bool} {f : Handle → Code World Exc α}
    (hf : Keeps World.Quiet (f self.connection_)) :
    Keeps World.Quiet (self.rpcWith maybeRelease context f) := by
  have hreply : Keeps World.Quiet (amqpGetRpcReply self.connection_ : Code World Exc RpcReply) :=
    fun w => .of_tell (Nat.le_refl w.calls) rfl rfl
  have hrelease : Keeps World.Quiet (amqpMaybeReleaseBuffers self.connection_ :
      Code World Exc Unit) :=
    fun w => .of_tell (Nat.le_refl w.calls) rfl rfl
  refine keeps_scopeExit (keeps_bind hreply fun reply => ?_) hf
  exact keeps_bind (keeps_ofExcept _) fun _ => keeps_ite hrelease (keeps_pure ())

theorem quiet_sync {f : CFunction} {h : Handle} {channel : ChannelId} {args : List Arg}
    (hf : anyWait f (.channel channel :: args) = none) :
    Keeps World.Quiet (amqpSync f h channel args : Code World Exc OkPtr) :=
  fun w => .of_tell (Nat.le_succ w.calls) rfl hf

omit [Library] in
theorem quiet_seenTable (table : RawTable) :
    Keeps World.Quiet (seenTable table : Code World Exc Arg) :=
  fun w => .of_log_eq (Nat.le_refl w.calls) rfl

theorem quiet_close : Keeps World.Quiet self.close :=
  keeps_ite (keeps_pure ()) (keeps_tryCatch
    (keeps_bind (quiet_connectionRpc self (quiet_sync rfl)) fun _ => keeps_pure ())
    fun _ => keeps_pure ())

omit [Library] in
theorem quiet_deleteHandle : Keeps World.Quiet self.deleteHandle :=
  keeps_ite (keeps_pure ()) fun w => .of_tell (Nat.le_refl w.calls) rfl rfl

/-- `~Connection()`. -/
theorem quiet_destroy : Keeps World.Quiet self.destroy :=
  keeps_bind (quiet_close self) fun _ => quiet_deleteHandle self

/-- `close(); throw e;` after a step that failed. -/
theorem quiet_unless (status : Status) (e : Exc) : Keeps World.Quiet
    (if status ≠ .ok then (do self.close; throw e) else pure () : Code World Exc Unit) :=
  keeps_ite (keeps_bind (quiet_close self) fun _ => keeps_throw e) (keeps_pure ())

theorem quiet_login (vhost : String) (maxChannels maxFrameSize heartbeat : Int)
    (properties : Option RawTable) (saslMethod : SaslMethod) (args : List String) :
    Keeps World.Quiet
      (self.login vhost maxChannels maxFrameSize heartbeat properties saslMethod args) := by
  have hlogin (f : CFunction) (args : List Arg) (hf : anyWait f args = none) :
      Keeps World.Quiet (amqpLogin f self.connection_ args : Code World Exc RpcReply) :=
    fun w => .of_tell (Nat.le_succ w.calls) rfl hf
  have hreply (reply : RpcReply) : Keeps World.Quiet
      (tryCatch (ofExcept (Connection.processReply self.context_ reply))
        (fun e => do self.close; throw e) : Code World Exc Unit) :=
    keeps_tryCatch (keeps_ofExcept _) fun e =>
      keeps_bind (quiet_close self) fun _ => keeps_throw e
  cases properties with
  | none => exact keeps_bind (hlogin _ _ rfl) hreply
  | some properties =>
      exact keeps_bind (keeps_bind (quiet_seenTable properties) fun _ => hlogin _ _ rfl) hreply

theorem quiet_setUp {p q : Period} (address : String) (port : Int) (vhost : String)
    (maxChannels maxFrameSize heartbeat : Int) (connectTimeout : Duration p)
    (handshakeTimeout : Option (Duration q)) (properties : Option RawTable)
    (saslMethod : SaslMethod) (args : List String) :
    Keeps World.Quiet (self.setUp address port vhost maxChannels maxFrameSize heartbeat
      connectTimeout handshakeTimeout properties saslMethod args) := by
  have hhandshake : Keeps World.Quiet (self.setHandshakeTimeout handshakeTimeout) := by
    cases handshakeTimeout with
    | none => exact keeps_pure ()
    | some timeout =>
        exact keeps_bind (fun w => .of_tell (Nat.le_succ w.calls) rfl rfl) fun status =>
          quiet_unless self status _
  have hsocket : Keeps World.Quiet (amqpTcpSocketNew self.connection_ : Code World Exc Bool) :=
    fun w => .of_tell (Nat.le_succ w.calls) rfl rfl
  refine keeps_ite (keeps_throw _) (keeps_bind hsocket fun socket => ?_)
  refine keeps_ite (keeps_throw _) (keeps_bind ?_ fun _ => ?_)
  · exact keeps_bind (fun w => .of_tell (Nat.le_succ w.calls) rfl rfl) fun status =>
      quiet_unless self status _
  · exact keeps_bind hhandshake fun _ => quiet_login self _ _ _ _ _ _ _

/-- The constructor for PLAIN authentication. -/
theorem quiet_makePlain {p : Period} (address : String) (port : Int)
    (username password vhost : String) (maxChannels maxFrameSize heartbeat : Int)
    (timeout : Duration p) :
    Keeps World.Quiet (Connection.makePlain address port username password vhost maxChannels
      maxFrameSize heartbeat timeout) := by
  have hnew : Keeps World.Quiet (amqpNewConnection : Code World Exc Handle) := by
    intro w
    simp only [amqpNewConnection]
    split
    · exact .of_tell (Nat.le_succ w.calls) rfl rfl
    · exact .of_tell (Nat.le_succ w.calls) rfl rfl
  refine keeps_bind hnew fun handle => keeps_bind ?_ fun _ => keeps_pure _
  exact keeps_constructing (quiet_deleteHandle _) (quiet_setUp _ _ _ _ _ _ _ _ _ _ _ _)

end Calls

section Channels

variable (self : Channel) {context : String}

theorem quiet_channel_make (connection : Connection) (id : ChannelId) :
    Keeps World.Quiet (Channel.make connection id) :=
  keeps_bind (quiet_connectionRpc _ (quiet_sync rfl)) fun _ => keeps_pure _

/-- `~Channel()`. -/
theorem quiet_channel_destroy : Keeps World.Quiet self.destroy :=
  keeps_ite (keeps_pure ()) (keeps_tryCatch
    (keeps_bind (quiet_connectionRpc _ (quiet_sync rfl)) fun _ => keeps_pure ())
    fun _ => keeps_pure ())

theorem quiet_rpc {f : Handle → ChannelId → Code World Exc α}
    (hf : Keeps World.Quiet (f self.handle self.channel_)) :
    Keeps World.Quiet (self.rpcWith context f) :=
  keeps_scopeExit (fun w => .of_tell (Nat.le_refl w.calls) rfl rfl) (quiet_connectionRpc _ hf)

theorem quiet_ack (tag : UInt64) (multiple : Bool) :
    Keeps World.Quiet (self.ack tag multiple) :=
  quiet_rpc (f := (amqpBasicAck · · tag multiple)) self fun w =>
    .of_tell (Nat.le_succ w.calls) rfl rfl

theorem quiet_load (p : OkPtr) :
    Keeps World.Quiet (p.load : Code World Exc (OkMethod Bytes)) :=
  fun w => .of_tell (Nat.le_refl w.calls) rfl rfl

theorem quiet_containerString (b : Bytes) :
    Keeps World.Quiet (containerString b : Code World Exc String) := by
  intro w
  obtain ⟨data, mem⟩ := b
  cases mem with
  | pool ref => exact .of_tell (Nat.le_refl w.calls) rfl rfl
  | own ident => exact refl w

omit [Library] in
/-- The table of the arguments is made before, and destroyed after. -/
theorem quiet_withArguments {args : List TableEntry} {scope : RawTable → Code World Exc α}
    (hscope : ∀ table, Keeps World.Quiet (scope table)) :
    Keeps World.Quiet (withArguments args scope) := by
  refine keeps_bind keeps_get fun w => keeps_bind ?_ fun _ => keeps_scopeExit ?_ (hscope _)
  · exact fun w => .of_log_eq (Nat.le_refl w.calls) rfl
  · exact fun w => .of_log_eq (Nat.le_refl w.calls) rfl

/-- A method that is handed an argument table. -/
theorem quiet_tabled {f : CFunction} (table : RawTable) {args : Arg → List Arg}
    (hf : ∀ table, anyWait f (.channel self.channel_ :: args table) = none) :
    Keeps World.Quiet (self.rpcWith context fun c channel => do
      let table ← seenTable table
      amqpSync f c channel (args table)) :=
  quiet_rpc self (f := fun c channel => do
      let table ← seenTable table
      amqpSync f c channel (args table))
    (keeps_bind (quiet_seenTable table) fun _ => quiet_sync (hf _))

theorem quiet_queue_consume (self : Queue) (consumerTag : String)
    (noLocal noAck exclusive : Bool) (args : List TableEntry) :
    Keeps World.Quiet (self.consume consumerTag noLocal noAck exclusive args) := by
  refine quiet_withArguments fun table => ?_
  refine keeps_bind (quiet_tabled self.channel_ table fun _ => rfl) fun p => ?_
  exact keeps_bind (quiet_load p) fun ok => quiet_containerString _

end Channels

end RmqCxx
