/-
# `RmqCxx.Usage` — which calls code makes

A channel object, or a queue or exchange on it, makes calls of four kinds
(`Channel.Logs`): a method of its channel, the look at the recorded reply, the release
of the channel's buffers, and reads of what was returned.  `channelOp_asks`,
`queueOp_asks` and `exchangeOp_asks` say so of every operation, and that each looks at a
reply at least once, so that none goes by without a call.  `consumeWith_does` is the like
for a consume call, with whatever operations its callbacks make.

Both are statements about the log alone, one relation between the worlds before and
after, which passes through code by the rules of `Cpp.Keeping`.
-/
import RmqCxx.ConsumeRuns
import RmqCxx.Cpp.Keeping

namespace RmqCxx

open Cpp Code

/-! ## Methods of channels -/

/-- The methods that are called through an open channel. -/
def CFunction.ofChannel : CFunction → Bool
  | .channelFlow | .basicAck | .basicNack | .basicQos | .basicRecover | .basicPublish
  | .basicConsume | .queueDeclare | .queueBind | .queueUnbind | .queueDelete | .queuePurge
  | .exchangeDeclare | .exchangeBind | .exchangeUnbind | .exchangeDelete => true
  | _ => false

/-- The operation, if it is a generic `rpc`, is given a method of a channel. -/
def ChannelOp.regular : ChannelOp → Bool
  | .rpc r => r.function.ofChannel
  | _ => true

def QueueOp.regular : QueueOp → Bool
  | .rpc r => r.function.ofChannel
  | _ => true

def ExchangeOp.regular : ExchangeOp → Bool
  | .rpc r => r.function.ofChannel
  | _ => true

/-- What the operations on a channel log; `F` are the methods they call. -/
inductive Channel.Logs (self : Channel) (F : CFunction → Bool) : Event → Prop
  | method {f : CFunction} {args : List Arg} (hf : F f = true) :
      Logs self F (.call f self.handle (.channel self.channel_ :: args))
  | reply : Logs self F (.call .getRpcReply self.handle [])
  | release : Logs self F
      (.call .maybeReleaseBuffersOnChannel self.handle [.channel self.channel_])
  | read (ref : PoolRef) (live : Bool) : Logs self F (.deref ref live)

/-! ## The relations -/

namespace World

/-- From `w` to `w'` only entries with `P` were logged, and no handle was made. -/
structure Does (P : Event → Prop) (w w' : World) : Prop where
  log : Appends P w w'
  nextHandle : w'.nextHandle = w.nextHandle

/-- And the reply recorded for `h` was looked at. -/
structure Asks (P : Event → Prop) (h : Handle) (w w' : World) : Prop where
  log : ∃ es, w'.log = w.log ++ es ∧ (∀ e ∈ es, P e) ∧ .call .getRpcReply h [] ∈ es
  nextHandle : w'.nextHandle = w.nextHandle

instance (P : Event → Prop) : Std.Refl (Does P) := ⟨fun w => ⟨refl w, rfl⟩⟩

instance (P : Event → Prop) : IsTrans World (Does P) where
  trans _ _ _ h h' := ⟨IsTrans.trans _ _ _ h.log h'.log, h'.nextHandle.trans h.nextHandle⟩

variable {P Q : Event → Prop} {h : Handle} {u v w w' : World}

theorem Does.mono (hpq : ∀ e, P e → Q e) (hd : w.Does P w') : w.Does Q w' := by
  obtain ⟨⟨es, hlog, hes⟩, hnext⟩ := hd
  exact ⟨⟨es, hlog, fun e he => hpq e (hes e he)⟩, hnext⟩

theorem Does.of_log_eq (hlog : w'.log = w.log) (hnext : w'.nextHandle = w.nextHandle) :
    w.Does P w' :=
  ⟨.of_log_eq hlog, hnext⟩

theorem Does.of_tell {e : Event} (hlog : w'.log = w.log ++ [e]) (he : P e)
    (hnext : w'.nextHandle = w.nextHandle) : w.Does P w' :=
  ⟨.of_tell hlog he, hnext⟩

theorem Asks.does (ha : w.Asks P h w') : w.Does P w' := by
  obtain ⟨⟨es, hlog, hes, -⟩, hnext⟩ := ha
  exact ⟨⟨es, hlog, hes⟩, hnext⟩

theorem Asks.mem (ha : w.Asks P h w') : .call .getRpcReply h [] ∈ w'.log := by
  obtain ⟨⟨es, hlog, -, hmem⟩, -⟩ := ha
  rw [hlog]
  exact List.mem_append_right _ hmem

theorem Asks.then (ha : u.Asks P h v) (hd : v.Does P w) : u.Asks P h w := by
  obtain ⟨⟨es, hlog, hes, hmem⟩, hnext⟩ := ha
  obtain ⟨⟨es', hlog', hes'⟩, hnext'⟩ := hd
  refine ⟨⟨es ++ es', by rw [hlog', hlog, List.append_assoc], ?_, List.mem_append_left _ hmem⟩,
    hnext'.trans hnext⟩
  intro e he
  rcases List.mem_append.mp he with he | he
  · exact hes e he
  · exact hes' e he

end World

/-! ## Operations -/

section Asks

variable {α β : Type} {P : Event → Prop} {h : Handle} {c : Code World Exc α}

theorem asks_map (f : α → β) (hc : Keeps (World.Asks P h) c) :
    Keeps (World.Asks P h) (f <$> c) :=
  keeps_map f hc

theorem asks_bind {k : α → Code World Exc β} (hc : Keeps (World.Asks P h) c)
    (hk : ∀ a, Keeps (World.Does P) (k a)) : Keeps (World.Asks P h) (c >>= k) :=
  keeps_bind_of hc hk fun ha hd => ha.then hd

theorem asks_drop (hc : Keeps (World.Asks P h) c) :
    Keeps (World.Asks P h) (do let _ ← c; pure () : Code World Exc Unit) :=
  asks_bind hc fun _ => keeps_pure ()

/-- The table of the arguments is made before, and destroyed after. -/
theorem asks_withArguments {args : List TableEntry} {scope : RawTable → Code World Exc α}
    (hscope : ∀ table, Keeps (World.Asks P h) (scope table)) :
    Keeps (World.Asks P h) (withArguments args scope) := by
  intro w
  have hdrop : Keeps (World.Does P) (modify fun v =>
      { v with mem := v.mem.free (Table.make args w.mem).1.cache_.data } : Code World Exc Unit) :=
    keeps_modify fun v => .of_log_eq rfl rfl
  have hrest := keeps_scopeExit_of (hscope (Table.make args w.mem).1.toRaw) hdrop
    (fun ha hd => ha.then hd)
  exact ⟨(hrest (w.withTable args)).log, (hrest (w.withTable args)).nextHandle⟩

end Asks

section Operations

variable [Library] {α : Type} {P : Event → Prop}

theorem does_load (hread : ∀ ref live, P (.deref ref live)) (p : OkPtr) :
    Keeps (World.Does P) (p.load : Code World Exc (OkMethod Bytes)) := by
  intro w
  exact .of_tell rfl (hread _ _) rfl

theorem does_containerString (hread : ∀ ref live, P (.deref ref live)) (b : Bytes) :
    Keeps (World.Does P) (containerString b : Code World Exc String) := by
  intro w
  obtain ⟨data, mem⟩ := b
  cases mem with
  | pool ref => exact .of_tell rfl (hread _ _) rfl
  | own ident => exact refl w

section Channels

variable (self : Channel) (context : String) {F : CFunction → Bool}

/-- `Channel::rpc` of a call that returns. -/
theorem asks_rpcWith {f : Handle → ChannelId → Code World Exc α}
    (hf : ∀ w, ∃ a w', (f self.handle self.channel_).run w = (.ret a, w') ∧
      w.Does (self.Logs F) w') :
    Keeps (World.Asks (self.Logs F) self.handle) (self.rpcWith context f) := by
  intro w
  obtain ⟨a, w', hrun, ⟨es, hlog, hes⟩, hnext⟩ := hf w
  rw [Channel.rpcWith_of_ret hrun]
  refine ⟨⟨es ++ [.call .getRpcReply self.handle [],
    .call .maybeReleaseBuffersOnChannel self.handle [.channel self.channel_]], ?_, ?_, ?_⟩, hnext⟩
  · simp [World.settled, hlog]
  · intro e he
    rcases List.mem_append.mp he with he | he
    · exact hes e he
    · rcases he with _ | ⟨_, _ | ⟨_, he⟩⟩
      · exact .reply
      · exact .release
      · cases he
  · exact List.mem_append_right _ List.mem_cons_self

theorem asks_sync {f : CFunction} (hf : F f = true) (args : List Arg) :
    Keeps (World.Asks (self.Logs F) self.handle)
      (self.rpcWith context fun c channel => amqpSync f c channel args) :=
  asks_rpcWith self context fun _ => ⟨_, _, rfl, .of_tell rfl (.method hf) rfl⟩

theorem asks_async {f : CFunction} (hf : F f = true) (args : List Arg) :
    Keeps (World.Asks (self.Logs F) self.handle)
      (self.rpcWith context fun c channel => amqpAsync f c channel args) :=
  asks_rpcWith self context fun _ => ⟨_, _, rfl, .of_tell rfl (.method hf) rfl⟩

/-- A method that is handed an argument table. -/
theorem asks_tabled {f : CFunction} (hf : F f = true) (table : RawTable)
    (args : Arg → List Arg) :
    Keeps (World.Asks (self.Logs F) self.handle)
      (self.rpcWith context fun c channel => do
        let table ← seenTable table
        amqpSync f c channel (args table)) :=
  asks_rpcWith self context fun _ => ⟨_, _, rfl, .of_tell rfl (.method hf) rfl⟩

theorem asks_request {r : Request} (hr : F r.function = true) (first : List Arg) :
    Keeps (World.Asks (self.Logs F) self.handle) (self.rpcWith context (r.code first)) := by
  refine asks_rpcWith self context fun w => ?_
  cases hs : r.synchronous with
  | true => exact ⟨_, _, r.code_of_sync hs first _ _ w, .of_tell rfl (.method hr) rfl⟩
  | false => exact ⟨_, _, r.code_of_async hs first _ _ w, .of_tell rfl (.method hr) rfl⟩

end Channels

theorem channelOp_asks (self : Channel) {op : ChannelOp} (hop : op.regular = true) :
    Keeps (World.Asks (self.Logs CFunction.ofChannel) self.handle) (op.code self) := by
  cases op with
  | ack => exact asks_map _ (asks_async self _ rfl _)
  | nack => exact asks_map _ (asks_async self _ rfl _)
  | qos => exact asks_map _ (asks_drop (asks_sync self _ rfl _))
  | recover => exact asks_map _ (asks_drop (asks_sync self _ rfl _))
  | flow active =>
      exact asks_map _ (asks_bind (asks_sync self _ rfl _) fun p =>
        keeps_bind (does_load .read p) fun _ => keeps_pure _)
  | publish =>
      refine asks_map _ (asks_bind (asks_async self _ rfl _) fun status => ?_)
      cases status with
      | ok => exact keeps_pure ()
      | timeout | socketError | unexpectedState | other _ => exact keeps_throw _
  | rpc r => exact asks_request self _ hop []

/-- `Queue::consume` calls one method. -/
theorem consume_asks (self : Queue) {F : CFunction → Bool} (hF : F .basicConsume = true)
    (consumerTag : String) (noLocal noAck exclusive : Bool) (args : List TableEntry) :
    Keeps (World.Asks (self.channel_.Logs F) self.channel_.handle)
      (self.consume consumerTag noLocal noAck exclusive args) :=
  asks_withArguments fun table =>
    asks_bind (asks_tabled self.channel_ _ hF table _) fun p =>
      keeps_bind (does_load .read p) fun _ => does_containerString .read _

theorem queueOp_asks (self : Queue) {op : QueueOp} (hop : op.regular = true) :
    Keeps (World.Asks (self.channel_.Logs CFunction.ofChannel) self.channel_.handle)
      (op.code self) := by
  cases op with
  | declare =>
      exact asks_map _ (asks_withArguments fun table =>
        asks_tabled self.channel_ _ rfl table _)
  | bind | unbind =>
      exact asks_map _ (asks_withArguments fun table =>
        asks_drop (asks_tabled self.channel_ _ rfl table _))
  | consume => exact asks_map _ (consume_asks self rfl _ _ _ _ _)
  | remove =>
      exact asks_map _ (asks_bind (asks_sync self.channel_ _ rfl _) fun p =>
        keeps_bind (does_load .read p) fun _ => keeps_pure _)
  | purge =>
      exact asks_map _ (asks_bind (asks_sync self.channel_ _ rfl _) fun p =>
        keeps_bind (does_load .read p) fun _ => keeps_pure _)
  | rpc r => exact asks_request self.channel_ _ hop _

theorem exchangeOp_asks (self : Exchange) {op : ExchangeOp} (hop : op.regular = true) :
    Keeps (World.Asks (self.channel_.Logs CFunction.ofChannel) self.channel_.handle)
      (op.code self) := by
  cases op with
  | declare | bind | unbind =>
      exact asks_map _ (asks_withArguments fun table =>
        asks_drop (keeps_noexcept (asks_tabled self.channel_ _ rfl table _)))
  | remove => exact asks_map _ (asks_drop (keeps_noexcept (asks_sync self.channel_ _ rfl _)))
  | rpc r => exact keeps_noexcept (asks_request self.channel_ _ hop _)

end Operations

/-! ## Consume calls -/

/-- What a consume call logs itself. -/
inductive Connection.Logs (self : Connection) : Event → Prop
  | wait {f : CFunction} {args : List Arg}
      (hf : f = .consumeMessage ∨ f = .simpleWaitFrameNoblock ∨ f = .readMessage) :
      Logs self (.call f self.connection_ args)
  | release : Logs self (.call .maybeReleaseBuffers self.connection_ [])
  | envelope (ident : Nat) : Logs self (.destroyEnvelope ident)
  | message (ident : Nat) : Logs self (.destroyMessage ident)

section Consume

variable {P : Event → Prop}

theorem does_tell {f : World → World} (hf : ∀ w, ∃ e, (f w).log = w.log ++ [e] ∧ P e)
    (hnext : ∀ w, (f w).nextHandle = w.nextHandle) :
    Keeps (World.Does P) (modify f : Code World Exc Unit) := by
  refine keeps_modify fun w => ?_
  obtain ⟨e, hlog, he⟩ := hf w
  exact .of_tell hlog he (hnext w)

theorem does_destroyEnvelope (hP : ∀ ident, P (.destroyEnvelope ident)) (e : Envelope) :
    Keeps (World.Does P) (Envelope.destroy e : Code World Exc Unit) :=
  keeps_ite (keeps_pure ()) (does_tell (fun _ => ⟨_, rfl, hP _⟩) fun _ => rfl)

theorem does_destroyMessage (hP : ∀ ident, P (.destroyMessage ident)) (m : Message) :
    Keeps (World.Does P) (Message.destroy m : Code World Exc Unit) :=
  keeps_ite (keeps_pure ()) (does_tell (fun _ => ⟨_, rfl, hP _⟩) fun _ => rfl)

theorem does_newIdent : Keeps (World.Does P) (newIdent : Code World Exc Nat) :=
  keeps_of_run newIdent_run fun _ => .of_log_eq rfl rfl

variable {self : Connection} (hP : ∀ e, self.Logs e → P e)

include hP in
theorem does_wait {α : Type} {c : Code World Exc α} {v : World → α} {f : CFunction}
    {args : List Arg} {g : World → World}
    (hf : f = .consumeMessage ∨ f = .simpleWaitFrameNoblock ∨ f = .readMessage)
    (hc : ∀ w, c.run w = (.ret (v w), g w))
    (hlog : ∀ w, (g w).log = w.log ++ [.call f self.connection_ args])
    (hnext : ∀ w, (g w).nextHandle = w.nextHandle) : Keeps (World.Does P) c := by
  refine keeps_of_run hc fun w => ?_
  exact .of_tell (hlog w) (hP _ (.wait hf)) (hnext w)

variable [Library]

theorem does_clockNow : Keeps (World.Does P) (clockNow : Code World Exc ClockDuration) :=
  keeps_of_run (fun w => clockNow_run w) fun _ => .of_log_eq rfl rfl

theorem does_secondTimeout (start : ClockDuration) (tv : Option Timeval) :
    Keeps (World.Does P) (Connection.secondTimeout start tv) := by
  cases tv with
  | none => exact keeps_pure none
  | some tv => exact keeps_bind does_clockNow fun _ => keeps_pure _

/-! `S` is about the world and what the callbacks captured; it lets the world go on. -/

variable {L : Type} {S : L × World → L × World → Prop} [Std.Refl S] [IsTrans (L × World) S]
  (hS : ∀ l w w', w.Does P w' → S (l, w) (l, w'))

include hP hS

theorem consumeReturn_keeps (frame : Frame) (decoded : BasicReturn Bytes)
    {returnedMessageCallback : Callback ReturnedMessage L}
    (hreturned : Keeps (Beneath S) returnedMessageCallback) :
    Keeps S (self.consumeReturn frame decoded returnedMessageCallback) := by
  have hmessage (m : Message) :=
    keeps_beside_of hS (does_destroyMessage (fun i => hP _ (.message i)) m)
  refine keeps_bind (keeps_beside_of hS does_newIdent) fun ident => ?_
  refine keeps_withLocal hmessage ?_
  refine keeps_bind (keeps_beside (keeps_beside_of hS (does_wait hP (.inr (.inr rfl))
    (fun _ => rfl) (fun _ => rfl) fun _ => rfl))) ?_
  rintro ⟨reply, memory⟩
  refine keeps_bind (keeps_modify fun s => refl s.2) fun _ => ?_
  refine keeps_bind (keeps_ofExcept _) fun _ => keeps_bind keeps_get ?_
  rintro ⟨message, s⟩
  refine keeps_bind (keeps_modify fun s => refl s.2) fun _ => ?_
  refine keeps_bind (keeps_beside (hmessage _)) fun _ => ?_
  refine keeps_bind (keeps_beside (keeps_withLocal (fun r => hmessage r.message_) hreturned))
    fun _ => ?_
  exact keeps_pure true

theorem consumeFrame_keeps (tv : Option Timeval) (start : ClockDuration) (reply : RpcReply)
    {returnedMessageCallback : Callback ReturnedMessage L}
    {acknowledgeCallback : AcknowledgeCallback L}
    (hreturned : Keeps (Beneath S) returnedMessageCallback)
    (hacknowledge : ∀ ack, Keeps S (acknowledgeCallback ack)) :
    Keeps S (self.consumeFrame tv start reply returnedMessageCallback acknowledgeCallback) := by
  refine keeps_bind (keeps_beside_of hS (does_secondTimeout start tv)) fun tv => ?_
  refine keeps_bind (keeps_beside_of hS (does_wait hP (.inr (.inl rfl)) (fun _ => rfl)
    (fun _ => rfl) fun _ => rfl)) ?_
  rintro ⟨status, ⟨channel, payload⟩⟩
  dsimp only
  cases status with
  | timeout => exact keeps_pure false
  | socketError | unexpectedState | other _ => exact keeps_throw _
  | ok =>
      cases payload with
      | other _ => exact keeps_throw _
      | method m =>
          dsimp only
          cases m.decoded with
          | basicAck decoded => exact keeps_bind (hacknowledge decoded) fun _ => keeps_pure true
          | basicReturn decoded => exact consumeReturn_keeps hP hS _ _ hreturned
          | channelClose _ | connectionClose _ | other _ => exact keeps_throw _

/-- A consume call logs its waits, what it destroys and the release; the rest is what its
callbacks do. -/
theorem consumeImpl_keeps (tv : Option Timeval) {envelopeCallback : Callback Envelope L}
    {returnedMessageCallback : Callback ReturnedMessage L}
    {acknowledgeCallback : AcknowledgeCallback L}
    (henvelope : Keeps (Beneath S) envelopeCallback)
    (hreturned : Keeps (Beneath S) returnedMessageCallback)
    (hacknowledge : ∀ ack, Keeps S (acknowledgeCallback ack)) :
    Keeps S (self.consumeImpl tv envelopeCallback returnedMessageCallback
      acknowledgeCallback) := by
  have hrelease : Keeps (World.Does P)
      (amqpMaybeReleaseBuffers self.connection_ : Code World Exc Unit) :=
    does_tell (fun _ => ⟨_, rfl, hP _ .release⟩) fun _ => rfl
  refine keeps_scopeExit (keeps_beside_of hS hrelease) (keeps_bind
    (keeps_beside_of hS does_newIdent) fun ident => ?_)
  refine keeps_withLocal (fun e =>
    keeps_beside_of hS (does_destroyEnvelope (fun i => hP _ (.envelope i)) e)) ?_
  refine keeps_bind (keeps_beside (keeps_beside_of hS does_clockNow)) fun start => ?_
  refine keeps_bind (keeps_beside (keeps_beside_of hS (does_wait hP (.inl rfl) (fun _ => rfl)
    (fun _ => rfl) fun _ => rfl))) ?_
  rintro ⟨reply, memory⟩
  refine keeps_bind (keeps_modify fun s => refl s.2) fun _ => ?_
  cases reply.replyType with
  | none | serverException | other _ => exact keeps_throw _
  | normal =>
      exact keeps_ite (keeps_pure false) (keeps_bind henvelope fun _ => keeps_pure true)
  | libraryException =>
      dsimp only
      cases reply.libraryError with
      | unexpectedState =>
          exact keeps_beside (consumeFrame_keeps hP hS tv start reply hreturned hacknowledge)
      | timeout => exact keeps_pure false
      | ok | socketError | other _ => exact keeps_throw _

end Consume

/-! ## Callbacks -/

/-- The operations that a script makes. -/
def Script.operations (script : Script) : List Operation := script.before ++ script.after

def Callbacks.operations (cbs : Callbacks) : List Operation :=
  cbs.envelope.operations ++ cbs.returned.operations ++ cbs.acknowledgeOps

section Callbacks

variable [Library] {P : Event → Prop}

theorem operate_does {ops : List Operation} (hops : ∀ op ∈ ops, Keeps (World.Does P) op.code) :
    Keeps (World.Does P) (operate ops) := by
  induction ops with
  | nil => exact keeps_pure ()
  | cons op ops ih =>
      have hop : Keeps (World.Does P) (attempt op) :=
        keeps_tryCatch (keeps_bind (hops op List.mem_cons_self) fun _ => keeps_pure ())
          fun _ => keeps_pure ()
      exact keeps_bind hop fun _ => ih fun op' hmem => hops op' (List.mem_cons_of_mem _ hmem)

omit [Library] in
theorem exitCode_does (exit : Option Nat) : Keeps (World.Does P) (exitCode exit) := by
  cases exit with
  | none => exact keeps_pure ()
  | some tag => exact keeps_throw _

theorem script_does {O : Type} {C : Passed O} (hends : ∀ intact, P (.lifeEnds intact))
    (hdestroy : ∀ o, Keeps (World.Does P) (C.destroy o)) {script : Script}
    (hops : ∀ op ∈ script.operations, Keeps (World.Does P) op.code) :
    Keeps (Beneath (World.Does P)) (script.code C) := by
  induction script with
  | forward script ih => exact keeps_passByValue hdestroy (ih hops)
  | constRef ops exit =>
      have hops : ∀ op ∈ ops, Keeps (World.Does P) op.code :=
        fun op hmem => hops op (List.mem_append_left _ hmem)
      refine keeps_passByRef fun o => keeps_bind (operate_does hops) fun _ => ?_
      exact keeps_bind (does_tell (fun w => ⟨_, rfl, hends _⟩) fun _ => rfl)
        fun _ => exitCode_does exit
  | byValue before keep after exit =>
      have hbefore : ∀ op ∈ before, Keeps (World.Does P) op.code :=
        fun op hmem => hops op (List.mem_append_left _ hmem)
      have hafter : ∀ op ∈ after, Keeps (World.Does P) op.code :=
        fun op hmem => hops op (List.mem_append_right _ hmem)
      have hkeep : Keeps (Beneath (World.Does P)) (C.keepOn keep) := by
        refine keeps_modify fun (v, w) => ?_
        cases keep with
        | true => exact .of_log_eq rfl rfl
        | false => exact refl w
      have hnote : Keeps (Beneath (World.Does P)) C.noteEnd := by
        refine keeps_modify fun (v, w) => ?_
        dsimp only
        split
        · exact refl w
        · exact World.Does.of_tell rfl (hends _) rfl
      exact keeps_passByValue hdestroy <| keeps_bind (keeps_beside (operate_does hbefore))
        fun _ => keeps_bind hkeep fun _ => keeps_bind (keeps_beside (operate_does hafter))
          fun _ => keeps_bind hnote fun _ => keeps_beside (exitCode_does exit)

/-- A consume call with the callbacks logs what it logs itself, what their operations log,
and ends of lives. -/
theorem consumeWith_does {self : Connection} (hP : ∀ e, self.Logs e → P e)
    (hends : ∀ intact, P (.lifeEnds intact)) (tv : Option Timeval) {cbs : Callbacks}
    (hops : ∀ op ∈ cbs.operations, Keeps (World.Does P) op.code) :
    Keeps (World.Does P) (self.consumeWith tv cbs) := by
  have henvelope (e : Envelope) := does_destroyEnvelope (fun i => hP _ (.envelope i)) e
  have hmessage (m : Message) := does_destroyMessage (fun i => hP _ (.message i)) m
  intro w
  refine consumeImpl_keeps (S := Beneath (World.Does P)) hP (fun _ _ _ h => h) tv
    (keeps_past (script_does hends henvelope ?_))
    (keeps_past (script_does hends (fun r => hmessage r.message_) ?_)) (fun _ => ?_) ((), w)
  · intro op hmem
    exact hops op (List.mem_append_left _ (List.mem_append_left _ hmem))
  · intro op hmem
    exact hops op (List.mem_append_left _ (List.mem_append_right _ hmem))
  · refine keeps_beside (keeps_bind (operate_does ?_) fun _ => exitCode_does _)
    intro op hmem
    exact hops op (List.mem_append_right _ hmem)

end Callbacks
end RmqCxx
