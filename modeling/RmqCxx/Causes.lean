/-
# `RmqCxx.Causes` — do exceptions identify the failures that caused them?

A failure is what the library has reported when an exception is made: the reply that was
examined last, the status reported last, and the channel that the broker closed, if it
did.  An exception identifies it if what it carries of the three is right.

A channel that the broker closes is known on three ways.  With a frame comes the channel,
but `processReply` names channel 0 whatever was closed, both after an rpc and when the
content of a returned message could not be read.  The status of a socket error in
`consumeImpl` is AMQP_STATUS_OK.
-/
import RmqCxx.Cpp.Throws
import RmqCxx.FailureReports
import RmqCxx.LifeCycle
import RmqCxx.Arrivals

namespace RmqCxx

open Cpp Code

/-! ## Failures -/

/-- What the library has reported. -/
structure Failure where
  reply : Option RpcReply
  status : Status
  closed : Option ChannelId

/-- The channel that the broker closed, by the reply. -/
def RpcReply.closed (r : RpcReply) : Option ChannelId :=
  match r.replyType, r.reply with
  | .serverException, some ⟨.channelClose _, mem⟩ => some mem.channel
  | _, _ => none

def Frame.closed (f : Frame) : Option ChannelId :=
  match f.payload with
  | .method ⟨.channelClose _, _⟩ => some f.channel
  | _ => none

def RpcReply.failure (r : RpcReply) : Failure := ⟨some r, r.libraryError, r.closed⟩

/-- What the exception carries is what the library reported. -/
def Exc.Identifies (e : Exc) (f : Failure) : Prop :=
  match e with
  | .channelClose id _ => f.closed = some id
  | .socket status _ | .operation status _ => status = f.status ∧ status ≠ .ok
  | .rpc reply _ | .library reply _ | .frame reply _ _ => f.reply = some reply
  | .frameStatus reply status _ => f.reply = some reply ∧ status = f.status ∧ status ≠ .ok
  | _ => True

/-- The reply does not close a channel, or only channel 0. -/
def RpcReply.SparesChannels (r : RpcReply) : Prop :=
  ∀ channel, r.closed = some channel → channel = 0

section Causes

variable [Library] {α β : Type}

/-- `processReply` is right about everything but the channel, which it takes to be 0. -/
theorem processReply_identifies_iff {context : String} {r : RpcReply} {e : Exc}
    (h : Connection.processReply context r = .error e) :
    e.Identifies r.failure ↔ r.SparesChannels := by
  obtain ⟨replyType, reply, libraryError⟩ := r
  have hnone {e : Exc} (he : e.Identifies ⟨some ⟨replyType, reply, libraryError⟩, libraryError,
      RpcReply.closed ⟨replyType, reply, libraryError⟩⟩)
      (hclosed : RpcReply.closed ⟨replyType, reply, libraryError⟩ = none) :
      e.Identifies (RpcReply.failure ⟨replyType, reply, libraryError⟩) ↔
        RpcReply.SparesChannels ⟨replyType, reply, libraryError⟩ := by
    refine iff_of_true he fun channel h => ?_
    rw [hclosed] at h
    cases h
  cases replyType with
  | normal => cases h
  | none =>
      cases h
      exact hnone rfl rfl
  | libraryException =>
      cases h
      exact hnone rfl rfl
  | other code =>
      cases h
      exact hnone rfl rfl
  | serverException =>
      cases reply with
      | none =>
          cases h
          exact hnone rfl rfl
      | some m =>
          obtain ⟨decoded, mem⟩ := m
          cases decoded with
          | connectionClose _ =>
              cases h
              exact hnone trivial rfl
          | basicAck _ | basicReturn _ | other _ =>
              cases h
              exact hnone rfl rfl
          | channelClose _ =>
              cases h
              constructor
              · intro hchannel channel hclosed
                exact Option.some.inj (hclosed.symm.trans hchannel)
              · intro hspares
                exact congrArg some (hspares mem.channel rfl)

/-- The exception is a `ChannelCloseException`. -/
def Exc.IsChannelClose (e : Exc) : Prop := ∃ id what, e = .channelClose id what

theorem processReply_identifies {context : String} {r : RpcReply} {e : Exc}
    (h : Connection.processReply context r = .error e) :
    e.Identifies r.failure ∨ e.IsChannelClose := by
  rcases processReply_error h with ⟨what, rfl⟩ | ⟨what, rfl⟩ | ⟨what, rfl⟩ | ⟨what, rfl⟩
  · exact Or.inl rfl
  · exact Or.inl rfl
  · exact Or.inr ⟨_, _, rfl⟩
  · exact Or.inl trivial

omit [Library] in
theorem spares_of_normal {r : RpcReply} (h : r.replyType = .normal) : r.SparesChannels := by
  obtain ⟨replyType, reply, libraryError⟩ := r
  cases h
  intro channel hclosed
  cases hclosed

/-! ## Operations -/

/-- The code is left by the exception in the verdict, or else by a `ChannelException`. -/
structure ThrowsAs (c : Code World Exc α) (w : World) (verdict : Except Exc Unit) : Prop where
  throws (e : Exc) : verdict = .error e → c.Throws w e
  only (e : Exc) : c.Throws w e → verdict = .error e ∨ ∃ channel what, e = .channel channel what

section ThrowsAs

variable {c : Code World Exc α} {k : α → Code World Exc β} {w : World}
  {verdict : Except Exc Unit}

omit [Library] in
theorem throwsAs_of_checked {a : α} (h : (c.run w).1 = .checked a verdict) :
    ThrowsAs c w verdict := by
  cases verdict with
  | ok _ => exact ⟨(fun e he => nomatch he), (fun e he => nomatch h.symm.trans he)⟩
  | error e =>
      refine ⟨fun e' he' => ?_, fun e' he' => Or.inl ?_⟩
      · cases he'
        exact h
      · exact congrArg _ (Outcome.thrown.inj (h.symm.trans he'))

omit [Library] in
theorem ThrowsAs.map (h : ThrowsAs c w verdict) (f : α → β) : ThrowsAs (f <$> c) w verdict :=
  ⟨fun e he => (throws_map_iff f).mpr (h.throws e he),
    fun e he => h.only e ((throws_map_iff f).mp he)⟩

omit [Library] in
/-- What follows throws nothing but `ChannelException`s. -/
theorem ThrowsAs.bind (h : ThrowsAs c w verdict)
    (hk : ∀ a s e, (k a).Throws s e → ∃ channel what, e = .channel channel what) :
    ThrowsAs (c >>= k) w verdict := by
  refine ⟨fun e he => throws_bind_iff.mpr (Or.inl (h.throws e he)), fun e he => ?_⟩
  rcases throws_bind_iff.mp he with hc | ⟨a, s', -, hrest⟩
  · exact h.only e hc
  · exact Or.inr (hk a s' e hrest)

theorem throwsAs_identifies_iff {context : String} {r : RpcReply}
    (h : ThrowsAs c w (Connection.processReply context r)) :
    (∀ e, c.Throws w e → e.Identifies r.failure) ↔ r.SparesChannels := by
  constructor
  · intro hall
    cases hv : Connection.processReply context r with
    | ok _ => exact spares_of_normal (processReply_ok_iff.mp hv)
    | error e => exact (processReply_identifies_iff hv).mp (hall e (h.throws e hv))
  · intro hspares e he
    rcases h.only e he with hv | ⟨channel, what, rfl⟩
    · exact (processReply_identifies_iff hv).mpr hspares
    · exact trivial

end ThrowsAs

/-- The reply that the operation examines. -/
def ChannelOp.examined (op : ChannelOp) (w : World) (h : Handle) : RpcReply :=
  match op with
  | .ack _ _ | .nack _ _ _ | .publish _ _ _ _ _ _ => (w.conns h).lastReply
  | .qos _ _ _ | .flow _ | .recover _ => w.replied h
  | .rpc r => r.reply w h

def Operation.examined (op : Operation) (w : World) : RpcReply :=
  match op with
  | .construct connection _ => w.replied connection.connection_
  | .destruct self => w.replied self.handle
  | .channel self op => op.examined w self.handle
  | .queue self op => (NamedOp.queue self op).reply w
  | .exchange self op => (NamedOp.exchange self op).reply w

/-- Exceptions get out of the operation: not out of a destructor, and not out of
`Exchange::rpc`. -/
def Operation.LetsOut : Operation → Prop
  | .destruct _ | .exchange _ _ => False
  | .construct _ _ | .channel _ _ | .queue _ _ => True

theorem not_throws_load {p : OkPtr} {w : World} {e : Exc} (g : OkMethod Bytes → α) :
    ¬ (do let ok ← p.load; pure (g ok) : Code World Exc α).Throws w e := by
  intro h
  cases h

section Operations

variable {w : World}

/-- The generic rpc, on a channel or through a queue. -/
theorem request_throwsAs (self : Channel) (context : String) (r : Request) (first : List Arg) :
    ThrowsAs (self.rpcWith context (r.code first)) w
      (self.verdict context (r.reply w self.handle)) := by
  cases hs : r.synchronous with
  | true =>
      have hrun : (self.rpcWith context (r.code first)).run w = _ :=
        Channel.rpcWith_of_ret (r.code_of_sync hs first self.handle self.channel_ w)
      rw [World.afterSync_lastReply] at hrun
      rw [Request.reply, if_pos hs]
      exact throwsAs_of_checked (congrArg Prod.fst hrun)
  | false =>
      have hrun : (self.rpcWith context (r.code first)).run w = _ :=
        Channel.rpcWith_of_ret (r.code_of_async hs first self.handle self.channel_ w)
      rw [World.afterAsync_lastReply] at hrun
      rw [Request.reply, if_neg (Bool.eq_false_iff.mp hs)]
      exact throwsAs_of_checked (congrArg Prod.fst hrun)

theorem channelOp_throwsAs (self : Channel) (op : ChannelOp) :
    ThrowsAs (op.code self) w (self.verdict self.context_ (op.examined w self.handle)) := by
  have hasync {f : CFunction} {args : List Arg} :
      ThrowsAs (self.rpc (fun c channel => amqpAsync f c channel args)) w
        (self.verdict self.context_ (w.conns self.handle).lastReply) :=
    throwsAs_of_checked (congrArg Prod.fst (Channel.rpcWith_async rfl))
  have hsync {f : CFunction} {args : List Arg} :
      ThrowsAs (self.rpc (fun c channel => amqpSync f c channel args)) w
        (self.verdict self.context_ (w.replied self.handle)) :=
    throwsAs_of_checked (congrArg Prod.fst (Channel.rpcWith_sync rfl))
  cases op with
  | ack tag multiple => exact hasync.map _
  | nack tag multiple requeue => exact hasync.map _
  | qos prefetchCount perChannel prefetchSize =>
      exact (hsync.bind fun _ _ _ h => (not_throws_pure _ h).elim).map _
  | recover requeue => exact (hsync.bind fun _ _ _ h => (not_throws_pure _ h).elim).map _
  | flow active => exact (hsync.bind fun _ _ _ h => (not_throws_load _ h).elim).map _
  | publish exchange routingKey mandatory immediate body properties =>
      refine (hasync.bind fun status s e h => ?_).map _
      cases status with
      | ok => exact (not_throws_pure _ h).elim
      | timeout | socketError | unexpectedState | other _ =>
          exact ⟨_, _, (throws_throw_iff.mp h).symm⟩
  | rpc r => exact request_throwsAs self self.context_ r []

theorem construct_throwsAs (connection : Connection) (id : ChannelId) :
    ThrowsAs (Operation.construct connection id).code w
      (Connection.processReply
        (connection.context_ ++ ("Channel(" ++ toString id.toNat ++ "): "))
        (w.replied connection.connection_)) := by
  have hcall : (amqpChannelOpen connection.connection_ id : Code World Exc OkPtr).run w =
      (.ret (w.okPtr connection.connection_ id),
        w.afterSync connection.connection_ .channelOpen id []) := rfl
  have hrun : (connection.rpcWith true ("Channel(" ++ toString id.toNat ++ "): ")
      (amqpChannelOpen · id)).run w = _ := Connection.rpcWith_of_ret hcall
  rw [World.afterSync_lastReply] at hrun
  have hopen := throwsAs_of_checked (congrArg Prod.fst hrun)
  have hmake := hopen.bind (k := fun _ =>
    (pure ⟨connection, id, "Channel(" ++ toString id.toNat ++ "): ", false⟩ :
      Code World Exc Channel)) fun _ _ _ h => (not_throws_pure _ h).elim
  exact hmake.map Value.channel

theorem exchangeOp_not_throws (self : Exchange) (op : ExchangeOp) (e : Exc) :
    ¬ (op.code self).Throws w e := by
  intro h
  have hsealed : ((op.code self).run w).1 = _ := (exchangeOp_sealed self op w).2
  rw [show ((op.code self).run w).1 = .thrown e from h] at hsealed
  generalize Outcome.checked _ _ = o at hsealed
  cases o <;> cases hsealed

/-- The exceptions of an operation identify the failure if and only if the reply it examines
spares the channels, or exceptions do not get out. -/
theorem operation_identifies_iff (op : Operation) (w : World) :
    (∀ e, op.code.Throws w e → e.Identifies (op.examined w).failure) ↔
      (op.LetsOut → (op.examined w).SparesChannels) := by
  have hsilent (hnot : ∀ e, ¬ op.code.Throws w e) (hletsOut : ¬ op.LetsOut) :
      (∀ e, op.code.Throws w e → e.Identifies (op.examined w).failure) ↔
        (op.LetsOut → (op.examined w).SparesChannels) :=
    iff_of_true (fun e he => (hnot e he).elim) (fun h => (hletsOut h).elim)
  have hout {p q : Prop} (h : p ↔ q) : p ↔ (True → q) := h.trans true_imp_iff.symm
  cases op with
  | construct connection id =>
      exact hout (throwsAs_identifies_iff (construct_throwsAs connection id))
  | channel self op =>
      exact hout (throwsAs_identifies_iff (channelOp_throwsAs self op))
  | queue self op =>
      exact hout (throwsAs_identifies_iff (throwsAs_of_checked (queueOp_reports self op w).2))
  | destruct self =>
      exact hsilent (fun e h => not_throws_noexcept ((throws_map_iff _).mp h)) id
  | exchange self op => exact hsilent (exchangeOp_not_throws self op) id

/-- The public `Connection::rpc`: what leaves it left the callable, or is made of the reply on
record after that. -/
theorem connection_rpc_throws {self : Connection} {f : Handle → Code World Exc α} {e : Exc}
    (h : (self.rpc f).Throws w e) :
    (f self.connection_).Throws w e ∨
      e.Identifies (((f self.connection_).run w).2.conns self.connection_).lastReply.failure ∨
      e.IsChannelClose := by
  rcases hr : (f self.connection_).run w with ⟨a | e' | _, w'⟩
  · have hrun : (self.rpc f).run w = _ := Connection.rpcWith_of_ret hr
    rw [Throws, hrun] at h
    dsimp only at h
    cases hv : Connection.processReply (self.context_ ++ "")
        (w'.conns self.connection_).lastReply with
    | ok _ =>
        rw [hv] at h
        cases h
    | error e' =>
        rw [hv] at h
        cases h
        exact Or.inr (processReply_identifies hv)
  · have hrun : (self.rpc f).run w = _ := Connection.rpcWith_of (by simp) hr
    rw [Throws, hrun] at h
    dsimp only at h
    cases hv : Connection.processReply (self.context_ ++ "")
        (w'.conns self.connection_).lastReply with
    | ok _ =>
        rw [hv] at h
        cases h
        exact Or.inl (by rw [Throws, hr])
    | error e'' =>
        rw [hv] at h
        cases h
  · have hend : ((self.rpc f).run w).1 = .terminate := scopeExit_terminate (by rw [hr])
    cases hend.symm.trans h

end Operations

/-! ## The constructor of Connection -/

section Constructor

variable {self : Connection} {n : Nat} {w : World} {e : Exc}

/-- What the library has reported when the constructor of a connection fails, after the handle
`h` was created; a null socket counts as a socket error. -/
def setUpFailure (h : Handle) (handshake : Bool) (w : World) : Failure :=
  if Library.tcpSocketNew w.calls = false then ⟨none, .socketError, none⟩
  else if Library.socketOpenNoblock (w.calls + 1) ≠ .ok then
    ⟨none, Library.socketOpenNoblock (w.calls + 1), none⟩
  else if handshake = true ∧ Library.setHandshakeTimeout (w.calls + 2) ≠ .ok then
    ⟨none, Library.setHandshakeTimeout (w.calls + 2), none⟩
  else ((w.conns h).placeReply h (Library.login (w.calls + 2 + handshake.toNat))).failure

/-- The constructor is given a handshake timeout. -/
def Setup.handshake : Setup → Bool
  | .full _ _ _ _ _ _ _ handshakeTimeout _ _ _ => handshakeTimeout.isSome
  | .plain .. | .external .. => false

def Setup.failure (setup : Setup) (w : World) : Failure :=
  setUpFailure (some w.nextHandle) setup.handshake w.tick

/-- A step of the constructor that asks the library for a status: it returns if that is OK, and
throws otherwise. -/
structure Asks (c : Code World Exc Unit) (w : World) (status : Status) (e : Exc) : Prop where
  returns : status = .ok →
    ∃ w', c.run w = (.ret (), w') ∧ w'.calls = w.calls + 1 ∧ w'.conns = w.conns
  throws : status ≠ .ok → c.Throws w e

theorem openSocket_asks (h : self.connection_ = some n) {p : Period} (address : String)
    (port : Int) (timeout : Duration p) :
    Asks (self.openSocket address port timeout) w (Library.socketOpenNoblock w.calls)
      (.socket (Library.socketOpenNoblock w.calls) "Failed to open socket!") := by
  have hcall : (amqpSocketOpenNoblock self.connection_ address port (timeValue timeout) :
      Code World Exc Status).run w = (.ret (Library.socketOpenNoblock w.calls), _) := rfl
  refine ⟨fun hok => ?_, fun hne => ?_⟩
  · rw [Connection.openSocket, bind_of_ret hcall, if_neg (not_not_intro hok)]
    exact ⟨_, rfl, rfl, rfl⟩
  · rw [Throws, Connection.openSocket, bind_of_ret hcall, if_pos hne,
      bind_of_ret (close_run_some h _)]
    rfl

theorem setHandshakeTimeout_asks (h : self.connection_ = some n) {p : Period}
    (timeout : Duration p) :
    Asks (self.setHandshakeTimeout (some timeout)) w (Library.setHandshakeTimeout w.calls)
      (.operation (Library.setHandshakeTimeout w.calls) "Failed to set handshake timeout!") := by
  have hcall : (amqpSetHandshakeTimeout self.connection_ (timeValue timeout) :
      Code World Exc Status).run w = (.ret (Library.setHandshakeTimeout w.calls), _) := rfl
  refine ⟨fun hok => ?_, fun hne => ?_⟩
  · rw [Connection.setHandshakeTimeout, bind_of_ret hcall, if_neg (not_not_intro hok)]
    exact ⟨_, rfl, rfl, rfl⟩
  · rw [Throws, Connection.setHandshakeTimeout, bind_of_ret hcall, if_pos hne,
      bind_of_ret (close_run_some h _)]
    rfl

omit [Library] in
theorem throws_of_ret {c : Code World Exc α} {k : α → Code World Exc β} {a : α} {w' : World}
    (hc : c.run w = (.ret a, w')) (he : (c >>= k).Throws w e) : (k a).Throws w' e := by
  rwa [Throws, bind_of_ret hc] at he

/-- Logging in throws what `processReply` makes of its reply. -/
theorem login_throws (h : self.connection_ = some n) {vhost : String}
    {maxChannels maxFrameSize heartbeat : Int} {properties : Option RawTable}
    {saslMethod : SaslMethod} {args : List String}
    (he : (self.login vhost maxChannels maxFrameSize heartbeat properties saslMethod args).Throws
      w e) :
    e.Identifies ((w.conns (some n)).placeReply (some n) (Library.login w.calls)).failure ∨
      e.IsChannelClose := by
  have hreply {r : RpcReply} {context : String} {w : World}
      (he : (tryCatch (ofExcept (Connection.processReply context r))
        (fun e => do self.close; throw e) : Code World Exc Unit).Throws w e) :
      e.Identifies r.failure ∨ e.IsChannelClose := by
    rw [throws_rethrow_iff (fun s => by rw [close_run_some h])] at he
    cases hv : Connection.processReply context r with
    | ok _ =>
        rw [hv] at he
        exact (not_throws_pure () he).elim
    | error e' =>
        rw [hv] at he
        cases throws_throw_iff.mp he
        exact processReply_identifies hv
  rw [Connection.login.eq_def, h] at he
  cases properties with
  | none =>
      dsimp only at he
      have he := throws_of_ret rfl he
      exact hreply he
  | some properties =>
      dsimp only at he
      have he := throws_of_ret rfl he
      exact hreply he

theorem setUp_throws {p q : Period} (h : self.connection_ = some n) {address : String}
    {port : Int} {vhost : String} {maxChannels maxFrameSize heartbeat : Int}
    {connectTimeout : Duration p} {handshakeTimeout : Option (Duration q)}
    {properties : Option RawTable} {saslMethod : SaslMethod} {args : List String}
    (he : (self.setUp address port vhost maxChannels maxFrameSize heartbeat connectTimeout
      handshakeTimeout properties saslMethod args).Throws w e) :
    e.Identifies (setUpFailure (some n) handshakeTimeout.isSome w) ∨ e.IsChannelClose := by
  rw [Connection.setUp, if_neg (by rw [h]; exact Bool.false_ne_true)] at he
  have he := throws_of_ret rfl he
  rw [setUpFailure]
  by_cases hsocket : Library.tcpSocketNew w.calls = false
  · rw [if_pos hsocket] at he ⊢
    cases throws_throw_iff.mp he
    exact Or.inl ⟨rfl, by simp⟩
  rw [if_neg hsocket] at he ⊢
  generalize hw₁ : w.tick.tell (.tcpSocketNew self.connection_ _) = w₁ at he
  have hcalls : w₁.calls = w.calls + 1 := by rw [← hw₁]; rfl
  have hconns : w₁.conns = w.conns := by rw [← hw₁]; rfl
  have hopen := openSocket_asks (w := w₁) h address port connectTimeout
  rw [hcalls] at hopen
  by_cases hok : Library.socketOpenNoblock (w.calls + 1) = .ok
  · rw [if_neg (not_not_intro hok)]
    obtain ⟨w₂, hrun, hcalls₂, hconns₂⟩ := hopen.returns hok
    have he := throws_of_ret hrun he
    rw [hcalls] at hcalls₂
    rw [hconns] at hconns₂
    cases handshakeTimeout with
    | none =>
        have he := throws_of_ret (run_pure () w₂) he
        have hlogin := login_throws h he
        rwa [hcalls₂, hconns₂] at hlogin
    | some timeout =>
        have hset := setHandshakeTimeout_asks (w := w₂) h timeout
        rw [hcalls₂] at hset
        by_cases hok₂ : Library.setHandshakeTimeout (w.calls + 2) = .ok
        · obtain ⟨w₃, hrun₂, hcalls₃, hconns₃⟩ := hset.returns hok₂
          have he := throws_of_ret hrun₂ he
          have hlogin := login_throws h he
          rw [hcalls₂] at hcalls₃
          rw [hcalls₃, hconns₃, hconns₂] at hlogin
          rwa [if_neg (fun hand => hand.2 hok₂)]
        · have hthrows := hset.throws hok₂
          rcases throws_bind_iff.mp he with hthrown | ⟨_, _, hrun₂, -⟩
          · cases hthrows.symm.trans hthrown
            rw [if_pos ⟨rfl, hok₂⟩]
            exact Or.inl ⟨rfl, hok₂⟩
          · rw [Throws, hrun₂] at hthrows
            cases hthrows
  · have hthrows := hopen.throws hok
    rcases throws_bind_iff.mp he with hthrown | ⟨_, _, hrun, -⟩
    · cases hthrows.symm.trans hthrown
      rw [if_pos hok]
      exact Or.inl ⟨rfl, hok⟩
    · rw [Throws, hrun] at hthrows
      cases hthrows

theorem make_throws {p q : Period} {address : String} {port : Int} {vhost : String}
    {maxChannels maxFrameSize heartbeat : Int} {connectTimeout : Duration p}
    {handshakeTimeout : Option (Duration q)} {properties : Option RawTable}
    {saslMethod : SaslMethod} {args : List String}
    (he : (Connection.make address port vhost maxChannels maxFrameSize heartbeat connectTimeout
      handshakeTimeout properties saslMethod args).Throws w e) :
    e.Identifies (setUpFailure (some w.nextHandle) handshakeTimeout.isSome w.tick) ∨
      e.IsChannelClose := by
  rw [Connection.make] at he
  rcases throws_bind_iff.mp he with hnew | ⟨handle, w₁, hnew, he⟩
  · rw [Throws, amqpNewConnection] at hnew
    dsimp only at hnew
    split at hnew <;> cases hnew
  rcases throws_bind_iff.mp he with hsetUp | ⟨_, _, -, hpure⟩
  · cases hcreated : Library.newConnection w.calls with
    | false =>
        simp only [amqpNewConnection, hcreated] at hnew
        cases hnew
        rw [throws_constructing_iff (fun _ => rfl)] at hsetUp
        cases throws_throw_iff.mp hsetUp
        exact Or.inl trivial
    | true =>
        simp only [amqpNewConnection, hcreated] at hnew
        cases hnew
        rw [throws_constructing_iff (fun _ => rfl)] at hsetUp
        have hthrows := setUp_throws rfl hsetUp
        exact hthrows
  · exact (not_throws_pure _ hpure).elim

/-- An exception that leaves the constructor of a connection identifies the failure, unless it is
a `ChannelCloseException`. -/
theorem setup_throws {setup : Setup} (he : setup.code.Throws w e) :
    e.Identifies (setup.failure w) ∨ e.IsChannelClose := by
  cases setup with
  | full => exact make_throws he
  | plain => exact make_throws he
  | external => exact make_throws he

end Constructor

end Causes

end RmqCxx
