/-
# `RmqCxx.LifeCycle` — the life of a connection handle

Objects of class `Connection` are constructed, through any of the constructors,
moved, used and destroyed in any order, while the library answers what it likes.
Each handle that `amqp_new_connection` returned is at every moment in one of two
situations: exactly one object holds it, and it was neither closed nor destroyed;
or no object holds it, its calls end with the one destroy, and it was closed once,
before that, exactly when it had a socket.

The record of a handle (`record`) is the log cut down to the calls that received
it.  A step of the machine adds to the record of at most one handle, and either
keeps that handle open or finishes it.
-/
import RmqCxx.Operation
import RmqCxx.Cpp.Ownership

namespace RmqCxx

open Cpp Code Cpp.Ownership

/-! ## The record of a handle -/

/-- The call received the handle, or returned it. -/
def Event.concerns (h : Handle) : Event → Bool
  | .newConnection h' => h' == h
  | .tcpSocketNew h' _ => h' == h
  | .call _ h' _ => h' == h
  | _ => false

def Event.isClose : Event → Bool
  | .call .connectionClose _ _ => true
  | _ => false

def Event.isDestroy : Event → Bool
  | .call .destroyConnection _ _ => true
  | _ => false

def Event.isSocket : Event → Bool
  | .tcpSocketNew _ created => created
  | _ => false

/-- The calls of the log that received the handle. -/
def record (h : Handle) (log : List Event) : List Event := log.filter (Event.concerns h)

/-- The record of a handle in use: it has a socket, and was not closed. -/
structure Open (calls : List Event) : Prop where
  socket : calls.any Event.isSocket = true
  not_closed : calls.countP Event.isClose = 0
  not_destroyed : calls.countP Event.isDestroy = 0

/-- The record of a handle that is done with: the destroy is the last call, and
before it there was one close if there was a socket, and none otherwise. -/
def Finished (calls : List Event) : Prop :=
  ∃ before last, calls = before ++ [last] ∧ last.isDestroy = true ∧ last.isClose = false ∧
    before.countP Event.isDestroy = 0 ∧
    before.countP Event.isClose = if before.any Event.isSocket then 1 else 0

/-! ## The machine -/

/-- A constructor call, with its arguments. -/
inductive Setup where
  | full {p q : Period} (address : String) (port : Int) (vhost : String)
      (maxChannels maxFrameSize heartbeat : Int) (connectTimeout : Duration p)
      (handshakeTimeout : Option (Duration q)) (properties : Option RawTable)
      (saslMethod : SaslMethod) (args : List String)
  | plain {p : Period} (address : String) (port : Int) (username password vhost : String)
      (maxChannels maxFrameSize heartbeat : Int) (timeout : Duration p)
  | external {p : Period} (address : String) (port : Int) (info vhost : String)
      (maxChannels maxFrameSize heartbeat : Int) (timeout : Duration p)

/-- A callable given to `Connection::rpc`: the C functions it calls with the handle, and the
exception it throws in the end, if it does.  Which functions those are may depend on what they
answer; in a given run it is one list. -/
structure Call where
  requests : List (Request × ChannelId)
  throws : Option Nat

/-- The callable leaves the two functions to the class that end the life of its handle. -/
def Call.Spares (call : Call) : Prop :=
  ∀ r ∈ call.requests, r.1.function ≠ .connectionClose ∧ r.1.function ≠ .destroyConnection

inductive Action where
  | construct (setup : Setup)
  | move (i : Nat)
  | rpc (i : Nat) (call : Call)
  | destroy (i : Nat)

/-- The objects, in the order of their construction, and the world. -/
structure Connections where
  cells : List (Option Connection)
  world : World

def Connections.initial : Connections := ⟨[], .initial⟩

section Machine

variable [Library]

def Setup.code : Setup → Code World Exc Connection
  | .full address port vhost maxChannels maxFrameSize heartbeat connectTimeout handshakeTimeout
      properties saslMethod args =>
      Connection.make address port vhost maxChannels maxFrameSize heartbeat connectTimeout
        handshakeTimeout properties saslMethod args
  | .plain address port username password vhost maxChannels maxFrameSize heartbeat timeout =>
      Connection.makePlain address port username password vhost maxChannels maxFrameSize
        heartbeat timeout
  | .external address port info vhost maxChannels maxFrameSize heartbeat timeout =>
      Connection.makeExternal address port info vhost maxChannels maxFrameSize heartbeat timeout

/-- The calls, one after the other, and the value of the last one. -/
def callAll (c : Handle) (value : Value) : List (Request × ChannelId) → Code World Exc Value
  | [] => pure value
  | (r, channel) :: requests => do
      let value ← r.code [] c channel
      callAll c value requests

def Call.function (call : Call) (c : Handle) : Code World Exc Value := do
  let value ← callAll c .unit call.requests
  match call.throws with
  | none => pure value
  | some tag => throw (.foreign tag)

def Call.code (self : Connection) (call : Call) : Code World Exc Value :=
  self.rpc call.function

/-- One action; exceptions are caught, and one on an object that is not there is
not possible, nor is one that ends the program. -/
def Action.step (action : Action) (s : Connections) : Option Connections :=
  match action with
  | .construct setup =>
      match setup.code.run s.world with
      | (.ret self, w) => some ⟨s.cells ++ [some self], w⟩
      | (_, w) => some ⟨s.cells, w⟩
  | .move i =>
      match s.cells[i]? with
      | some (some other) =>
          let (self, other) := other.moveConstruct
          some ⟨s.cells.set i (some other) ++ [some self], s.world⟩
      | _ => none
  | .rpc i call =>
      match s.cells[i]? with
      | some (some self) =>
          match (call.code self).run s.world with
          | (.terminate, _) => none
          | (_, w) => some ⟨s.cells, w⟩
      | _ => none
  | .destroy i =>
      match s.cells[i]? with
      | some (some self) => some ⟨s.cells.set i none, (self.destroy.run s.world).2⟩
      | _ => none

/-- No action ends the program, but an rpc whose callable throws may; a destructor returns,
and that of an object that was moved from calls nothing. -/
def EndsWell (action : Action) (s : Connections) : Prop :=
  match action with
  | .construct setup => (setup.code.run s.world).1 ≠ .terminate
  | .move _ => True
  | .rpc i call =>
      ∀ self, s.cells[i]? = some (some self) →
        ((call.code self).run s.world).1 = .terminate → call.throws ≠ none
  | .destroy i =>
      ∀ self, s.cells[i]? = some (some self) →
        (self.destroy.run s.world).1 = .ret () ∧
          (self.connection_ = none → (self.destroy.run s.world).2.log = s.world.log)

end Machine

/-- No callable of the application ends the life of a handle. -/
def Action.Spares : Action → Prop
  | .rpc _ call => call.Spares
  | _ => True

/-- Every handle is held by one object at most, and every one that was returned is
held and open, or not held and finished. -/
def WellManaged (s : Connections) : Prop :=
  ∀ n, owners Connection.connection_ n s.cells ≤ 1 ∧
    (.newConnection (some n) ∈ s.world.log →
      (owners Connection.connection_ n s.cells = 1 ∧ Open (record (some n) s.world.log)) ∨
        (owners Connection.connection_ n s.cells = 0 ∧ Finished (record (some n) s.world.log)))

/-! ## What the members do -/

section Members

variable [Library] {self : Connection} {n : Nat}

theorem close_run_none (h : self.connection_ = none) (w : World) :
    self.close.run w = (.ret (), w) := by
  rw [Connection.close, if_pos (by rw [h]; rfl)]
  rfl

/-- `close` makes its two calls and never throws, whatever the reply is. -/
theorem close_run_some (h : self.connection_ = some n) (w : World) :
    self.close.run w = (.ret (),
      (w.afterSync (some n) .connectionClose 0 [.num amqpReplySuccess]).tell
        (.call .getRpcReply (some n) [])) := by
  have hrpc :
      (self.rpcWith false self.context_ (amqpConnectionClose · amqpReplySuccess)).run w = _ :=
    Connection.rpcWith_of_ret rfl
  simp only [Bool.false_eq_true, and_false, if_false] at hrpc
  rw [Connection.close, if_neg (by rw [h]; exact Bool.false_ne_true), run_noexcept,
    swallow_run (Outcome.checked_ne_terminate _ _) hrpc, h]
  rfl

theorem destroy_run_none (h : self.connection_ = none) (w : World) :
    self.destroy.run w = (.ret (), w) := by
  rw [Connection.destroy, run_noexcept, bind_of_ret (close_run_none h w),
    Connection.deleteHandle, if_pos (by rw [h]; rfl)]
  rfl

/-- The destructor closes and then destroys. -/
theorem destroy_run_some (h : self.connection_ = some n) (w : World) :
    self.destroy.run w = (.ret (),
      ((w.afterSync (some n) .connectionClose 0 [.num amqpReplySuccess]).tell
        (.call .getRpcReply (some n) [])).tell (.call .destroyConnection (some n) [])) := by
  rw [Connection.destroy, run_noexcept, bind_of_ret (close_run_some h w),
    Connection.deleteHandle, if_neg (by rw [h]; exact Bool.false_ne_true), h]
  rfl

end Members

/-! ## The constructor -/

section Stage

variable {α β : Type} {n : Nat}

/-- A stage of the constructor that has a socket: it only makes calls with the new
handle, and it either returns without having closed it or throws after closing
it once. -/
def Stage (n : Nat) (c : Code World Exc α) : Prop :=
  ∀ w, ∃ calls, (c.run w).2.log = w.log ++ calls ∧ (c.run w).2.nextHandle = w.nextHandle ∧
    (∀ e ∈ calls, e.concerns (some n) = true ∧ e.isDestroy = false ∧ e.isSocket = false) ∧
    ((∃ a, (c.run w).1 = .ret a ∧ calls.countP Event.isClose = 0) ∨
      ∃ e, (c.run w).1 = .thrown e ∧ calls.countP Event.isClose = 1)

theorem stage_pure (a : α) : Stage n (pure a) := by
  intro w
  exact ⟨[], (List.append_nil _).symm, rfl, List.forall_mem_nil _, .inl ⟨a, rfl, rfl⟩⟩

theorem stage_bind {c : Code World Exc α} {k : α → Code World Exc β} (hc : Stage n c)
    (hk : ∀ a, Stage n (k a)) : Stage n (c >>= k) := by
  intro w
  obtain ⟨calls, hlog, hnext, hcalls, hout⟩ := hc w
  match hr : c.run w with
  | (.ret a, w') =>
      rw [hr] at hlog hnext hout
      rw [bind_of_ret hr]
      obtain ⟨calls', hlog', hnext', hcalls', hout'⟩ := hk a w'
      have hzero : calls.countP Event.isClose = 0 := by
        rcases hout with ⟨_, _, h⟩ | ⟨_, h, _⟩
        · exact h
        · cases h
      refine ⟨calls ++ calls', ?_, hnext'.trans hnext, ?_, ?_⟩
      · rw [hlog', hlog, List.append_assoc]
      · intro e he
        rcases List.mem_append.mp he with he | he
        · exact hcalls e he
        · exact hcalls' e he
      · rw [List.countP_append, hzero, Nat.zero_add]
        exact hout'
  | (.thrown e, w') =>
      rw [hr] at hlog hnext hout
      rw [bind_of_thrown hr]
      refine ⟨calls, hlog, hnext, hcalls, ?_⟩
      rcases hout with ⟨_, h, _⟩ | ⟨_, _, h⟩
      · cases h
      · exact .inr ⟨e, rfl, h⟩
  | (.terminate, w') =>
      rw [hr] at hout
      rcases hout with ⟨_, h, _⟩ | ⟨_, h, _⟩
      · cases h
      · cases h

/-- One call with the handle. -/
theorem stage_call {f : CFunction} {args : World → List Arg} {c : Code World Exc α}
    {v : World → α} {g : World → World} (hf : f ≠ .connectionClose ∧ f ≠ .destroyConnection)
    (hc : ∀ w, c.run w = (.ret (v w), g w))
    (hlog : ∀ w, (g w).log = w.log ++ [.call f (some n) (args w)])
    (hnext : ∀ w, (g w).nextHandle = w.nextHandle) : Stage n c := by
  intro w
  have hclose : (Event.call f (some n) (args w)).isClose = false := by
    cases f with
    | connectionClose => exact absurd rfl hf.1
    | _ => rfl
  have hdestroy : (Event.call f (some n) (args w)).isDestroy = false := by
    cases f with
    | destroyConnection => exact absurd rfl hf.2
    | _ => rfl
  rw [hc]
  refine ⟨[.call f (some n) (args w)], hlog w, hnext w, ?_, .inl ⟨_, rfl, ?_⟩⟩
  · intro e he
    rw [List.mem_singleton.mp he]
    exact ⟨by simp [Event.concerns], hdestroy, rfl⟩
  · simp [hclose]

end Stage

section Constructor

variable [Library] {α : Type} {self : Connection} {n : Nat}

/-- `close(); throw e;` -/
theorem stage_close_throw (h : self.connection_ = some n) (e : Exc) :
    Stage n (do self.close; throw e : Code World Exc α) := by
  intro w
  rw [bind_of_ret (close_run_some h w)]
  refine ⟨[.call .connectionClose (some n) [.channel 0, .num amqpReplySuccess],
    .call .getRpcReply (some n) []], ?_, rfl, ?_, .inr ⟨e, rfl, rfl⟩⟩
  · simp [World.afterSync]
  · simp [Event.concerns, Event.isDestroy, Event.isSocket]

/-- `if (p) { close(); throw e; }` -/
theorem stage_unless (h : self.connection_ = some n) (p : Prop) [Decidable p] (e : Exc) :
    Stage n (if p then (do self.close; throw e) else pure () : Code World Exc Unit) := by
  split
  · exact stage_close_throw h e
  · exact stage_pure ()

/-- `try { processReply(...); } catch(...) { close(); throw; }` -/
theorem stage_login_reply (h : self.connection_ = some n) (r : Except Exc Unit) :
    Stage n (tryCatch (ofExcept r) (fun e => do self.close; throw e) : Code World Exc Unit) := by
  intro w
  cases r with
  | ok _ =>
      have hrun : (ofExcept (.ok ()) : Code World Exc Unit).run w = (.ret (), w) := rfl
      rw [tryCatch_of_ret hrun]
      exact stage_pure () w
  | error e =>
      have hrun : (ofExcept (.error e) : Code World Exc Unit).run w = (.thrown e, w) := rfl
      rw [tryCatch_of_thrown hrun]
      exact stage_close_throw h e w

/-- The steps of the constructor that have a socket. -/
theorem stage_openSocket {p : Period} (h : self.connection_ = some n) (address : String)
    (port : Int) (timeout : Duration p) : Stage n (self.openSocket address port timeout) := by
  unfold Connection.openSocket
  refine stage_bind ?_ (fun status => stage_unless h _ _)
  rw [h]
  exact stage_call (f := .socketOpenNoblock) ⟨by decide, by decide⟩ (fun _ => rfl)
    (fun _ => rfl) (fun _ => rfl)

theorem stage_setHandshakeTimeout {p : Period} (h : self.connection_ = some n)
    (timeout : Option (Duration p)) : Stage n (self.setHandshakeTimeout timeout) := by
  unfold Connection.setHandshakeTimeout
  cases timeout with
  | none => exact stage_pure ()
  | some timeout =>
      refine stage_bind ?_ (fun status => stage_unless h _ _)
      rw [h]
      exact stage_call (f := .setHandshakeTimeout) ⟨by decide, by decide⟩ (fun _ => rfl)
        (fun _ => rfl) (fun _ => rfl)

theorem stage_login (h : self.connection_ = some n) (vhost : String)
    (maxChannels maxFrameSize heartbeat : Int) (properties : Option RawTable)
    (saslMethod : SaslMethod) (args : List String) :
    Stage n (self.login vhost maxChannels maxFrameSize heartbeat properties saslMethod args) := by
  unfold Connection.login
  cases properties with
  | none =>
      refine stage_bind ?_ (fun reply => stage_login_reply h _)
      rw [h]
      exact stage_call (f := .login) ⟨by decide, by decide⟩ (fun _ => rfl) (fun _ => rfl)
        (fun _ => rfl)
  | some properties =>
      refine stage_bind ?_ (fun reply => stage_login_reply h _)
      rw [h]
      exact stage_call (f := .loginWithProperties) ⟨by decide, by decide⟩ (fun _ => rfl)
        (fun _ => rfl) (fun _ => rfl)

/-- The body of the constructor with a handle: it returns with the handle open, or
throws with the handle closed if it had a socket. -/
theorem setUp_run {p q : Period} (h : self.connection_ = some n) (address : String)
    (port : Int) (vhost : String) (maxChannels maxFrameSize heartbeat : Int)
    (connectTimeout : Duration p) (handshakeTimeout : Option (Duration q))
    (properties : Option RawTable) (saslMethod : SaslMethod) (args : List String) (w : World) :
    ∃ o w' calls, (self.setUp address port vhost maxChannels maxFrameSize heartbeat
        connectTimeout handshakeTimeout properties saslMethod args).run w = (o, w') ∧
      w'.log = w.log ++ calls ∧ w'.nextHandle = w.nextHandle ∧
      (∀ e ∈ calls, e.concerns (some n) = true ∧ e.isDestroy = false) ∧
      ((o = .ret () ∧ Open calls) ∨
        ∃ e, o = .thrown e ∧ calls.countP Event.isClose =
          if calls.any Event.isSocket then 1 else 0) := by
  have hsocket : (amqpTcpSocketNew self.connection_ : Code World Exc Bool).run w =
      (.ret (Library.tcpSocketNew w.calls),
        w.tick.tell (.tcpSocketNew (some n) (Library.tcpSocketNew w.calls))) := by
    rw [h]
    rfl
  rw [Connection.setUp, if_neg (by rw [h]; exact Bool.false_ne_true), bind_of_ret hsocket]
  cases Library.tcpSocketNew w.calls with
  | false =>
      refine ⟨_, _, [.tcpSocketNew (some n) false], rfl, rfl, rfl, ?_, .inr ⟨_, rfl, rfl⟩⟩
      simp [Event.concerns, Event.isDestroy]
  | true =>
      have hstage : Stage n (do
          self.openSocket address port connectTimeout
          self.setHandshakeTimeout handshakeTimeout
          self.login vhost maxChannels maxFrameSize heartbeat properties saslMethod args) :=
        stage_bind (stage_openSocket h _ _ _) fun _ =>
          stage_bind (stage_setHandshakeTimeout h _) fun _ => stage_login h _ _ _ _ _ _ _
      obtain ⟨calls, hlog, hnext, hcalls, hout⟩ :=
        hstage (w.tick.tell (.tcpSocketNew (some n) true))
      have hnone : calls.countP Event.isDestroy = 0 :=
        List.countP_eq_zero.mpr fun e he => by simp [(hcalls e he).2.1]
      refine ⟨_, _, .tcpSocketNew (some n) true :: calls, rfl, ?_, hnext, ?_, ?_⟩
      · exact hlog.trans (List.append_assoc _ _ _)
      · rintro e (_ | ⟨_, he⟩)
        · simp [Event.concerns, Event.isDestroy]
        · exact ⟨(hcalls e he).1, (hcalls e he).2.1⟩
      · rcases hout with ⟨a, ho, hclose⟩ | ⟨e, ho, hclose⟩
        · exact .inl ⟨ho, rfl, hclose, hnone⟩
        · exact .inr ⟨e, ho, hclose⟩

/-- What a constructor call amounts to: no handle and no object; or a new handle,
with an object that has it open, or with an exception and the handle finished. -/
inductive Constructed (w : World) : Outcome Exc Connection × World → Prop
  | noHandle {e : Exc} {w' : World} : w'.log = w.log ++ [.newConnection none] →
      w'.nextHandle = w.nextHandle → Constructed w (.thrown e, w')
  | object {self : Connection} {w' : World} {calls : List Event} :
      w'.log = w.log ++ .newConnection (some w.nextHandle) :: calls →
      w'.nextHandle = w.nextHandle + 1 → self.connection_ = some w.nextHandle →
      (∀ e ∈ calls, e.concerns (some w.nextHandle) = true) → Open calls →
      Constructed w (.ret self, w')
  | failed {e : Exc} {w' : World} {calls : List Event} :
      w'.log = w.log ++ .newConnection (some w.nextHandle) :: calls →
      w'.nextHandle = w.nextHandle + 1 →
      (∀ e ∈ calls, e.concerns (some w.nextHandle) = true) → Finished calls →
      Constructed w (.thrown e, w')

theorem make_constructed {p q : Period} (address : String) (port : Int) (vhost : String)
    (maxChannels maxFrameSize heartbeat : Int) (connectTimeout : Duration p)
    (handshakeTimeout : Option (Duration q)) (properties : Option RawTable)
    (saslMethod : SaslMethod) (args : List String) (w : World) :
    Constructed w ((Connection.make address port vhost maxChannels maxFrameSize heartbeat
      connectTimeout handshakeTimeout properties saslMethod args).run w) := by
  unfold Connection.make
  cases hnew : Library.newConnection w.calls with
  | false =>
      have hrun : (amqpNewConnection : Code World Exc Handle).run w =
          (.ret none, w.tick.tell (.newConnection none)) := by
        simp [amqpNewConnection, hnew]
      rw [bind_of_ret hrun]
      exact .noHandle rfl rfl
  | true =>
      let n := w.nextHandle
      let w₁ : World := { w.tick.tell (.newConnection (some n)) with nextHandle := n + 1 }
      have hrun : (amqpNewConnection : Code World Exc Handle).run w = (.ret (some n), w₁) := by
        simp [amqpNewConnection, hnew, n, w₁]
      rw [bind_of_ret hrun]
      let self : Connection := ⟨some n, "Connection(" ++ toString n ++ "): "⟩
      have hself : self.connection_ = some n := rfl
      show Constructed w ((do
        constructing self.deleteHandle (self.setUp address port vhost maxChannels maxFrameSize
          heartbeat connectTimeout handshakeTimeout properties saslMethod args)
        pure self : Code World Exc Connection).run w₁)
      obtain ⟨o, w', calls, hbody, hlog, hnext, hcalls, hout⟩ := setUp_run hself
        address port vhost maxChannels maxFrameSize heartbeat connectTimeout handshakeTimeout
        properties saslMethod args w₁
      rw [show w₁.log = w.log ++ [.newConnection (some n)] from rfl, List.append_assoc] at hlog
      rcases hout with ⟨rfl, hopen⟩ | ⟨e, rfl, hclose⟩
      · have hmake : (constructing self.deleteHandle _).run w₁ = _ := constructing_of_ret hbody
        rw [bind_of_ret hmake]
        exact .object hlog hnext rfl (fun e he => (hcalls e he).1) hopen
      · have hmake : (constructing self.deleteHandle _).run w₁ = _ :=
          constructing_of_thrown hbody
        have hdelete : (self.deleteHandle).run w' =
            (.ret (), w'.tell (.call .destroyConnection (some n) [])) := rfl
        rw [hdelete, Outcome.leave_ret] at hmake
        rw [bind_of_thrown hmake]
        have hlog' : (w'.tell (.call .destroyConnection (some n) [])).log = w.log ++
            .newConnection (some n) :: (calls ++ [.call .destroyConnection (some n) []]) := by
          rw [World.tell_log, hlog]
          simp
        refine .failed hlog' hnext ?_ ?_
        · intro e he
          rcases List.mem_append.mp he with he | he
          · exact (hcalls e he).1
          · rw [List.mem_singleton.mp he]
            simp [Event.concerns, n]
        · refine ⟨calls, _, rfl, rfl, rfl, ?_, hclose⟩
          exact List.countP_eq_zero.mpr fun e he => by simp [(hcalls e he).2]

theorem setup_constructed (setup : Setup) (w : World) : Constructed w (setup.code.run w) := by
  cases setup with
  | full => exact make_constructed _ _ _ _ _ _ _ _ _ _ _ w
  | plain => exact make_constructed _ _ _ _ _ _ _ _ _ _ _ w
  | external => exact make_constructed _ _ _ _ _ _ _ _ _ _ _ w

end Constructor

/-! ## Records -/

section Records

variable {n m : Nat} {log calls : List Event}

theorem record_append (h : Handle) (log calls : List Event) :
    record h (log ++ calls) = record h log ++ record h calls := List.filter_append log calls

theorem concerns_unique {e : Event} {h h' : Handle} (he : e.concerns h = true)
    (he' : e.concerns h' = true) : h = h' := by
  cases e with
  | newConnection | tcpSocketNew | call =>
      simp only [Event.concerns, beq_iff_eq] at he he'
      exact he.symm.trans he'
  | destroyEnvelope | destroyMessage | deref | lifeEnds => cases he

theorem record_self {h : Handle} (hc : ∀ e ∈ calls, e.concerns h = true) :
    record h calls = calls :=
  List.filter_eq_self.mpr hc

theorem record_other {h h' : Handle} (hc : ∀ e ∈ calls, e.concerns h = true) (hne : h ≠ h') :
    record h' calls = [] :=
  List.filter_eq_nil_iff.mpr fun e he he' => hne (concerns_unique (hc e he) he')

theorem Open.append (ho : Open log)
    (hc : ∀ e ∈ calls, e.isClose = false ∧ e.isDestroy = false) : Open (log ++ calls) where
  socket := by rw [List.any_append, ho.socket, Bool.true_or]
  not_closed := by
    rw [List.countP_append, ho.not_closed, Nat.zero_add]
    exact List.countP_eq_zero.mpr fun e he => by simp [(hc e he).1]
  not_destroyed := by
    rw [List.countP_append, ho.not_destroyed, Nat.zero_add]
    exact List.countP_eq_zero.mpr fun e he => by simp [(hc e he).2]

theorem Open.cons_new (h : Handle) (ho : Open calls) : Open (.newConnection h :: calls) where
  socket := ho.socket
  not_closed := ho.not_closed
  not_destroyed := ho.not_destroyed

theorem Finished.cons_new (h : Handle) (hf : Finished calls) :
    Finished (.newConnection h :: calls) := by
  obtain ⟨before, last, rfl, hdestroy, hclose, hnone, hclosed⟩ := hf
  exact ⟨.newConnection h :: before, last, rfl, hdestroy, hclose, hnone, hclosed⟩

/-- What the destructor adds finishes the record. -/
theorem Open.finish (ho : Open log) :
    Finished (log ++ [.call .connectionClose (some n) [.channel 0, .num amqpReplySuccess],
      .call .getRpcReply (some n) [], .call .destroyConnection (some n) []]) := by
  refine ⟨log ++ [.call .connectionClose (some n) [.channel 0, .num amqpReplySuccess],
    .call .getRpcReply (some n) []], .call .destroyConnection (some n) [], by simp, rfl, rfl,
    ?_, ?_⟩
  · rw [List.countP_append, ho.not_destroyed]
    rfl
  · rw [List.countP_append, ho.not_closed, List.any_append, ho.socket]
    rfl

end Records

/-! ## The invariant -/

/-- Before it is returned, a handle is neither held nor used; then it is held once
and open, and in the end not held and finished. -/
def Managed (s : Connections) (n : Nat) : Prop :=
  (owners Connection.connection_ n s.cells = 0 ∧ record (some n) s.world.log = []) ∨
    (n < s.world.nextHandle ∧
      ((owners Connection.connection_ n s.cells = 1 ∧ Open (record (some n) s.world.log)) ∨
        (owners Connection.connection_ n s.cells = 0 ∧ Finished (record (some n) s.world.log))))

/-- A handle that a step does not concern. -/
theorem managed_of_unchanged {s t : Connections} {n : Nat} (hs : Managed s n)
    (hnext : s.world.nextHandle ≤ t.world.nextHandle)
    (howners : owners Connection.connection_ n t.cells = owners Connection.connection_ n s.cells)
    (hrecord : record (some n) t.world.log = record (some n) s.world.log) : Managed t n := by
  rw [Managed, howners, hrecord]
  rcases hs with h | ⟨hlt, h⟩
  · exact .inl h
  · exact .inr ⟨Nat.lt_of_lt_of_le hlt hnext, h⟩

/-- A handle in use is held by the one object it was found in. -/
theorem held_open {s : Connections} {n i : Nat} {self : Connection} (hs : Managed s n)
    (hi : s.cells[i]? = some (some self)) (h : self.connection_ = some n) :
    n < s.world.nextHandle ∧ owners Connection.connection_ n s.cells = 1 ∧
      Open (record (some n) s.world.log) := by
  have hpos : 0 < owners Connection.connection_ n s.cells :=
    (owners_pos_iff _ _).mpr ⟨i, self, hi, h⟩
  rcases hs with ⟨h0, _⟩ | ⟨hlt, ⟨h1, ho⟩ | ⟨h0, _⟩⟩
  · omega
  · exact ⟨hlt, h1, ho⟩
  · omega

/-- The handle that is next: nobody has it, and no call received it. -/
theorem managed_next {s : Connections} (hs : ∀ n, Managed s n) :
    owners Connection.connection_ s.world.nextHandle s.cells = 0 ∧
      record (some s.world.nextHandle) s.world.log = [] := by
  rcases hs s.world.nextHandle with h | ⟨hlt, _⟩
  · exact h
  · exact absurd hlt (Nat.lt_irrefl _)

/-- What the invariant says about the handles that were returned. -/
theorem wellManaged_of_managed {s : Connections} (hs : ∀ n, Managed s n) : WellManaged s := by
  intro n
  rcases hs n with ⟨h0, hunused⟩ | ⟨_, h | h⟩
  · refine ⟨by omega, fun hmem => ?_⟩
    have hrec : Event.newConnection (some n) ∈ record (some n) s.world.log :=
      List.mem_filter.mpr ⟨hmem, beq_self_eq_true _⟩
    rw [hunused] at hrec
    cases hrec
  · exact ⟨by omega, fun _ => .inl h⟩
  · exact ⟨by omega, fun _ => .inr h⟩

section Steps

variable [Library]

theorem request_run (r : Request) (h : Handle) (channel : ChannelId) (w : World) :
    ∃ v w', (r.code [] h channel).run w = (.ret v, w') ∧ w'.nextHandle = w.nextHandle ∧
      w'.log = w.log ++ [.call r.function h (.channel channel :: r.args)] := by
  cases hs : r.synchronous with
  | true => exact ⟨_, _, r.code_of_sync hs [] h channel w, rfl, rfl⟩
  | false => exact ⟨_, _, r.code_of_async hs [] h channel w, rfl, rfl⟩

theorem callAll_run (c : Handle) (requests : List (Request × ChannelId)) (value : Value)
    (w : World) :
    ∃ v w', (callAll c value requests).run w = (.ret v, w') ∧ w'.nextHandle = w.nextHandle ∧
      w'.log = w.log ++ requests.map fun r => .call r.1.function c (.channel r.2 :: r.1.args) := by
  induction requests generalizing value w with
  | nil => exact ⟨value, w, rfl, rfl, (List.append_nil _).symm⟩
  | cons r requests ih =>
      obtain ⟨v, w', hreq, hnext, hlog⟩ := request_run r.1 c r.2 w
      obtain ⟨v', w'', hrun, hnext', hlog'⟩ := ih v w'
      refine ⟨v', w'', (bind_of_ret hreq).trans hrun, hnext'.trans hnext, ?_⟩
      rw [hlog', hlog, List.append_assoc]
      rfl

/-- The entries of the callable's calls. -/
def Call.events (call : Call) (c : Handle) : List Event :=
  call.requests.map fun r => .call r.1.function c (.channel r.2 :: r.1.args)

/-- How the callable ends, after its calls returned `value`. -/
def Call.ending (call : Call) (value : Value) : Outcome Exc Value :=
  match call.throws with
  | none => .ret value
  | some tag => .thrown (.foreign tag)

omit [Library] in
theorem ending_ne_terminate (call : Call) (value : Value) : call.ending value ≠ .terminate := by
  rw [Call.ending]
  cases call.throws <;> nofun

theorem function_run (call : Call) (c : Handle) (w : World) :
    ∃ v w', (call.function c).run w = (call.ending v, w') ∧ w'.nextHandle = w.nextHandle ∧
      w'.log = w.log ++ call.events c := by
  obtain ⟨v, w', hrun, hnext, hlog⟩ := callAll_run c call.requests .unit w
  refine ⟨v, w', (bind_of_ret hrun).trans ?_, hnext, hlog⟩
  rw [Call.ending]
  cases call.throws <;> rfl

omit [Library] in
theorem examined_log (w : World) (h : Handle) (verdict : Except Exc Unit) (release : Bool) :
    (w.examined h verdict release).nextHandle = w.nextHandle ∧
      ((w.examined h verdict release).log = w.log ++ [.call .getRpcReply h []] ∨
        (w.examined h verdict release).log =
          w.log ++ [.call .getRpcReply h [], .call .maybeReleaseBuffers h []]) := by
  rw [World.examined]
  split
  · exact ⟨rfl, .inr (by simp)⟩
  · exact ⟨rfl, .inl rfl⟩

/-- An rpc of the application: what its callable calls, and then the reply is examined. -/
theorem call_run (self : Connection) (call : Call) (w : World) :
    (((call.code self).run w).1 = .terminate → call.throws ≠ none) ∧
      ((call.code self).run w).2.nextHandle = w.nextHandle ∧
      ∃ calls, ((call.code self).run w).2.log =
          w.log ++ (call.events self.connection_ ++ .call .getRpcReply self.connection_ [] :: calls) ∧
        (calls = [] ∨ calls = [.call .maybeReleaseBuffers self.connection_ []]) := by
  obtain ⟨v, w', hfunction, hnext, hlog⟩ := function_run call self.connection_ w
  have hrun : (self.rpcWith true "" call.function).run w = _ :=
    Connection.rpcWith_of (ending_ne_terminate call v) hfunction
  rw [Call.code, Connection.rpc, hrun]
  dsimp only
  obtain ⟨hnext', hlog'⟩ := examined_log w' self.connection_
    (Connection.processReply (self.context_ ++ "") (w'.conns self.connection_).lastReply) true
  refine ⟨fun h hthrows => ?_, hnext'.trans hnext, ?_⟩
  · have hret : call.ending v = .ret v := by
      rw [Call.ending, hthrows]
    rw [hret] at h
    cases hverdict : Connection.processReply (self.context_ ++ "")
        (w'.conns self.connection_).lastReply with
    | ok _ =>
        rw [hverdict] at h
        cases h
    | error e =>
        rw [hverdict] at h
        cases h
  · rcases hlog' with hlog' | hlog'
    · exact ⟨[], by rw [hlog', hlog, List.append_assoc], .inl rfl⟩
    · exact ⟨_, by rw [hlog', hlog, List.append_assoc], .inr rfl⟩

/-- All of it is about the handle. -/
theorem call_concerns (self : Connection) (call : Call) (w : World) :
    ∃ calls, ((call.code self).run w).2.log = w.log ++ calls ∧
      .call .getRpcReply self.connection_ [] ∈ calls ∧
      ∀ e ∈ calls, e.concerns self.connection_ = true ∧
        (e.isClose = true ∨ e.isDestroy = true → e ∈ call.events self.connection_) := by
  obtain ⟨-, -, calls, hlog, hcalls⟩ := call_run self call w
  refine ⟨_, hlog, by simp, fun e he => ?_⟩
  rcases List.mem_append.mp he with he | he
  · obtain ⟨r, -, rfl⟩ := List.mem_map.mp he
    exact ⟨beq_self_eq_true _, fun _ => he⟩
  · rcases List.mem_cons.mp he with rfl | he
    · exact ⟨beq_self_eq_true _, by simp [Event.isClose, Event.isDestroy]⟩
    · rcases hcalls with rfl | rfl
      · cases he
      · rw [List.mem_singleton.mp he]
        exact ⟨beq_self_eq_true _, by simp [Event.isClose, Event.isDestroy]⟩

omit [Library] in
theorem Call.Spares.event {call : Call} (h : call.Spares) {c : Handle} {e : Event}
    (he : e ∈ call.events c) : e.isClose = false ∧ e.isDestroy = false := by
  obtain ⟨r, hr, rfl⟩ := List.mem_map.mp he
  obtain ⟨hclose, hdestroy⟩ := h r hr
  refine ⟨?_, ?_⟩
  · cases hf : r.1.function with
    | connectionClose => exact absurd hf hclose
    | _ => rfl
  · cases hf : r.1.function with
    | destroyConnection => exact absurd hf hdestroy
    | _ => rfl

/-- If the callable spares the handle, the rpc neither closes nor destroys it. -/
theorem call_spares (self : Connection) {call : Call} (h : call.Spares) (w : World) :
    ∃ calls, ((call.code self).run w).2.log = w.log ++ calls ∧
      ∀ e ∈ calls, e.concerns self.connection_ = true ∧ e.isClose = false ∧
        e.isDestroy = false := by
  obtain ⟨calls, hlog, -, hcalls⟩ := call_concerns self call w
  refine ⟨calls, hlog, fun e he => ⟨(hcalls e he).1, ?_, ?_⟩⟩
  · by_contra hclose
    rw [Bool.not_eq_false] at hclose
    have hspared := (h.event ((hcalls e he).2 (.inl hclose))).1
    rw [hclose] at hspared
    cases hspared
  · by_contra hdestroy
    rw [Bool.not_eq_false] at hdestroy
    have hspared := (h.event ((hcalls e he).2 (.inr hdestroy))).2
    rw [hdestroy] at hspared
    cases hspared

theorem step_rpc {i : Nat} {call : Call} {s t : Connections}
    (h : (Action.rpc i call).step s = some t) :
    ∃ self, s.cells[i]? = some (some self) ∧
      t = ⟨s.cells, ((call.code self).run s.world).2⟩ := by
  simp only [Action.step] at h
  split at h
  · next self hi =>
      split at h
      · cases h
      · next hrun =>
          cases h
          exact ⟨self, hi, by rw [hrun]⟩
  · cases h

theorem managed_construct {s t : Connections} {setup : Setup} (hs : ∀ n, Managed s n)
    (h : (Action.construct setup).step s = some t) (n : Nat) : Managed t n := by
  obtain ⟨hfree, hunused⟩ := managed_next hs
  have hmade := setup_constructed setup s.world
  simp only [Action.step] at h
  generalize setup.code.run s.world = r at hmade h
  -- the first entry of the constructor is about the new handle, and so are the others
  have hall {calls : List Event}
      (hcalls : ∀ e ∈ calls, e.concerns (some s.world.nextHandle) = true) :
      ∀ e ∈ Event.newConnection (some s.world.nextHandle) :: calls,
        e.concerns (some s.world.nextHandle) = true :=
    List.forall_mem_cons.mpr ⟨beq_self_eq_true _, hcalls⟩
  cases hmade with
  | noHandle hlog hnext =>
      cases h
      refine managed_of_unchanged (hs n) (Nat.le_of_eq hnext.symm) rfl ?_
      simp [hlog, record, Event.concerns]
  | @object self w' calls hlog hnext hself hcalls hopen =>
      cases h
      by_cases hn : s.world.nextHandle = n
      · subst hn
        refine .inr ⟨by rw [hnext]; exact Nat.lt_succ_self _, .inl ⟨?_, ?_⟩⟩
        · rw [owners_push, hfree, stake_of_holds hself]
        · show Open (record _ w'.log)
          rw [hlog, record_append, hunused, record_self (hall hcalls), List.nil_append]
          exact hopen.cons_new _
      · have hstake : stake Connection.connection_ n self = 0 :=
          stake_of_ne (by rw [hself]; exact fun h => hn (Option.some.inj h))
        refine managed_of_unchanged (hs n) (by rw [hnext]; exact Nat.le_succ _) ?_ ?_
        · rw [owners_push, hstake, Nat.add_zero]
        · show record (some n) w'.log = _
          rw [hlog, record_append, record_other (hall hcalls) (fun h => hn (Option.some.inj h)),
            List.append_nil]
  | @failed e w' calls hlog hnext hcalls hfinished =>
      cases h
      by_cases hn : s.world.nextHandle = n
      · subst hn
        refine .inr ⟨by rw [hnext]; exact Nat.lt_succ_self _, .inr ⟨hfree, ?_⟩⟩
        show Finished (record _ w'.log)
        rw [hlog, record_append, hunused, record_self (hall hcalls), List.nil_append]
        exact hfinished.cons_new _
      · refine managed_of_unchanged (hs n) (by rw [hnext]; exact Nat.le_succ _) rfl ?_
        show record (some n) w'.log = _
        rw [hlog, record_append, record_other (hall hcalls) (fun h => hn (Option.some.inj h)),
          List.append_nil]

theorem managed_move {s t : Connections} {i : Nat} (hs : ∀ n, Managed s n)
    (h : (Action.move i).step s = some t) (n : Nat) : Managed t n := by
  simp only [Action.step] at h
  split at h
  · next other hi =>
      cases h
      refine managed_of_unchanged (hs n) (Nat.le_refl _) ?_ rfl
      have hset := owners_update Connection.connection_ n
        (other.moveConstruct).2 hi
      have hnone : stake Connection.connection_ n (other.moveConstruct).2 = 0 := rfl
      have hsame : stake Connection.connection_ n (other.moveConstruct).1 =
        stake Connection.connection_ n other := rfl
      rw [owners_push]
      omega
  · cases h

theorem managed_rpc {s t : Connections} {i : Nat} {call : Call} (hspares : call.Spares)
    (hs : ∀ n, Managed s n) (h : (Action.rpc i call).step s = some t) (n : Nat) : Managed t n := by
  obtain ⟨self, hi, rfl⟩ := step_rpc h
  have hnext := (call_run self call s.world).2.1
  obtain ⟨calls, hlog, hcalls⟩ := call_spares self hspares s.world
  by_cases hn : self.connection_ = some n
  · obtain ⟨hlt, howners, hopen⟩ := held_open (hs n) hi hn
    refine .inr ⟨hnext ▸ hlt, .inl ⟨howners, ?_⟩⟩
    show Open (record (some n) ((call.code self).run s.world).2.log)
    have hself : record (some n) calls = calls :=
      record_self fun e he => hn ▸ (hcalls e he).1
    rw [hlog, record_append, hself]
    exact hopen.append fun e he => (hcalls e he).2
  · refine managed_of_unchanged (hs n) (Nat.le_of_eq hnext.symm) rfl ?_
    show record (some n) ((call.code self).run s.world).2.log = _
    have hother : record (some n) calls = [] := record_other (fun e he => (hcalls e he).1) hn
    rw [hlog, record_append, hother, List.append_nil]

theorem managed_destroy {s t : Connections} {i : Nat} (hs : ∀ n, Managed s n)
    (h : (Action.destroy i).step s = some t) (n : Nat) : Managed t n := by
  simp only [Action.step] at h
  split at h
  · next self hi =>
      cases h
      have hset := owners_destroy Connection.connection_ n hi
      cases hh : self.connection_ with
      | none =>
          have hstake : stake Connection.connection_ n self = 0 :=
            stake_of_ne (by simp [hh])
          rw [destroy_run_none hh]
          exact managed_of_unchanged (hs n) (Nat.le_refl _) (by simpa [hstake] using hset) rfl
      | some m =>
          let calls : List Event :=
            [.call .connectionClose (some m) [.channel 0, .num amqpReplySuccess],
              .call .getRpcReply (some m) [], .call .destroyConnection (some m) []]
          have hlog : (self.destroy.run s.world).2.log = s.world.log ++ calls := by
            rw [destroy_run_some hh]
            simp [World.afterSync, calls]
          have hnext : (self.destroy.run s.world).2.nextHandle = s.world.nextHandle := by
            rw [destroy_run_some hh]
            rfl
          have hcalls : ∀ e ∈ calls, e.concerns (some m) = true := by
            simp [calls, Event.concerns]
          by_cases hn : m = n
          · subst hn
            obtain ⟨hlt, howners, hopen⟩ := held_open (hs m) hi hh
            rw [stake_of_holds hh, howners] at hset
            refine .inr ⟨hnext ▸ hlt, .inr ⟨by simpa using hset, ?_⟩⟩
            show Finished (record (some m) (self.destroy.run s.world).2.log)
            rw [hlog, record_append, record_self hcalls]
            exact hopen.finish
          · have hstake : stake Connection.connection_ n self = 0 :=
              stake_of_ne (by rw [hh]; exact fun h => hn (Option.some.inj h))
            refine managed_of_unchanged (hs n) (Nat.le_of_eq hnext.symm)
              (by simpa [hstake] using hset) ?_
            show record (some n) (self.destroy.run s.world).2.log = _
            rw [hlog, record_append, record_other hcalls (fun h => hn (Option.some.inj h)),
              List.append_nil]
  · cases h

theorem managed_step {action : Action} {s t : Connections} (hs : ∀ n, Managed s n)
    (hspares : action.Spares) (h : action.step s = some t) : ∀ n, Managed t n := by
  cases action with
  | construct setup => exact managed_construct hs h
  | move i => exact managed_move hs h
  | rpc i call => exact managed_rpc hspares hs h
  | destroy i => exact managed_destroy hs h

theorem endsWell (action : Action) (s : Connections) : EndsWell action s := by
  cases action with
  | construct setup =>
      have hmade := setup_constructed setup s.world
      show (setup.code.run s.world).1 ≠ .terminate
      generalize setup.code.run s.world = r at hmade
      cases hmade with
      | noHandle | object | failed =>
          intro h
          cases h
  | move i => trivial
  | rpc i call =>
      intro self _
      exact (call_run self call s.world).1
  | destroy i =>
      intro self _
      cases hh : self.connection_ with
      | none =>
          rw [destroy_run_none hh]
          exact ⟨rfl, fun _ => rfl⟩
      | some m =>
          rw [destroy_run_some hh]
          exact ⟨rfl, fun h => nomatch h⟩

/-- Every run whose callables leave the end of the handles' lives to the class keeps every
handle well managed, in all its states, and none of its actions ends badly. -/
theorem handles_well_managed (actions : List Action)
    (hspares : ∀ action ∈ actions, action.Spares) :
    Visits Action.step WellManaged .initial actions ∧
      Along Action.step EndsWell .initial actions := by
  have hstart : ∀ n, Managed .initial n := fun n => .inl ⟨rfl, rfl⟩
  have halong : Along Action.step (fun action _ => action.Spares) .initial actions :=
    along_of_mem fun action hmem _ => hspares action hmem
  constructor
  · exact (visits_of_along managed_step halong hstart).mono fun _ => wellManaged_of_managed
  · exact along_of_forall endsWell

end Steps

/-- A connection that is used, moved and destroyed. -/
def aLife : List Action :=
  [.construct (.plain "" 5672 "" "" "" 0 131072 0 (⟨1⟩ : Duration .seconds)),
    .rpc 0 ⟨[(⟨.basicQos, true, []⟩, 1), (⟨.basicPublish, false, []⟩, 1)], none⟩, .move 0,
    .rpc 1 ⟨[], some 0⟩, .destroy 0, .destroy 1]

theorem aLife_well_managed :
    letI := allSucceed
    Visits Action.step WellManaged .initial aLife ∧ Along Action.step EndsWell .initial aLife := by
  let _ := allSucceed
  refine handles_well_managed aLife fun action hmem => ?_
  simp only [aLife, List.mem_cons, List.not_mem_nil, or_false] at hmem
  rcases hmem with rfl | rfl | rfl | rfl | rfl | rfl
  · trivial
  · refine List.forall_mem_cons.mpr ⟨by decide, List.forall_mem_singleton.mpr (by decide)⟩
  · trivial
  · exact List.forall_mem_nil _
  · trivial
  · trivial

theorem WellManaged.close_le_one {s : Connections} (hs : WellManaged s) {n : Nat}
    (hmem : .newConnection (some n) ∈ s.world.log) :
    (record (some n) s.world.log).countP Event.isClose ≤ 1 := by
  rcases (hs n).2 hmem with ⟨-, hopen⟩ | ⟨-, before, last, heq, -, hclose, -, hbefore⟩
  · rw [hopen.not_closed]
    exact Nat.zero_le 1
  · rw [heq, List.countP_append, hbefore, List.countP_singleton, hclose]
    split <;> simp

/-- `connection.rpc(::amqp_connection_close, AMQP_REPLY_SUCCESS)`, and then the destructor. -/
def closesItself : List Action :=
  [.construct (.plain "" 5672 "" "" "" 0 131072 0 (⟨1⟩ : Duration .seconds)),
    .rpc 0 ⟨[(⟨.connectionClose, true, [.num amqpReplySuccess]⟩, 0)], none⟩, .destroy 0]

/-- The destructor closes the handle for the second time. -/
theorem closed_twice :
    letI := allSucceed
    (record (some 1) (Ends Action.step .initial closesItself).world.log).countP Event.isClose = 2 ∧
      ¬ Visits Action.step WellManaged .initial closesItself := by
  let _ := allSucceed
  have htwice : (record (some 1) (Ends Action.step .initial closesItself).world.log).countP
      Event.isClose = 2 := rfl
  refine ⟨htwice, fun h => ?_⟩
  have hle := h.ends.close_le_one (n := 1) (.head _)
  rw [htwice] at hle
  exact absurd hle (by decide)

end RmqCxx
