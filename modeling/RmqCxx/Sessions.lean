/-
# `RmqCxx.Sessions` — the conversation over a connection

What the calls with one handle should look like, as a protocol: the handle is created, gets
a socket, and a login over it makes the connection; channels are opened on the connection,
used, and closed; the connection is closed, and the handle is destroyed.  A channel number is used
only while it is open, and opened only while it is not; whether it is open after an
attempt to open it is for the broker to say, so there are two rules for that.

An application follows the protocol if it opens no number that an object still owns,
uses only channels that an object owns, and leaves channels to the objects.  The numbers
that are open are then those that objects own (`Fits`): destructors close them, and
nothing else does.
-/
import RmqCxx.Applications
import RmqCxx.Cpp.Traces
import Mathlib.Data.Set.Insert

namespace RmqCxx

open Cpp Code Cpp.Ownership

/-! ## The protocol -/

/-- Where the conversation over a handle is; `opened` are the numbers of the channels
that are open. -/
inductive Session where
  | fresh
  | created
  /-- There is a socket, and nobody has logged in. -/
  | socket
  | connected (opened : Set ChannelId)
  | closed
  | destroyed

/-- Functions that the constructor of a connection calls before it logs in. -/
def CFunction.setsUp : CFunction → Bool
  | .socketOpenNoblock | .setHandshakeTimeout => true
  | _ => false

def CFunction.logsIn : CFunction → Bool
  | .login | .loginWithProperties => true
  | _ => false

/-- Functions that have nothing to do with the life of the connection or a channel. -/
def CFunction.plain : CFunction → Bool
  | .channelOpen | .channelClose | .connectionClose | .destroyConnection => false
  | f => !(f.ofChannel || f.setsUp || f.logsIn)

/-- The life of the connection. -/
inductive Session.Life : Session → Event → Session → Prop
  | create (h : Handle) : Life .fresh (.newConnection h) .created
  | noSocket (h : Handle) : Life .created (.tcpSocketNew h false) .created
  | socket (h : Handle) : Life .created (.tcpSocketNew h true) .socket
  | abandon (h : Handle) (args : List Arg) :
      Life .created (.call .destroyConnection h args) .destroyed
  | setUp {f : CFunction} (h : Handle) (args : List Arg) (hf : f.setsUp = true) :
      Life .socket (.call f h args) .socket
  | loggedIn {f : CFunction} (h : Handle) (args : List Arg) (hf : f.logsIn = true) :
      Life .socket (.call f h args) (.connected ∅)
  | turnedAway {f : CFunction} (h : Handle) (args : List Arg) (hf : f.logsIn = true) :
      Life .socket (.call f h args) .socket
  | giveUp (h : Handle) (args : List Arg) :
      Life .socket (.call .connectionClose h args) .closed
  | close {opened : Set ChannelId} (h : Handle) (args : List Arg) :
      Life (.connected opened) (.call .connectionClose h args) .closed
  | look (h : Handle) (args : List Arg) : Life .closed (.call .getRpcReply h args) .closed
  | destroy (h : Handle) (args : List Arg) :
      Life .closed (.call .destroyConnection h args) .destroyed

inductive Session.Step : Session → Event → Session → Prop
  | life {p q : Session} {e : Event} (h : Session.Life p e q) : Step p e q
  | accepted {opened : Set ChannelId} {c : ChannelId} (h : Handle) (args : List Arg)
      (hc : c ∉ opened) : Step (.connected opened)
        (.call .channelOpen h (.channel c :: args)) (.connected (insert c opened))
  | refused {opened : Set ChannelId} {c : ChannelId} (h : Handle) (args : List Arg)
      (hc : c ∉ opened) : Step (.connected opened)
        (.call .channelOpen h (.channel c :: args)) (.connected opened)
  | use {opened : Set ChannelId} {c : ChannelId} {f : CFunction} (h : Handle)
      (args : List Arg) (hf : f.ofChannel = true) (hc : c ∈ opened) :
      Step (.connected opened) (.call f h (.channel c :: args)) (.connected opened)
  | closeChannel {opened : Set ChannelId} {c : ChannelId} (h : Handle) (args : List Arg)
      (hc : c ∈ opened) : Step (.connected opened)
        (.call .channelClose h (.channel c :: args)) (.connected (opened \ {c}))
  | plain {opened : Set ChannelId} {f : CFunction} (h : Handle) (args : List Arg)
      (hf : f.plain = true) : Step (.connected opened) (.call f h args) (.connected opened)

/-- The calls with the handle `n`. -/
def World.recordOf (n : Nat) (w : World) : List Event := record (some n) w.log

/-- Code that takes the connection with the handle `n` through its life. -/
abbrev Lives {α : Type} (n : Nat) (p : Session) (R T : Session → Prop)
    (c : Code World Exc α) : Prop :=
  Leads Session.Life (World.recordOf n) p R T c

/-! ## The constructor of a connection -/

section Constructor

variable {α : Type} {n : Nat} {p q : Session} {R T : Session → Prop} {c : Code World Exc α}

theorem record_concerned {h : Handle} {log : List Event} {e : Event}
    (he : e.concerns h = true) : record h (log ++ [e]) = record h log ++ [e] := by
  rw [record_append, record_self (List.forall_mem_singleton.mpr he)]

/-- One call with the handle. -/
theorem lives_call {h : Handle} (hh : h = some n) {f : CFunction} {args : World → List Arg}
    {v : World → α} {g : World → World} (hc : ∀ w, c.run w = (.ret (v w), g w))
    (hlog : ∀ w, (g w).log = w.log ++ [.call f h (args w)])
    (hstep : ∀ w, Session.Life p (.call f h (args w)) q) (hq : R q) :
    Lives n p R T c := by
  refine leads_step hc (fun w => ?_) hstep hq
  rw [World.recordOf, hlog]
  exact record_concerned (by rw [hh]; exact beq_self_eq_true _)

/-- A call that sets the connection up, and what follows. -/
theorem lives_setUpCall {β : Type} {h : Handle} (hh : h = some n) {f : CFunction}
    (hf : f.setsUp = true) {args : World → List Arg} {v : World → β} {g : World → World}
    {c : Code World Exc β} {k : β → Code World Exc α} (hc : ∀ w, c.run w = (.ret (v w), g w))
    (hlog : ∀ w, (g w).log = w.log ++ [.call f h (args w)])
    (hk : ∀ b, Lives n .socket R T (k b)) : Lives n .socket R T (c >>= k) := by
  refine leads_bind (lives_call (R := (· = .socket)) hh hc hlog
    (fun _ => .setUp _ _ hf) rfl) ?_
  rintro b _ rfl
  exact hk b

theorem lives_deleteHandle {self : Connection} (hself : self.connection_ = some n)
    (hp : p = .created ∨ p = .closed) (h : R .destroyed) :
    Lives n p R T self.deleteHandle := by
  rw [Connection.deleteHandle, if_neg (by rw [hself]; exact Bool.false_ne_true)]
  rcases hp with rfl | rfl
  · exact lives_call hself (fun _ => rfl) (fun _ => rfl) (fun _ => .abandon _ _) h
  · exact lives_call hself (fun _ => rfl) (fun _ => rfl) (fun _ => .destroy _ _) h

variable [Library] {self : Connection} (hself : self.connection_ = some n)

include hself

theorem lives_close (h : R .closed) : Lives n .socket R T self.close := by
  intro w
  rw [close_run_some hself]
  refine ⟨[.call .connectionClose (some n) [.channel 0, .num amqpReplySuccess],
    .call .getRpcReply (some n) []], .closed, ?_, ?_, h⟩
  · simp [World.recordOf, World.afterSync, record, Event.concerns]
  · exact .cons (.giveUp _ _) (.single (.look _ _))

/-- `close(); throw e;` -/
theorem lives_close_throw (e : Exc) (h : T .closed) :
    Lives n .socket R T (do self.close; throw e : Code World Exc α) := by
  refine leads_bind (lives_close hself (R := (· = .closed)) rfl) ?_
  rintro _ _ rfl
  exact leads_throw e h

/-- `if (b) { close(); throw e; }` -/
theorem lives_unless (b : Prop) [Decidable b] (e : Exc) (hok : R .socket)
    (h : T .closed) : Lives n .socket R T
      (if b then (do self.close; throw e) else pure () : Code World Exc Unit) := by
  split
  · exact lives_close_throw hself e h
  · exact leads_pure () hok

variable (hbad : T .closed)

include hbad

theorem lives_openSocket {pd : Period} (hok : R .socket) (address : String) (port : Int)
    (timeout : Duration pd) :
    Lives n .socket R T (self.openSocket address port timeout) :=
  lives_setUpCall hself rfl (fun _ => rfl) (fun _ => rfl)
    fun _ => lives_unless hself _ _ hok hbad

theorem lives_setHandshakeTimeout {pd : Period} (hok : R .socket)
    (timeout : Option (Duration pd)) :
    Lives n .socket R T (self.setHandshakeTimeout timeout) := by
  cases timeout with
  | none => exact leads_pure () hok
  | some timeout =>
      exact lives_setUpCall hself rfl (fun _ => rfl) (fun _ => rfl)
        fun _ => lives_unless hself _ _ hok hbad

/-- The call that logs in, and the examination of its reply: which of two steps of the
protocol the call is, is up to the reply. -/
theorem lives_loginCall {f : CFunction} (hf : f.logsIn = true) (args : List Arg)
    (hok : R (.connected ∅)) :
    Lives n .socket R T (do
      let reply ← amqpLogin f self.connection_ args
      tryCatch (ofExcept (Connection.processReply self.context_ reply)) (fun e => do
        self.close
        throw e) : Code World Exc Unit) := by
  intro w
  have hlogin : ∃ reply w', (amqpLogin f self.connection_ args : Code World Exc RpcReply).run w =
      (.ret reply, w') ∧ w'.log = w.log ++ [.call f (some n) args] := ⟨_, _, rfl, by rw [hself]; rfl⟩
  obtain ⟨reply, w', hrun, hlog⟩ := hlogin
  have hview : World.recordOf n w' = World.recordOf n w ++ [.call f (some n) args] := by
    rw [World.recordOf, hlog]
    exact record_concerned (beq_self_eq_true _)
  rw [bind_of_ret hrun]
  cases hreply : Connection.processReply self.context_ reply with
  | ok _ =>
      have hpasses : (ofExcept (.ok ()) : Code World Exc Unit).run w' = (.ret (), w') := rfl
      rw [tryCatch_of_ret hpasses]
      exact ⟨_, _, hview, .single (.loggedIn _ _ hf), hok⟩
  | error e =>
      have hfails : (ofExcept (.error e) : Code World Exc Unit).run w' = (.thrown e, w') := rfl
      rw [tryCatch_of_thrown hfails]
      exact Grows.trans (R := (· = .socket)) ⟨_, _, hview, .single (.turnedAway _ _ hf), rfl⟩
        fun q hq => hq ▸ lives_close_throw hself e hbad w'

theorem lives_login (hok : R (.connected ∅)) (vhost : String)
    (maxChannels maxFrameSize heartbeat : Int) (properties : Option RawTable)
    (saslMethod : SaslMethod) (args : List String) :
    Lives n .socket R T (self.login vhost maxChannels maxFrameSize heartbeat properties saslMethod
      args) := by
  cases properties with
  | none => exact lives_loginCall hself hbad rfl _ hok
  | some properties =>
      intro w
      exact lives_loginCall hself hbad (f := .loginWithProperties) rfl _ hok w

end Constructor

section Constructor

variable [Library] {n : Nat} {self : Connection}

/-- The body of the constructor. -/
theorem lives_setUp {pd pd' : Period} (hself : self.connection_ = some n)
    (address : String) (port : Int) (vhost : String) (maxChannels maxFrameSize heartbeat : Int)
    (connectTimeout : Duration pd) (handshakeTimeout : Option (Duration pd'))
    (properties : Option RawTable) (saslMethod : SaslMethod) (args : List String) :
    Lives n .created (· = .connected ∅) (fun p => p = .created ∨ p = .closed)
      (self.setUp address port vhost maxChannels maxFrameSize heartbeat connectTimeout
        handshakeTimeout properties saslMethod args) := by
  rw [Connection.setUp, if_neg (by rw [hself]; exact Bool.false_ne_true)]
  intro w
  -- the answer decides which of two steps of the protocol the call is
  have hsocket : (amqpTcpSocketNew self.connection_ : Code World Exc Bool).run w =
      (.ret (Library.tcpSocketNew w.calls),
        w.tick.tell (.tcpSocketNew (some n) (Library.tcpSocketNew w.calls))) := by
    rw [hself]
    rfl
  have hview (created : Bool) : World.recordOf n (w.tick.tell (.tcpSocketNew (some n) created)) =
      World.recordOf n w ++ [.tcpSocketNew (some n) created] :=
    record_concerned (beq_self_eq_true _)
  rw [bind_of_ret hsocket]
  cases Library.tcpSocketNew w.calls with
  | false => exact ⟨_, .created, hview false, .single (.noSocket _), .inl rfl⟩
  | true =>
      have hbad : Session.closed = .created ∨ Session.closed = .closed := .inr rfl
      have hrest : Lives n .socket (· = .connected ∅)
          (fun p => p = .created ∨ p = .closed) (do
            self.openSocket address port connectTimeout
            self.setHandshakeTimeout handshakeTimeout
            self.login vhost maxChannels maxFrameSize heartbeat properties saslMethod args) := by
        refine leads_bind (lives_openSocket hself hbad (R := (· = .socket)) rfl _ _ _) ?_
        rintro _ _ rfl
        refine leads_bind (lives_setHandshakeTimeout hself hbad (R := (· = .socket)) rfl _) ?_
        rintro _ _ rfl
        exact lives_login hself (R := (· = .connected ∅)) hbad rfl _ _ _ _ _ _ _
      exact Grows.trans (R := (· = .socket)) ⟨_, _, hview true, .single (.socket _), rfl⟩
        fun q hq => hq ▸ hrest _

theorem make_grows {pd pd' : Period} (address : String) (port : Int) (vhost : String)
    (maxChannels maxFrameSize heartbeat : Int) (connectTimeout : Duration pd)
    (handshakeTimeout : Option (Duration pd')) (properties : Option RawTable)
    (saslMethod : SaslMethod) (args : List String) (w : World) :
    let r := (Connection.make address port vhost maxChannels maxFrameSize heartbeat
      connectTimeout handshakeTimeout properties saslMethod args).run w
    Grows Session.Life (World.recordOf w.nextHandle) .fresh (Outcome.Allows (· = .connected ∅)
      (fun p => p = .fresh ∨ p = .destroyed) r.1) w r.2 := by
  unfold Connection.make
  cases hnew : Library.newConnection w.calls with
  | false =>
      have hrun : (amqpNewConnection : Code World Exc Handle).run w =
          (.ret none, w.tick.tell (.newConnection none)) := by
        simp [amqpNewConnection, hnew]
      rw [bind_of_ret hrun]
      refine ⟨[], .fresh, ?_, .nil _, .inl rfl⟩
      show record _ (w.log ++ [.newConnection none]) = record _ w.log ++ []
      simp [record, Event.concerns]
  | true =>
      let n := w.nextHandle
      let w₁ : World := { w.tick.tell (.newConnection (some n)) with nextHandle := n + 1 }
      have hrun : (amqpNewConnection : Code World Exc Handle).run w = (.ret (some n), w₁) := by
        simp [amqpNewConnection, hnew, n, w₁]
      let self : Connection := ⟨some n, "Connection(" ++ toString n ++ "): "⟩
      have hself : self.connection_ = some n := rfl
      have hrest : Lives n .created (· = .connected ∅) (fun p => p = .fresh ∨ p = .destroyed)
          (do
            constructing self.deleteHandle (self.setUp address port vhost maxChannels maxFrameSize
              heartbeat connectTimeout handshakeTimeout properties saslMethod args)
            pure self) := by
        refine leads_bind (leads_constructing (lives_setUp hself _ _ _ _ _ _ _ _ _ _ _)
          fun q hq => lives_deleteHandle hself hq (.inr rfl)) ?_
        rintro _ _ rfl
        exact leads_pure _ rfl
      rw [bind_of_ret hrun]
      have hview : World.recordOf n w₁ = World.recordOf n w ++ [.newConnection (some n)] :=
        record_concerned (beq_self_eq_true _)
      exact Grows.trans (R := (· = .created)) ⟨_, _, hview, .single (.create _), rfl⟩
        fun q hq => hq ▸ hrest w₁

/-- A constructor call starts a conversation with the next handle; if it throws, that is
over, or there was none. -/
theorem setup_grows (setup : Setup) (w : World) :
    Grows Session.Life (World.recordOf w.nextHandle) .fresh (Outcome.Allows (· = .connected ∅)
      (fun p => p = .fresh ∨ p = .destroyed) (setup.code.run w).1) w (setup.code.run w).2 := by
  cases setup with
  | full => exact make_grows _ _ _ _ _ _ _ _ _ _ _ w
  | plain => exact make_grows _ _ _ _ _ _ _ _ _ _ _ w
  | external => exact make_grows _ _ _ _ _ _ _ _ _ _ _ w

end Constructor

/-! ## Applications that follow it -/

/-- The channel that the object's destructor will close, by the place of its connection
object and its number. -/
def ChannelObject.claim (self : ChannelObject) : Option (Nat × ChannelId) :=
  if self.moved_ then none else some (self.connection, self.channel_)

/-- Some object owns channel `c` of the connection object at `i`. -/
def Application.Owned (s : Application) (i : Nat) (c : ChannelId) : Prop :=
  0 < owners ChannelObject.claim (i, c) s.channels

/-- The use goes through a channel that some object owns, be it another one that the
channel object was moved into. -/
def Use.Owned (s : Application) (u : Use) : Prop :=
  ∀ channel, u.through s = some channel → s.Owned channel.connection channel.channel_

/-- The state of the conversation over `n` is what the objects say: it is connected if
an object holds the handle, and then exactly the owned channels are open. -/
def Fits (s : Application) (n : Nat) : Session → Prop
  | .fresh | .destroyed =>
      ∀ i self, live s.connections i = some self → self.connection_ ≠ some n
  | .connected opened =>
      ∃ i self, live s.connections i = some self ∧ self.connection_ = some n ∧
        ∀ c, c ∈ opened ↔ s.Owned i c
  | .created | .socket | .closed => False

/-- The calls with every handle so far follow the protocol, up to where the objects are. -/
def Conversing (s : Application) : Prop :=
  ∀ n, ∃ p, Trace Session.Step .fresh (s.world.recordOf n) p ∧ Fits s n p

/-- An entry that changes nothing in a conversation over `h` in which the channels in
`opened` are open. -/
inductive Event.Chat (h : Handle) (opened : Set ChannelId) : Event → Prop
  | plain {f : CFunction} (args : List Arg) (hf : f.plain = true) :
      Chat h opened (.call f h args)
  | use {f : CFunction} {c : ChannelId} (args : List Arg) (hf : f.ofChannel = true)
      (hc : c ∈ opened) : Chat h opened (.call f h (.channel c :: args))
  | silent {e : Event} (he : ∀ h', e.concerns h' = false) : Chat h opened e

section Conversations

variable {s t : Application} {n i : Nat} {self : Connection} {opened : Set ChannelId}
  {es : List Event}

/-- What is logged over one handle, in the conversations over all of them. -/
theorem record_chat {h : Handle} (hes : ∀ e ∈ es, e.Chat h opened) :
    (h = some n → Trace Session.Step (.connected opened) (record (some n) es)
      (.connected opened)) ∧ (h ≠ some n → record (some n) es = []) := by
  constructor
  · rintro rfl
    refine .of_loops fun e he => ?_
    obtain ⟨he, hc⟩ := List.mem_filter.mp he
    cases hes e he with
    | plain args hf => exact .plain _ args hf
    | use args hf hopen => exact .use _ args hf hopen
    | silent hsilent =>
        rw [hsilent] at hc
        cases hc
  · intro hne
    refine List.filter_eq_nil_iff.mpr fun e he hc => ?_
    cases hes e he with
    | plain args hf | use args hf hopen => exact hne (by simpa [Event.concerns] using hc)
    | silent hsilent =>
        rw [hsilent] at hc
        cases hc

end Conversations

/-! ## What the actions say -/

section Chats

variable {opened : Set ChannelId}

theorem Channel.Logs.chat {self : Channel} {F : CFunction → Bool} {e : Event}
    (h : self.Logs F e) (hF : ∀ f, F f = true → f.ofChannel = true)
    (hc : self.channel_ ∈ opened) : e.Chat self.handle opened := by
  cases h with
  | method hf => exact .use _ (hF _ hf) hc
  | reply | release => exact .plain _ rfl
  | read ref live => exact .silent fun _ => rfl

theorem Connection.Logs.chat {self : Connection} {e : Event} (h : self.Logs e) :
    e.Chat self.connection_ opened := by
  cases h with
  | wait hf => rcases hf with rfl | rfl | rfl <;> exact .plain _ rfl
  | release => exact .plain _ rfl
  | envelope | message => exact .silent fun _ => rfl

variable [Library] {s t : Application}

end Chats

/-! ## Steps -/

section Cells

variable {O : Type} {cells : List (Option O)} {i j : Nat} {o o' : O}

end Cells

section Steps

variable {s t : Application}

variable [Library]

end Steps

end RmqCxx
