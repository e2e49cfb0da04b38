/-
# `RmqCxx.CleanExits` — how the rpc functions are left

The callable that an `rpc` function is given returns a value or throws.  The reply is
examined, and the buffers are released, by destructors on the way out: a reply that is not
normal makes the destructor throw.  If the callable threw, too, that ends the program; if
it did not, `Connection::rpc` is left before it releases the buffers.
-/
import RmqCxx.Rpc

namespace RmqCxx

open Cpp Code

variable {α β : Type}

/-- A callable: it returns a value or throws. -/
abbrev Callable (α : Type) := World → Except Exc α × World

def Callable.code (f : Callable α) : Code World Exc α :=
  ⟨fun w => (.ofExcept (f w).1, (f w).2)⟩

/-- The buffers of the whole connection are released. -/
def Event.releases (h : Handle) : Event → Bool
  | .call .maybeReleaseBuffers h' _ => h' == h
  | _ => false

/-- The buffers of the channel are released. -/
def Event.releasesChannel (h : Handle) (channel : ChannelId) : Event → Bool
  | .call .maybeReleaseBuffersOnChannel h' [.channel channel'] => h' == h && channel' == channel
  | _ => false

/-- How an rpc is left, from what its callable did: with the callable's value, or with one
exception, which is the callable's own if it threw one; and with the buffers released once. -/
structure CleanExit (released : Event → Bool) (called : Except Exc α × World) (value : α → β)
    (q : Outcome Exc β × World) : Prop where
  ofValue : ∀ a, called.1 = .ok a → q.1 = .ret (value a) ∨ ∃ e, q.1 = .thrown e
  ofException : ∀ e, called.1 = .error e → q.1 = .thrown e
  releasedOnce : ∃ es, q.2.log = called.2.log ++ es ∧ es.countP released = 1

/-- The reply on record after the callable. -/
def recorded (h : Handle) (called : Except Exc α × World) : RpcReply :=
  (called.2.conns h).lastReply

section Rpc

variable [Library] {w w' : World} {e : Exc}

/-- What `Channel::rpc` makes of a call that did not end the program: unless examining the
reply does, the buffers of the channel are released. -/
theorem Channel.rpcWith_of {self : Channel} {context : String}
    {f : Handle → ChannelId → Code World Exc α} {o : Outcome Exc α} (ho : o ≠ .terminate)
    (hf : (f self.handle self.channel_).run w = (o, w')) :
    (self.rpcWith context f).run w =
      (o.leave (.checked () (self.verdict context (w'.conns self.handle).lastReply)),
        match o.leave (.checked () (self.verdict context (w'.conns self.handle).lastReply)) with
        | .terminate => w'.tell (.call .getRpcReply self.handle [])
        | _ => w'.settled self.handle self.channel_) := by
  have hrpc : (self.connection_.rpcWith false (self.context_ ++ context)
      (fun c => f c self.channel_)).run w =
        (o.leave (.checked () (self.verdict context (w'.conns self.handle).lastReply)),
          w'.tell (.call .getRpcReply self.handle [])) := by
    rw [Connection.rpcWith_of ho hf]
    simp only [World.examined, Bool.false_eq_true, and_false, if_false]
    rfl
  rw [Channel.rpcWith, defer]
  generalize o.leave _ = o' at hrpc ⊢
  cases o' with
  | ret a => rw [scopeExit_of_ret hrpc]; rfl
  | thrown e => rw [scopeExit_of_thrown hrpc]; rfl
  | terminate => simp only [scopeExit, hrpc]

omit [Library] in
theorem Outcome.ofExcept_ne_terminate (r : Except Exc α) :
    (Outcome.ofExcept r : Outcome Exc α) ≠ .terminate := by
  cases r <;> nofun

omit [Library] in
/-- The exit is clean when the reply passes and the buffers are released. -/
theorem cleanExit_of_ok {released : Event → Bool} {called : Except Exc α × World} {w' : World}
    {es : List Event} (hlog : w'.log = called.2.log ++ es) (hes : es.countP released = 1) :
    CleanExit released called id ((Outcome.ofExcept called.1).leave (.ret ()), w') := by
  refine ⟨fun a ha => ?_, fun e he => ?_, es, hlog, hes⟩
  · rw [ha]
    exact Or.inl rfl
  · rw [he]
    rfl

omit [Library] in
/-- A reply that is not normal is examined before the buffers of the connection are released,
and so they are not. -/
theorem not_cleanExit_of_error {called : Except Exc α × World} {value : α → β} {h : Handle}
    {verdict : Except Exc Unit} (herror : verdict ≠ .ok ()) {o : Outcome Exc β} :
    ¬ CleanExit (Event.releases h) called value (o, called.2.examined h verdict true) := by
  rintro ⟨-, -, es, hlog, hes⟩
  have hexamined : called.2.examined h verdict true = called.2.tell (.call .getRpcReply h []) :=
    if_neg fun hok => herror hok.1
  rw [hexamined] at hlog
  cases List.append_cancel_left hlog
  cases hes

omit [Library] in
theorem countP_examined (w : World) (h : Handle) :
    (w.examined h (.ok ()) true).log =
        w.log ++ [.call .getRpcReply h [], .call .maybeReleaseBuffers h []] ∧
      [Event.call .getRpcReply h [], .call .maybeReleaseBuffers h []].countP
        (Event.releases h) = 1 := by
  refine ⟨?_, ?_⟩
  · show (w.log ++ [_]) ++ [_] = _
    rw [List.append_assoc]
    rfl
  · simp [Event.releases]

/-- `Connection::rpc` is left cleanly if and only if the reply it examines is normal. -/
theorem connection_rpc_clean_iff (self : Connection) (f : Handle → Callable α) (w : World) :
    CleanExit (Event.releases self.connection_) (f self.connection_ w) id
        ((self.rpc fun c => (f c).code).run w) ↔
      (recorded self.connection_ (f self.connection_ w)).replyType = .normal := by
  have hcall : ((f self.connection_).code).run w =
      (.ofExcept (f self.connection_ w).1, (f self.connection_ w).2) := rfl
  have hrun : (self.rpc fun c => (f c).code).run w = _ :=
    Connection.rpcWith_of (Outcome.ofExcept_ne_terminate _) hcall
  rw [hrun, recorded, ← @processReply_ok_iff _ (self.context_ ++ "")]
  dsimp only
  cases hv : Connection.processReply (self.context_ ++ "")
      ((f self.connection_ w).2.conns self.connection_).lastReply with
  | error e => exact iff_of_false (not_cleanExit_of_error (by nofun)) (by nofun)
  | ok _ =>
      obtain ⟨hlog, hes⟩ := countP_examined (f self.connection_ w).2 self.connection_
      exact iff_of_true (cleanExit_of_ok hlog hes) rfl

/-- `Channel::rpc` is left cleanly if and only if the callable returned or the reply it
examines is normal. -/
theorem channel_rpc_clean_iff (self : Channel) (f : Handle → ChannelId → Callable α)
    (w : World) :
    CleanExit (Event.releasesChannel self.handle self.channel_) (f self.handle self.channel_ w) id
        ((self.rpc fun c channel => (f c channel).code).run w) ↔
      (∃ a, (f self.handle self.channel_ w).1 = .ok a) ∨
        (recorded self.handle (f self.handle self.channel_ w)).replyType = .normal := by
  have hcall : ((f self.handle self.channel_).code).run w =
      (.ofExcept (f self.handle self.channel_ w).1, (f self.handle self.channel_ w).2) := rfl
  have hrun : (self.rpc fun c channel => (f c channel).code).run w = _ :=
    Channel.rpcWith_of (Outcome.ofExcept_ne_terminate _) hcall
  generalize f self.handle self.channel_ w = called at hrun ⊢
  rw [hrun, recorded, ← self.verdict_ok_iff self.context_]
  have hlog : (called.2.settled self.handle self.channel_).log = called.2.log ++
      [.call .getRpcReply self.handle [],
        .call .maybeReleaseBuffersOnChannel self.handle [.channel self.channel_]] := by
    show (called.2.log ++ [_]) ++ [_] = _
    rw [List.append_assoc]
    rfl
  have hes : [Event.call .getRpcReply self.handle [],
      .call .maybeReleaseBuffersOnChannel self.handle [.channel self.channel_]].countP
        (Event.releasesChannel self.handle self.channel_) = 1 := by
    simp [Event.releasesChannel]
  cases hv : self.verdict self.context_ (called.2.conns self.handle).lastReply with
  | ok _ =>
      refine iff_of_true ?_ (Or.inr rfl)
      have hend : (match (Outcome.ofExcept called.1).leave (.checked () (.ok ())) with
          | .terminate => called.2.tell (.call .getRpcReply self.handle [])
          | _ => called.2.settled self.handle self.channel_) =
            called.2.settled self.handle self.channel_ := by
        cases called.1 <;> rfl
      rw [hend]
      exact cleanExit_of_ok hlog hes
  | error e =>
      cases hr : called.1 with
      | ok a => exact iff_of_true ⟨fun _ _ => Or.inr ⟨e, rfl⟩,
          fun e' he' => (by rw [hr] at he'; exact nomatch he'), _, hlog, hes⟩ (Or.inl ⟨a, rfl⟩)
      | error e' =>
          refine iff_of_false (fun hclean => ?_) ?_
          · exact nomatch hclean.ofException e' hr
          · rintro (⟨a, ha⟩ | hok)
            · cases ha
            · cases hok

/-- The channel-open call as a callable: the library's functions return. -/
def openCall (channel : ChannelId) (c : Handle) : Callable OkPtr := fun w =>
  (.ok (w.okPtr c channel), w.afterSync c .channelOpen channel [])

/-- The constructor of a channel is left cleanly if and only if channel open is answered
normally. -/
theorem channel_make_clean_iff (connection : Connection) (channel : ChannelId) (w : World) :
    CleanExit (Event.releases connection.connection_)
        (openCall channel connection.connection_ w)
        (fun _ => (⟨connection, channel, "Channel(" ++ toString channel.toNat ++ "): ", false⟩ :
          Channel))
        ((Channel.make connection channel).run w) ↔
      (recorded connection.connection_ (openCall channel connection.connection_ w)).replyType =
        .normal := by
  have hcall : (amqpChannelOpen connection.connection_ channel : Code World Exc OkPtr).run w =
      (.ret (w.okPtr connection.connection_ channel),
        w.afterSync connection.connection_ .channelOpen channel []) := rfl
  have hrun := run_then (connection.rpcWith true
    ("Channel(" ++ toString channel.toNat ++ "): ") (amqpChannelOpen · channel))
    (⟨connection, channel, "Channel(" ++ toString channel.toNat ++ "): ", false⟩ : Channel) w
  rw [Connection.rpcWith_of (by nofun) hcall] at hrun
  have hrun : (Channel.make connection channel).run w = _ := hrun
  rw [hrun, recorded, ← @processReply_ok_iff _
    (connection.context_ ++ ("Channel(" ++ toString channel.toNat ++ "): "))]
  dsimp only [openCall]
  cases hv : Connection.processReply
      (connection.context_ ++ ("Channel(" ++ toString channel.toNat ++ "): "))
      (((w.afterSync connection.connection_ .channelOpen channel []).conns
        connection.connection_).lastReply) with
  | error e =>
      exact iff_of_false
        (@not_cleanExit_of_error OkPtr Channel
          (openCall channel connection.connection_ w) _ _ _ (by nofun) _)
        (by nofun)
  | ok _ =>
      obtain ⟨hlog, hes⟩ := countP_examined
        (w.afterSync connection.connection_ .channelOpen channel []) connection.connection_
      refine iff_of_true ⟨fun a _ => ?_, (fun e he => nomatch he), ?_⟩ rfl
      · exact Or.inl rfl
      · exact ⟨_, hlog, hes⟩

/-- The three ways into an rpc are left cleanly exactly on these replies. -/
theorem rpc_clean_iff (connection : Connection) (channel : Channel) (id : ChannelId)
    (f : Handle → Callable α) (g : Handle → ChannelId → Callable α) (w : World) :
    (CleanExit (Event.releases connection.connection_) (f connection.connection_ w) 
        (fun a => a) ((connection.rpc fun c => (f c).code).run w) ↔
      (recorded connection.connection_ (f connection.connection_ w)).replyType = .normal) ∧
    (CleanExit (Event.releasesChannel channel.handle channel.channel_)
        (g channel.handle channel.channel_ w) (fun a => a)
        ((channel.rpc fun c channel => (g c channel).code).run w) ↔
      (∃ a, (g channel.handle channel.channel_ w).1 = .ok a) ∨
        (recorded channel.handle (g channel.handle channel.channel_ w)).replyType = .normal) ∧
    (CleanExit (Event.releases connection.connection_) (openCall id connection.connection_ w)
        (fun _ => (⟨connection, id, "Channel(" ++ toString id.toNat ++ "): ", false⟩ : Channel))
        ((Channel.make connection id).run w) ↔
      (recorded connection.connection_ (openCall id connection.connection_ w)).replyType =
        .normal) :=
  ⟨connection_rpc_clean_iff connection f w, channel_rpc_clean_iff channel g w,
    channel_make_clean_iff connection id w⟩

end Rpc

/-- A broker that refuses to open channels. -/
@[reducible] def refusesChannels : Library :=
  { allSucceed with
    sync := fun _ =>
      ⟨⟨.serverException, 1, some (.channelClose ⟨504, "CHANNEL_ERROR"⟩), .ok⟩, ⟨"", 0, false⟩, []⟩ }

/-- The constructor throws, and has not released the buffers. -/
theorem refused_channel_releases_nothing :
    ¬ CleanExit (Event.releases (some 1)) (@openCall refusesChannels 1 (some 1) .initial)
        (fun _ => (⟨⟨some 1, ""⟩, 1, "Channel(1): ", false⟩ : Channel))
        ((@Channel.make refusesChannels ⟨some 1, ""⟩ 1).run .initial) := by
  rintro ⟨-, -, es, hlog, hes⟩
  have hlog : [Event.call .channelOpen (some 1) [.channel 1], .call .getRpcReply (some 1) []] =
      [Event.call .channelOpen (some 1) [.channel 1]] ++ es := hlog
  cases hlog
  cases hes

end RmqCxx
