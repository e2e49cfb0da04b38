/-
# `RmqCxx.Rpc` — what one rpc does

The two `rpc` functions are taken apart once.  Both look at the reply the
library has on record after the call (`Connection.rpcWith_of_ret`), whatever the
call was; `Channel::rpc` then releases the channel's buffers, on every exit
(`Channel.rpcWith_of_ret`).  The rest of the development uses these two lemmas
and the effect of the primitive functions, and never unfolds `rpc` again.
-/
import RmqCxx.Channel

namespace RmqCxx

open Cpp Code

/-! ## The state -/

namespace World

variable (w : World) (e : Event) (h : Handle) (c : ConnState)

@[simp] theorem tell_log : (w.tell e).log = w.log ++ [e] := rfl
@[simp] theorem tell_conns : (w.tell e).conns = w.conns := rfl
@[simp] theorem tick_log : w.tick.log = w.log := rfl
@[simp] theorem setConn_log : (w.setConn h c).log = w.log := rfl
@[simp] theorem setConn_conns_self : (w.setConn h c).conns h = c := if_pos rfl

/-- The world after a synchronous method `f`. -/
def afterSync [Library] (f : CFunction) (channel : ChannelId) (args : List Arg) : World :=
  (w.tick.tell (.call f h (.channel channel :: args))).setConn h
    { w.conns h with
      lastReply := (w.conns h).placeReply h (Library.sync w.calls).reply
      queued := (w.conns h).queued ++ (Library.sync w.calls).arrivals }

/-- The world after an asynchronous method `f`. -/
def afterAsync [Library] (f : CFunction) (channel : ChannelId) (args : List Arg) : World :=
  (w.tick.tell (.call f h (.channel channel :: args))).setConn h
    { w.conns h with queued := (w.conns h).queued ++ (Library.async w.calls).arrivals }

/-- The reply that the next synchronous method records. -/
def replied [Library] : RpcReply := (w.conns h).placeReply h (Library.sync w.calls).reply

/-- What a synchronous method on `channel` returns. -/
def okPtr [Library] (channel : ChannelId) : OkPtr :=
  let ref := (w.conns h).ref h channel
  ⟨ref, (Library.sync w.calls).ok.map (⟨·, .pool ref⟩)⟩

@[simp] theorem afterSync_lastReply [Library] (f : CFunction) (channel : ChannelId)
    (args : List Arg) : ((w.afterSync h f channel args).conns h).lastReply = w.replied h := by
  simp [afterSync, replied]

@[simp] theorem afterAsync_lastReply [Library] (f : CFunction) (channel : ChannelId)
    (args : List Arg) :
    ((w.afterAsync h f channel args).conns h).lastReply = (w.conns h).lastReply := by
  simp [afterAsync]

/-- The world after the reply was examined and the buffers of `channel` were
released. -/
def settled (channel : ChannelId) : World :=
  ((w.tell (.call .getRpcReply h [])).tell
    (.call .maybeReleaseBuffersOnChannel h [.channel channel])).setConn h
      ((w.conns h).recycle (· == channel))

/-- From `w` to `w'` the log grew, by entries of which all satisfy `P`. -/
def Appends (P : Event → Prop) (w w' : World) : Prop :=
  ∃ es, w'.log = w.log ++ es ∧ ∀ e ∈ es, P e

instance (P : Event → Prop) : Std.Refl (Appends P) :=
  ⟨fun _ => ⟨[], (List.append_nil _).symm, fun _ he => nomatch he⟩⟩

instance (P : Event → Prop) : IsTrans World (Appends P) where
  trans := by
    rintro u v w ⟨es, hes, hp⟩ ⟨es', hes', hp'⟩
    refine ⟨es ++ es', by rw [hes', hes, List.append_assoc], fun e he => ?_⟩
    rcases List.mem_append.mp he with he | he
    · exact hp e he
    · exact hp' e he

theorem Appends.of_log_eq {P : Event → Prop} {w w' : World} (hlog : w'.log = w.log) :
    Appends P w w' :=
  ⟨[], hlog.trans (List.append_nil _).symm, fun _ he => nomatch he⟩

theorem Appends.of_tell {P : Event → Prop} {w w' : World} {e : Event}
    (hlog : w'.log = w.log ++ [e]) (he : P e) : Appends P w w' :=
  ⟨[e], hlog, fun _ he' => List.mem_singleton.mp he' ▸ he⟩

/-- Appending to a log that grew by `P` so far. -/
theorem appends_iff {P : Event → Prop} {u v w : World} {es : List Event}
    (huv : Appends P u v) (hvw : w.log = v.log ++ es) : Appends P u w ↔ ∀ e ∈ es, P e := by
  obtain ⟨es', hlog, hp⟩ := huv
  constructor
  · rintro ⟨all, hall, hpall⟩ e he
    rw [hvw, hlog, List.append_assoc] at hall
    exact hpall e (List.append_cancel_left hall ▸ List.mem_append_right _ he)
  · intro h
    exact IsTrans.trans u v w ⟨es', hlog, hp⟩ ⟨es, hvw, h⟩

end World

section Rpc

variable [Library] {α : Type} {w w' : World} {a : α}

/-! ## Examining a reply -/

/-- `processReply` lets exactly the normal replies pass. -/
theorem processReply_ok_iff {context : String} {reply : RpcReply} :
    Connection.processReply context reply = .ok () ↔ reply.replyType = .normal := by
  unfold Connection.processReply
  cases reply.replyType with
  | normal => simp
  | none | libraryException | other _ => simp
  | serverException =>
      simp only [reduceCtorEq, iff_false]
      split <;> intro h <;> cases h

/-- Everything `processReply` throws is one of the four classes. -/
theorem processReply_error {context : String} {reply : RpcReply} {e : Exc}
    (h : Connection.processReply context reply = .error e) :
    (∃ what, e = .rpc reply what) ∨ (∃ what, e = .library reply what) ∨
      (∃ what, e = .channelClose 0 what) ∨ (∃ what, e = .connectionClose what) := by
  unfold Connection.processReply at h
  split at h
  · cases h
  · cases h
    exact .inl ⟨_, rfl⟩
  · cases h
    exact .inr (.inl ⟨_, rfl⟩)
  · split at h
    · cases h
      exact .inr (.inr (.inr ⟨_, rfl⟩))
    · cases h
      exact .inr (.inr (.inl ⟨_, rfl⟩))
    · cases h
      exact .inl ⟨_, rfl⟩
  · cases h
    exact .inl ⟨_, rfl⟩

/-! ## The two rpc functions -/

/-- The world after the reply was examined, and the buffers of all channels released if it
passed and that was asked for. -/
def World.examined (w : World) (h : Handle) (verdict : Except Exc Unit) (maybeRelease : Bool) :
    World :=
  if verdict = .ok () ∧ maybeRelease = true then
    ((w.tell (.call .getRpcReply h [])).tell (.call .maybeReleaseBuffers h [])).setConn h
      ((w.conns h).recycle (fun _ => true))
  else w.tell (.call .getRpcReply h [])

/-- What `Connection::rpc` makes of a call that did not end the program: the reply is
examined on the way out. -/
theorem Connection.rpcWith_of {self : Connection} {maybeRelease : Bool} {context : String}
    {f : Handle → Code World Exc α} {o : Outcome Exc α} (ho : o ≠ .terminate)
    (hf : (f self.connection_).run w = (o, w')) :
    (self.rpcWith maybeRelease context f).run w =
      let verdict := Connection.processReply (self.context_ ++ context)
        (w'.conns self.connection_).lastReply
      (o.leave (.checked () verdict), w'.examined self.connection_ verdict maybeRelease) := by
  rw [Connection.rpcWith, defer, scopeExit_of ho hf]
  cases hv : Connection.processReply (self.context_ ++ context)
      (w'.conns self.connection_).lastReply with
  | error e => simp [run_bind, amqpGetRpcReply, hv, Outcome.checked, World.examined]
  | ok _ =>
      cases maybeRelease <;>
        simp [run_bind, amqpGetRpcReply, hv, Outcome.checked, amqpMaybeReleaseBuffers,
          World.examined]

/-- What `Connection::rpc` makes of a call that returned: the call's value if the
recorded reply passes, and the buffers released if that was asked for. -/
theorem Connection.rpcWith_of_ret {self : Connection} {maybeRelease : Bool} {context : String}
    {f : Handle → Code World Exc α} (hf : (f self.connection_).run w = (.ret a, w')) :
    (self.rpcWith maybeRelease context f).run w =
      let verdict := Connection.processReply (self.context_ ++ context)
        (w'.conns self.connection_).lastReply
      let asked := w'.tell (.call .getRpcReply self.connection_ [])
      (.checked a verdict,
        if verdict = .ok () ∧ maybeRelease = true then
          (asked.tell (.call .maybeReleaseBuffers self.connection_ [])).setConn
            self.connection_ ((w'.conns self.connection_).recycle (fun _ => true))
        else asked) := by
  rw [Connection.rpcWith_of (by nofun) hf]
  dsimp only
  rw [Outcome.ret_leave_checked]
  rfl

/-- The handle the channel's calls are made with. -/
def Channel.handle (self : Channel) : Handle := self.connection_.connection_

/-- What `processReply` says to a reply on behalf of the channel. -/
def Channel.verdict (self : Channel) (context : String) (reply : RpcReply) : Except Exc Unit :=
  Connection.processReply (self.connection_.context_ ++ (self.context_ ++ context)) reply

theorem Channel.verdict_ok_iff (self : Channel) (context : String) {reply : RpcReply} :
    self.verdict context reply = .ok () ↔ reply.replyType = .normal :=
  processReply_ok_iff

theorem Channel.not_normal_of_error {self : Channel} {context : String} {reply : RpcReply}
    {e : Exc} (h : self.verdict context reply = .error e) : reply.replyType ≠ .normal := by
  intro hn
  rw [(self.verdict_ok_iff context).mpr hn] at h
  cases h

/-- What `Channel::rpc` makes of a call that returned. -/
theorem Channel.rpcWith_of_ret {self : Channel} {context : String}
    {f : Handle → ChannelId → Code World Exc α}
    (hf : (f self.handle self.channel_).run w = (.ret a, w')) :
    (self.rpcWith context f).run w =
      (.checked a (self.verdict context (w'.conns self.handle).lastReply),
        w'.settled self.handle self.channel_) := by
  have hrpc : (self.connection_.rpcWith false (self.context_ ++ context)
      (fun c => f c self.channel_)).run w = _ := Connection.rpcWith_of_ret hf
  simp only [Bool.false_eq_true, and_false, if_false] at hrpc
  rw [Channel.rpcWith, defer, scopeExit_of (Outcome.checked_ne_terminate _ _) hrpc]
  simp [amqpMaybeReleaseBuffersOnChannel, World.settled, Channel.verdict, Channel.handle]

section Methods

variable {self : Channel} {context : String} {f : CFunction} {args : List Arg}

/-- A synchronous method through `Channel::rpc`: its own reply is examined. -/
theorem Channel.rpcWith_sync {c : Handle → ChannelId → Code World Exc OkPtr}
    (hc : (c self.handle self.channel_).run w =
      (.ret (w.okPtr self.handle self.channel_), w.afterSync self.handle f self.channel_ args)) :
    (self.rpcWith context c).run w =
      (.checked (w.okPtr self.handle self.channel_)
          (self.verdict context (w.replied self.handle)),
        (w.afterSync self.handle f self.channel_ args).settled self.handle self.channel_) := by
  rw [Channel.rpcWith_of_ret hc, World.afterSync_lastReply]

/-- An asynchronous method through `Channel::rpc`: the reply examined is the one
that was on record before. -/
theorem Channel.rpcWith_async {c : Handle → ChannelId → Code World Exc Status}
    (hc : (c self.handle self.channel_).run w =
      (.ret (Library.async w.calls).status, w.afterAsync self.handle f self.channel_ args)) :
    (self.rpcWith context c).run w =
      (.checked (Library.async w.calls).status
          (self.verdict context (w.conns self.handle).lastReply),
        (w.afterAsync self.handle f self.channel_ args).settled self.handle self.channel_) := by
  rw [Channel.rpcWith_of_ret hc, World.afterAsync_lastReply]

/-- The pool of what a synchronous method returned, once `Channel::rpc` is left. -/
theorem okPtr_alive_iff (f : CFunction) (args : List Arg) {h : Handle} {channel : ChannelId}
    {w : World} :
    ((w.afterSync h f channel args).settled h channel).poolAlive (w.okPtr h channel).ref = true ↔
      channel ∈ (w.conns h).queued ++ (Library.sync w.calls).arrivals := by
  simp [World.settled, World.afterSync, World.okPtr, ConnState.ref, ConnState.recycle,
    World.poolAlive]

end Methods

end Rpc

/-! ## Argument tables -/

section Tables

variable {α : Type} {w w' : World}

/-- The world while the table of `args` lives. -/
def World.withTable (w : World) (args : List TableEntry) : World :=
  { w with mem := (Table.make args w.mem).2 }

/-- The world when the table of `args`, made in `w`, is destroyed. -/
def World.withoutTable (w' w : World) (args : List TableEntry) : World :=
  { w' with mem := w'.mem.free (Table.make args w.mem).1.cache_.data }

theorem withArguments_of {args : List TableEntry} {scope : RawTable → Code World Exc α}
    {o : Outcome Exc α} (ho : o ≠ .terminate)
    (h : (scope (Table.make args w.mem).1.toRaw).run (w.withTable args) = (o, w')) :
    (withArguments args scope).run w = (o, w'.withoutTable w args) := by
  show (scopeExit (modify _) (scope (Table.make args w.mem).1.toRaw)).run (w.withTable args) = _
  rw [scopeExit_of ho h, run_modify, Outcome.leave_ret]
  rfl

theorem withArguments_of_terminate {args : List TableEntry}
    {scope : RawTable → Code World Exc α}
    (h : (scope (Table.make args w.mem).1.toRaw).run (w.withTable args) = (.terminate, w')) :
    (withArguments args scope).run w = (.terminate, w') := by
  show (scopeExit (modify _) (scope (Table.make args w.mem).1.toRaw)).run (w.withTable args) = _
  simp only [scopeExit, h]

/-- The table leaves no trace in the outcome and in the log. -/
theorem withArguments_run (args : List TableEntry) (scope : RawTable → Code World Exc α)
    (w : World) :
    ((withArguments args scope).run w).1 =
        ((scope (Table.make args w.mem).1.toRaw).run (w.withTable args)).1 ∧
      ((withArguments args scope).run w).2.log =
        ((scope (Table.make args w.mem).1.toRaw).run (w.withTable args)).2.log := by
  match h : (scope (Table.make args w.mem).1.toRaw).run (w.withTable args) with
  | (.ret _, _) | (.thrown _, _) =>
      rw [withArguments_of (by nofun) h]
      exact ⟨rfl, rfl⟩
  | (.terminate, _) =>
      rw [withArguments_of_terminate h]
      exact ⟨rfl, rfl⟩

/-- An observation that does not look at the storage. -/
theorem leaves_withArguments {τ : Type} {f : World → τ} {v : τ}
    (hf : ∀ (w : World) (m : Memory), f { w with mem := m } = f w) {args : List TableEntry}
    {scope : RawTable → Code World Exc α}
    (h : Leaves f v (scope (Table.make args w.mem).1.toRaw) (w.withTable args)) :
    Leaves f v (withArguments args scope) w := by
  unfold Leaves at h ⊢
  match hr : (scope (Table.make args w.mem).1.toRaw).run (w.withTable args) with
  | (.ret _, w') | (.thrown _, w') =>
      rw [hr] at h
      rw [withArguments_of (by nofun) hr]
      exact (hf w' _).trans h
  | (.terminate, _) =>
      rw [hr] at h
      rw [withArguments_of_terminate hr]
      exact h

end Tables
end RmqCxx
