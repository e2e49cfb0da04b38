/-
# `RmqCxx.AdvConsumerCalls` — what the worker's code does

One statement for each piece of the worker's function: connecting (`connect_connects`),
a turn of a poll (`turn_polls`), sending an acknowledgement (`ack_acks`) and leaving the `try`
block (`destroy_leaves`).  Each says how the conversation over a handle goes on, in the
protocol of `RmqCxx.Sessions`, that nothing is logged about other handles, and which
acknowledgements are sent.
-/
import RmqCxx.Deliveries
import RmqCxx.OwnExceptions
import RmqCxx.Polling
import Mathlib.Order.BooleanAlgebra.Set

namespace RmqCxx

open Cpp Code

/-! ## Acknowledgements in the log -/

/-- The acknowledgement that an entry is: the handle, and the tag. -/
def Event.ack : Event → Option (Handle × Int)
  | .call .basicAck h [_, .num tag, _] => some (h, tag)
  | _ => none

def World.acks (w : World) : List (Handle × Int) := w.log.filterMap Event.ack

/-- An entry that is no acknowledgement, and about no handle but `n`. -/
def Event.Inside (n : Nat) (e : Event) : Prop :=
  e.ack = none ∧ ∀ m, e.concerns (some m) = true → m = n

section Inside

variable {n m : Nat} {w w' : World} {P : Event → Prop}

theorem acks_of_appends (h : World.Appends P w w') (hP : ∀ e, P e → e.ack = none) :
    w'.acks = w.acks := by
  obtain ⟨es, hlog, hes⟩ := h
  have hnone : es.filterMap Event.ack = [] :=
    List.filterMap_eq_nil_iff.mpr fun e he => hP e (hes e he)
  rw [World.acks, hlog, List.filterMap_append, hnone, List.append_nil]
  rfl

theorem Event.Inside.elsewhere {e : Event} (h : e.Inside n) (hne : m ≠ n) :
    e.concerns (some m) = false := by
  cases hc : e.concerns (some m) with
  | false => rfl
  | true => exact absurd (h.2 m hc) hne

theorem recordOf_of_inside (h : World.Appends (Event.Inside n) w w') (hne : m ≠ n) :
    w'.recordOf m = w.recordOf m := by
  obtain ⟨es, hlog, hes⟩ := h
  have hnone : record (some m) es = [] :=
    List.filter_eq_nil_iff.mpr fun e he => by simp [(hes e he).elsewhere hne]
  rw [World.recordOf, hlog, record_append, hnone, List.append_nil]
  rfl

theorem inside_call {f : CFunction} {args : List Arg} (hf : f ≠ .basicAck) :
    (Event.call f (some n) args).Inside n := by
  refine ⟨?_, fun m hm => ?_⟩
  · cases f with
    | basicAck => exact absurd rfl hf
    | _ => rfl
  · simp only [Event.concerns, beq_iff_eq, Option.some.injEq] at hm
    exact hm.symm

theorem Channel.Logs.inside {self : Channel} {F : CFunction → Bool} {e : Event}
    (h : self.Logs F e) (hh : self.handle = some n) (hF : F .basicAck = false) : e.Inside n := by
  cases h with
  | @method f args hf =>
      rw [hh]
      refine inside_call ?_
      rintro rfl
      rw [hF] at hf
      cases hf
  | reply | release =>
      rw [hh]
      exact inside_call (by simp)
  | read ref live => exact ⟨rfl, by simp [Event.concerns]⟩

theorem Connection.Logs.inside {self : Connection} {e : Event} (h : self.Logs e)
    (hh : self.connection_ = some n) : e.Inside n := by
  cases h with
  | wait hf =>
      rw [hh]
      rcases hf with rfl | rfl | rfl <;> exact inside_call (by simp)
  | release =>
      rw [hh]
      exact inside_call (by simp)
  | envelope | message => exact ⟨rfl, by simp [Event.concerns]⟩

theorem recordOf_of_chat {opened : Set ChannelId}
    (h : w.Does (Event.Chat (some n) opened) w') (hne : m ≠ n) :
    w'.recordOf m = w.recordOf m := by
  obtain ⟨⟨es, hlog, hes⟩, -⟩ := h
  have hnone : record (some m) es = [] :=
    (record_chat hes).2 fun h => hne (Option.some.inj h).symm
  rw [World.recordOf, hlog, record_append, hnone, List.append_nil]
  rfl

/-- Calls that change nothing in the conversation over `n`. -/
theorem grows_of_chat {opened : Set ChannelId}
    (h : w.Does (Event.Chat (some n) opened) w') :
    Grows Session.Step (World.recordOf n) (.connected opened) (· = .connected opened) w w' := by
  obtain ⟨⟨es, hlog, hes⟩, -⟩ := h
  refine ⟨record (some n) es, _, ?_, (record_chat hes).1 rfl, rfl⟩
  rw [World.recordOf, hlog, record_append]
  rfl

end Inside

/-! ## The pieces of a session -/

/-- An entry of the log while channel 1 of the connection is open. -/
def Event.InSession (n : Nat) (e : Event) : Prop := e.Chat (some n) {1} ∧ e.Inside n

/-- Code that follows the protocol of the handle `n`. -/
abbrev Converses {α : Type} (n : Nat) (p : Session) (R T : Session → Prop)
    (c : Code World Exc α) : Prop :=
  Leads Session.Step (World.recordOf n) p R T c

section Pieces

variable {α : Type} {n : Nat} {p : Session} {R T : Session → Prop} {opened : Set ChannelId}

/-- Code that returns, and logs nothing. -/
theorem converses_quiet {c : Code World Exc α} {v : World → α} {g : World → World}
    (hc : ∀ w, c.run w = (.ret (v w), g w)) (hlog : ∀ w, (g w).log = w.log) (hR : R p) :
    Converses n p R T c := by
  intro w
  rw [hc]
  refine ⟨[], p, ?_, .nil p, hR⟩
  rw [World.recordOf, hlog, List.append_nil]
  rfl

theorem converses_chat {c : Code World Exc α}
    (hc : Keeps (World.Does (Event.Chat (some n) opened)) c) (hR : R (.connected opened))
    (hT : T (.connected opened)) : Converses n (.connected opened) R T c :=
  leads_of_keeps (fun w => grows_of_chat (hc w)) hR hT

theorem grows_sends {q : Session} {w w' : World} {f : CFunction} {args : List Arg}
    (hsends : w.Sends f (some n) args w')
    (hstep : Session.Step (.connected opened) (.call f (some n) args) q)
    (hq : ∃ opened', q = .connected opened') (hR : R q) :
    Grows Session.Step (World.recordOf n) (.connected opened) R w w' := by
  obtain ⟨opened', rfl⟩ := hq
  obtain ⟨⟨rest, hlog, hrest⟩, -⟩ := hsends
  have hchat : ∀ e ∈ rest, e.Chat (some n) opened' := by
    intro e he
    rcases hrest e he with rfl | rfl
    · exact .plain _ rfl
    · exact .plain _ rfl
  refine ⟨.call f (some n) args :: record (some n) rest, _, ?_,
    .cons hstep ((record_chat hchat).1 rfl), hR⟩
  have hcons : record (some n) (.call f (some n) args :: rest) =
      .call f (some n) args :: record (some n) rest :=
    List.filter_cons_of_pos (by simp [Event.concerns])
  rw [World.recordOf, hlog, record_append, hcons]
  rfl

theorem World.Sends.inside {w w' : World} {f : CFunction} {args : List Arg}
    (hsends : w.Sends f (some n) args w') (hf : f ≠ .basicAck) : w.Does (Event.Inside n) w' := by
  obtain ⟨⟨rest, hlog, hrest⟩, hnext⟩ := hsends
  refine ⟨⟨_, hlog, List.forall_mem_cons.mpr ⟨inside_call hf, fun e he => ?_⟩⟩, hnext⟩
  rcases hrest e he with rfl | rfl
  · exact inside_call (by simp)
  · exact inside_call (by simp)

variable [Library] {connection : Connection} (hh : connection.connection_ = some n)

include hh

theorem converses_destroy (hR : R .destroyed) :
    Converses n (.connected opened) R T connection.destroy := by
  intro w
  rw [destroy_run_some hh]
  refine ⟨[.call .connectionClose (some n) [.channel 0, .num amqpReplySuccess],
    .call .getRpcReply (some n) [], .call .destroyConnection (some n) []], .destroyed, ?_, ?_, hR⟩
  · simp [World.recordOf, World.afterSync, record, Event.concerns]
  · exact .cons (.life (.close _ _)) (.cons (.life (.look _ _)) (.single (.life (.destroy _ _))))

theorem inside_destroy : Keeps (World.Does (Event.Inside n)) connection.destroy := by
  intro w
  rw [destroy_run_some hh]
  refine ⟨⟨[.call .connectionClose (some n) [.channel 0, .num amqpReplySuccess],
    .call .getRpcReply (some n) [], .call .destroyConnection (some n) []], ?_, ?_⟩, rfl⟩
  · simp [World.afterSync]
  · rintro e (_ | ⟨_, _ | ⟨_, _ | ⟨_, he⟩⟩⟩)
    · exact inside_call (by simp)
    · exact inside_call (by simp)
    · exact inside_call (by simp)
    · cases he

end Pieces

section Pieces

variable [Library] {n : Nat} {R T : Session → Prop} {opened : Set ChannelId} {channel : Channel}
  (hh : channel.handle = some n)

include hh

theorem converses_channel_destroy (hmoved : channel.moved_ = false)
    (hopened : channel.channel_ ∈ opened) (hR : R (.connected (opened \ {channel.channel_}))) :
    Converses n (.connected opened) R T channel.destroy := by
  intro w
  obtain ⟨w', hrun, hsends⟩ := channel_destroy_run hmoved w
  rw [hh] at hsends
  rw [hrun]
  exact grows_sends hsends (.closeChannel _ _ hopened) ⟨_, rfl⟩ hR

theorem inside_channel_destroy (hmoved : channel.moved_ = false) :
    Keeps (World.Does (Event.Inside n)) channel.destroy := by
  intro w
  obtain ⟨w', hrun, hsends⟩ := channel_destroy_run hmoved w
  rw [hh] at hsends
  rw [hrun]
  exact hsends.inside (by simp)

/-- The loop over the queues. -/
theorem inSession_consumeQueues (hid : channel.channel_ = 1) (arg : TableEntry)
    (queues : List String) :
    Keeps (World.Does (Event.InSession n)) (Consumer.consumeQueues channel arg queues) := by
  induction queues with
  | nil => exact keeps_pure ()
  | cons x queues ih =>
      refine keeps_bind (fun w => ?_) fun _ => ih
      have hasks := consume_asks (Queue.make channel x) (F := (· == .basicConsume)) rfl "" false
        false false [arg] w
      refine hasks.does.mono fun e he => ⟨?_, ?_⟩
      · rw [← hh]
        refine he.chat (fun f hf => ?_) hid
        rw [eq_of_beq hf]
        rfl
      · exact he.inside hh rfl

end Pieces

/-! ## Connecting, and leaving -/

namespace Consumer

/-- What the worker has while it is connected. -/
structure Locals.Over (locals : Locals) (n : Nat) : Prop where
  connection : locals.connection.connection_ = some n
  channel : locals.channel.handle = some n
  number : locals.channel.channel_ = 1
  owner : locals.channel.moved_ = false

section Connect

variable [Library]

variable {n : Nat} (self : Consumer)

theorem converses_prepare {channel : Channel} (hh : channel.handle = some n)
    (hid : channel.channel_ = 1) (connection : Connection) {R T : Session → Prop}
    (hR : R (.connected {1})) (hT : T (.connected {1})) :
    Converses n (.connected {1}) R T (self.prepare connection channel) := by
  refine leads_bind (converses_quiet (R := (· = .connected {1})) (fun _ => rfl) (fun _ => rfl)
    rfl) ?_
  rintro arg _ rfl
  refine leads_constructing (N := (· = .connected {1})) ?_ ?_
  · refine leads_bind (converses_chat (R := (· = .connected {1}))
      (keeps_mono (fun _ _ h => h.mono fun e he => he.1)
        (inSession_consumeQueues hh hid arg self.queuesToConsume_)) rfl rfl) ?_
    rintro _ _ rfl
    exact leads_pure _ hR
  · rintro _ rfl
    exact converses_quiet (fun _ => rfl) (fun _ => rfl) hT

theorem inside_prepare {channel : Channel} (hh : channel.handle = some n)
    (hid : channel.channel_ = 1) (connection : Connection) :
    Keeps (World.Does (Event.Inside n)) (self.prepare connection channel) := by
  have harg : Keeps (World.Does (Event.Inside n)) queueType :=
    keeps_of_run (fun _ => rfl) fun _ => .of_log_eq rfl rfl
  refine keeps_bind harg fun arg => ?_
  refine keeps_constructing (keeps_modify fun _ => .of_log_eq rfl rfl) ?_
  refine keeps_bind ?_ fun _ => keeps_pure _
  exact keeps_mono (fun _ _ h => h.mono fun e he => he.2)
    (inSession_consumeQueues hh hid arg self.queuesToConsume_)

theorem over_prepare {channel : Channel} {connection : Connection}
    (h : ∀ arg, (⟨connection, channel, arg⟩ : Locals).Over n) :
    Returns (fun (locals : Locals) _ => locals.Over n) (self.prepare connection channel) :=
  returns_then fun arg =>
    returns_constructing (returns_then fun _ => returns_pure fun _ => h arg)

/-- What a part of the `try` block does before the loop, over the handle `n`. -/
structure Opens (n : Nat) (p : Session) (T : Session → Prop) (w : World)
    (r : Outcome Exc Locals × World) : Prop where
  grows : Grows Session.Step (World.recordOf n) p
    (Outcome.Allows (· = .connected {1}) T r.1) w r.2
  inside : World.Appends (Event.Inside n) w r.2
  made : ∀ locals, r.1 = .ret locals → locals.Over n

theorem openChannel_opens {connection : Connection} (hh : connection.connection_ = some n)
    (w : World) : Opens n (.connected ∅) (· = .connected ∅) w
        ((self.openChannel connection).run w) ∧
      ((self.openChannel connection).run w).2.nextHandle = w.nextHandle := by
  obtain ⟨r, w', hrun, hsends⟩ := channel_make_run connection 1 w
  rw [hh] at hsends
  have hinside := (hsends.inside (by simp)).log
  cases r with
  | error e =>
      rw [openChannel, bind_of_thrown hrun]
      exact ⟨⟨grows_sends hsends (.refused _ _ (Set.notMem_empty 1)) ⟨_, rfl⟩ rfl, hinside,
        fun locals h => by cases h⟩, hsends.nextHandle⟩
  | ok _ =>
      let channel : Channel :=
        ⟨connection, 1, "Channel(" ++ toString (1 : ChannelId).toNat ++ "): ", false⟩
      have hchannel : channel.handle = some n := hh
      rw [openChannel, bind_of_ret hrun]
      have hopened : Grows Session.Step (World.recordOf n) (.connected ∅) (· = .connected {1})
          w w' := by
        refine grows_sends hsends (.accepted _ _ (Set.notMem_empty 1)) ⟨_, rfl⟩ ?_
        rw [insert_empty_eq]
      have hrest : Converses n (.connected {1}) (· = .connected {1}) (· = .connected ∅)
          (constructing channel.destroy (self.prepare connection channel)) := by
        refine leads_constructing (self.converses_prepare hchannel rfl connection rfl
          (T := (· = .connected {1})) rfl) ?_
        rintro _ rfl
        refine converses_channel_destroy hchannel rfl rfl ?_
        rw [Set.sdiff_self]
      have hkeeps := keeps_constructing (inside_channel_destroy hchannel rfl)
        (self.inside_prepare hchannel rfl connection)
      refine ⟨⟨hopened.trans fun q hq => hq ▸ hrest w',
        IsTrans.trans _ _ _ hinside (hkeeps w').log, ?_⟩,
        (hkeeps w').nextHandle.trans hsends.nextHandle⟩
      exact fun locals => returns_constructing
        (self.over_prepare fun _ => ⟨hh, hchannel, rfl, rfl⟩) w' locals

/-- What the whole `try` block does before the loop: it is about the next handle. -/
structure Connects (w : World) (r : Outcome Exc Locals × World) : Prop
    extends Opens w.nextHandle .fresh (fun p => p = .fresh ∨ p = .destroyed) w r where
  nextHandle : r.2.nextHandle = w.nextHandle + 1 ∨
    (r.2.nextHandle = w.nextHandle ∧ r.2.log = w.log ++ [.newConnection none])
  quiet : w.Quiet r.2

/-- The calls of a constructor of a connection with the handle it makes. -/
theorem inside_setup (setup : Setup) (w : World) :
    World.Appends (Event.Inside w.nextHandle) w (setup.code.run w).2 := by
  have hmade := setup_constructed setup w
  obtain ⟨es, q, hview, htrace, -⟩ := setup_grows setup w
  generalize setup.code.run w = r at hmade hview
  have hack : ∀ e ∈ es, e.ack = none := by
    refine htrace.forall fun p e q hstep => ?_
    cases hstep with
    | @setUp f _ _ hf | @loggedIn f _ _ hf | @turnedAway f _ _ hf =>
        cases f with
        | basicAck => cases hf
        | _ => rfl
    | _ => rfl
  have hcalls {calls : List Event} {w' : World}
      (hlog : w'.log = w.log ++ .newConnection (some w.nextHandle) :: calls)
      (hview : World.recordOf w.nextHandle w' = World.recordOf w.nextHandle w ++ es)
      (hall : ∀ e ∈ calls, e.concerns (some w.nextHandle) = true) :
      World.Appends (Event.Inside w.nextHandle) w w' := by
    have hconcerns : ∀ e ∈ Event.newConnection (some w.nextHandle) :: calls,
        e.concerns (some w.nextHandle) = true :=
      List.forall_mem_cons.mpr ⟨beq_self_eq_true _, hall⟩
    rw [World.recordOf, hlog, record_append, record_self hconcerns] at hview
    refine ⟨_, hlog, fun e he => ⟨?_, fun m hm => ?_⟩⟩
    · exact hack e (List.append_cancel_left hview ▸ he)
    · exact Option.some.inj (concerns_unique hm (hconcerns e he))
  cases hmade with
  | noHandle hlog _ =>
      refine ⟨_, hlog, List.forall_mem_singleton.mpr ⟨rfl, fun m hm => ?_⟩⟩
      cases hm
  | object hlog _ _ hall _ => exact hcalls hlog hview hall
  | failed hlog _ hall _ => exact hcalls hlog hview hall

theorem quiet_consumeQueues (channel : Channel) (arg : TableEntry) (queues : List String) :
    Keeps World.Quiet (consumeQueues channel arg queues) := by
  induction queues with
  | nil => exact keeps_pure ()
  | cons x queues ih =>
      exact keeps_bind (quiet_queue_consume _ "" false false false [arg]) fun _ => ih

theorem quiet_connect : Keeps World.Quiet self.connect := by
  refine keeps_bind (quiet_makePlain _ _ _ _ _ _ _ _ _) fun connection => ?_
  refine keeps_constructing (quiet_destroy connection) ?_
  refine keeps_bind (quiet_channel_make connection 1) fun channel => ?_
  refine keeps_constructing (quiet_channel_destroy channel) ?_
  refine keeps_bind (fun w => .of_log_eq (Nat.le_refl w.calls) rfl) fun arg => ?_
  refine keeps_constructing (fun w => .of_log_eq (Nat.le_refl w.calls) rfl) ?_
  exact keeps_bind (quiet_consumeQueues channel arg _) fun _ => keeps_pure _

theorem connect_connects (w : World) : Connects w (self.connect.run w) := by
  let setup : Setup := .plain self.host_ self.port_ self.username_ self.password_ self.vhost_
    0 131072 1 (⟨1⟩ : Duration .seconds)
  have hmade := setup_constructed setup w
  have hgrows := (setup_grows setup w).mono_step fun _ _ _ => Session.Step.life
  have hinside := inside_setup setup w
  have hquiet := self.quiet_connect w
  have hconnect : self.connect = setup.code >>= fun connection =>
    constructing connection.destroy (self.openChannel connection) := rfl
  generalize hr : setup.code.run w = r at hmade hgrows hinside
  cases hmade with
  | noHandle hlog hnext =>
      rw [hconnect, bind_of_thrown hr] at hquiet ⊢
      exact ⟨⟨hgrows, hinside, fun locals h => by cases h⟩, .inr ⟨hnext, hlog⟩, hquiet⟩
  | failed _ hnext _ _ =>
      rw [hconnect, bind_of_thrown hr] at hquiet ⊢
      exact ⟨⟨hgrows, hinside, fun locals h => by cases h⟩, .inl hnext, hquiet⟩
  | @object connection w' _ _ hnext hh _ _ =>
      rw [hconnect, bind_of_ret hr] at hquiet ⊢
      have hopens := self.openChannel_opens hh
      have hrest : Converses w.nextHandle (.connected ∅) (· = .connected {1})
          (fun p => p = .fresh ∨ p = .destroyed)
          (constructing connection.destroy (self.openChannel connection)) := by
        refine leads_constructing (fun w => (hopens w).1.grows) ?_
        rintro _ rfl
        exact converses_destroy hh (.inr rfl)
      have hall : Keeps (World.Does (Event.Inside w.nextHandle))
          (constructing connection.destroy (self.openChannel connection)) :=
        keeps_constructing (inside_destroy hh) fun w => ⟨(hopens w).1.inside, (hopens w).2⟩
      refine ⟨⟨hgrows.trans fun q hq => hq ▸ hrest w',
        IsTrans.trans _ _ _ hinside (hall w').log, fun locals => ?_⟩,
        .inl ((hall w').nextHandle.trans hnext), hquiet⟩
      exact returns_constructing (Q := fun locals _ => locals.Over w.nextHandle)
        (fun v => (hopens v).1.made) w' locals

end Connect

section Loop

variable [Library] {n : Nat} {locals : Locals}

/-- The end of the `try` block over the handle `n`. -/
structure Leaves (n : Nat) (w w' : World) : Prop where
  grows : Grows Session.Step (World.recordOf n) (.connected {1}) (· = .destroyed) w w'
  does : w.Does (Event.Inside n) w'
  quiet : w.Quiet w'

theorem destroy_leaves (h : locals.Over n) (w : World) :
    ∃ w', locals.destroy.run w = (.ret (), w') ∧ Leaves n w w' := by
  have hleads : Converses n (.connected {1}) (· = .destroyed) (fun _ => False)
      locals.destroy := by
    refine leads_bind (converses_quiet (R := (· = .connected {1})) (fun _ => rfl)
      (fun _ => rfl) rfl) ?_
    rintro _ _ rfl
    refine leads_bind (converses_channel_destroy (R := (· = .connected ({1} \ {1}))) h.channel
      h.owner h.number (by rw [h.number])) ?_
    rintro _ _ rfl
    exact converses_destroy h.connection rfl
  have hkeeps : Keeps (World.Does (Event.Inside n)) locals.destroy :=
    keeps_bind (keeps_modify fun _ => .of_log_eq rfl rfl) fun _ =>
      keeps_bind (inside_channel_destroy h.channel h.owner) fun _ => inside_destroy h.connection
  have hquiet : Keeps World.Quiet locals.destroy :=
    keeps_bind (fun w => .of_log_eq (Nat.le_refl w.calls) rfl) fun _ =>
      keeps_bind (quiet_channel_destroy locals.channel) fun _ => quiet_destroy locals.connection
  obtain ⟨w₁, hchannel, -⟩ := channel_destroy_run h.owner
    { w with mem := w.mem.free locals.arg.key_.data }
  have hrun : locals.destroy.run w = (.ret (), (locals.destroy.run w).2) := by
    have harg : (dropArgument locals.arg).run w =
      (.ret (), { w with mem := w.mem.free locals.arg.key_.data }) := rfl
    rw [Locals.destroy, bind_of_ret harg, bind_of_ret hchannel,
      destroy_run_some h.connection]
  refine ⟨_, hrun, ?_, hkeeps w, hquiet w⟩
  have hgrows := hleads w
  rw [hrun] at hgrows
  exact hgrows

/-- A turn of a poll over `n`. -/
structure Polls (n : Nat) (w : World)
    (r : Outcome Exc (Bool × ClockDuration × Bool) × List Message × World) : Prop
    extends Takes (some n) ⟨0⟩ w r where
  does : w.Does (Event.InSession n) r.2.2
  briefly : w.WaitsBriefly r.2.2

theorem turn_polls (h : locals.Over n) (start : ClockDuration) {vars : ClockDuration × Bool}
    (hvars : vars.1 = ⟨0⟩) (w : World) : Polls n w ((locals.turn start vars).run ([], w)) := by
  have hP (e : Event) (he : locals.connection.Logs e) : e.InSession n := by
    have hchat : e.Chat locals.connection.connection_ {1} := he.chat
    rw [h.connection] at hchat
    exact ⟨hchat, he.inside h.connection⟩
  have hS (v : List Message) (w w' : World) (hd : w.Does (Event.InSession n) w') :
      Beneath (World.Does (Event.InSession n)) (v, w) (v, w') := hd
  have hcallback : Keeps (Beneath (Beneath (World.Does (Event.InSession n))))
      (emplace locals.connection.connection_) := by
    refine keeps_passByValue (fun e =>
      keeps_beside_of hS (does_destroyEnvelope (fun i => hP _ (.envelope i)) e)) ?_
    exact keeps_modify fun (_, _, w) => refl w
  have hdoes : Keeps (Beneath (World.Does (Event.InSession n))) (locals.turn start vars) :=
    turnAlone_keeps hP hS hcallback start vars
  have htakes := turn_takes locals start vars w
  rw [hvars, nextTimeout_zero, h.connection] at htakes
  exact ⟨htakes, hdoes ([], w), turn_waits locals start hvars w⟩

/-- An acknowledgement over `n`. -/
structure Acks (n : Nat) (id : UInt64) (w w' : World) : Prop where
  chat : w.Does (Event.Chat (some n) {1}) w'
  acks : w'.acks = w.acks ++ [(some n, (id.toNat : Int))]
  quiet : w.Quiet w'

theorem ack_acks (h : locals.Over n) (id : UInt64) (w : World) :
    ∃ o w', (locals.channel.ack id false).run w = (o, w') ∧ Acks n id w w' := by
  have hcall : (amqpBasicAck locals.channel.handle locals.channel.channel_ id false :
      Code World Exc Status).run w = (.ret (Library.async w.calls).status,
        w.afterAsync locals.channel.handle .basicAck locals.channel.channel_
          [.num id.toNat, .flag false]) := rfl
  have hrun : (locals.channel.ack id false).run w = _ :=
    Channel.rpcWith_async (c := (amqpBasicAck · · id false)) hcall
  have hquiet := quiet_ack locals.channel id false w
  rw [hrun] at hquiet
  refine ⟨_, _, hrun, ⟨⟨[.call .basicAck (some n) [.channel 1, .num id.toNat, .flag false],
    .call .getRpcReply (some n) [], .call .maybeReleaseBuffersOnChannel (some n) [.channel 1]],
    ?_, ?_⟩, rfl⟩, ?_, hquiet⟩
  · simp [World.settled, World.afterAsync, h.channel, h.number]
  · rintro e (_ | ⟨_, _ | ⟨_, _ | ⟨_, he⟩⟩⟩)
    · exact .use _ rfl rfl
    · exact .plain _ rfl
    · exact .plain _ rfl
    · cases he
  · simp [World.acks, World.settled, World.afterAsync, h.channel, h.number, Event.ack]

end Loop

/-! ## What the worker has to catch -/

section Throws

theorem caughtBy_of_own {e : Exc} (h : e.Own) : caughtBy e = true := by
  cases e with
  | foreign _ => cases h
  | _ => rfl

variable [Library] (self : Consumer) (locals : Locals)

theorem own_consumeQueues (channel : Channel) (arg : TableEntry) (queues : List String) :
    ThrowsOnly Exc.Own (consumeQueues channel arg queues) := by
  induction queues with
  | nil => exact throwsOnly_pure ()
  | cons x queues ih =>
      exact throwsOnly_bind (own_consume _ "" false false false [arg]) fun _ => ih

theorem own_connect : ThrowsOnly Exc.Own self.connect := by
  let setup : Setup := .plain self.host_ self.port_ self.username_ self.password_ self.vhost_
    0 131072 1 (⟨1⟩ : Duration .seconds)
  have hargument : ThrowsOnly Exc.Own queueType := fun _ => trivial
  refine throwsOnly_bind (own_setup setup) fun connection => ?_
  refine throwsOnly_constructing (return_destroy connection) ?_
  refine throwsOnly_bind (own_channel_make connection 1) fun channel => ?_
  refine throwsOnly_constructing (return_channel_destroy channel) ?_
  refine throwsOnly_bind hargument fun arg => ?_
  refine throwsOnly_constructing (throwsOnly_modify _) ?_
  exact throwsOnly_bind (own_consumeQueues channel arg self.queuesToConsume_) fun _ =>
    throwsOnly_pure _

theorem own_turn (start : ClockDuration) (vars : ClockDuration × Bool) :
    ThrowsOnly Exc.Own (locals.turn start vars) :=
  turnAlone_throwsOnly (fun _ he => he) locals.connection
    (throwsOnly_passByValue (fun e => throwsOnly_beside (return_envelope_destroy e))
      (throwsOnly_modify _)) start vars

theorem own_ack (id : UInt64) : ThrowsOnly Exc.Own (locals.channel.ack id false) := by
  rw [Channel.ack]
  exact own_rpc locals.channel fun _ => trivial

end Throws
end Consumer
end RmqCxx
