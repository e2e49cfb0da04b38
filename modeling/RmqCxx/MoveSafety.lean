/-
# `RmqCxx.MoveSafety` — Envelope, Message, ReturnedMessage and Channel under moves

The four classes own something through a bitwise copy of it and the flag `moved_`.
A move copies what is owned from whatever the source holds, its stale copy
included; an assignment overwrites its target without a look at what the target
owned, and leaves an object assigned to itself marked as moved from.

Each class is a `FlagOwner` together with its destructor, which issues the call
that disposes of the resource.  Over every run of constructions, moves,
assignments and destructions, the calls are those the library's account of
ownership says, so the two exact conditions proved there hold of the code:

* `resources_released_once_iff_sources_own`;
* `structs_destroyed_iff_targets_replaceable`.
-/
import RmqCxx.Wrappers
import RmqCxx.Cpp.Moves

namespace RmqCxx

open Cpp Code Cpp.Ownership

/-! ## The four classes -/

/-- A class whose objects own something, with its destructor and the call by which
that disposes of a resource. -/
structure Owner (O R : Type) extends FlagOwner O R where
  destroy : O → Code World Exc Unit
  disposal : R → Event
  isDisposal : Event → Bool
  destroyed (o : O) (w : World) :
    ((destroy o).run w).2.log.filter isDisposal =
      w.log.filter isDisposal ++ (toFlagOwner.holds o).toList.map disposal

def Event.isDestroyEnvelope : Event → Bool
  | .destroyEnvelope _ => true
  | _ => false

def Event.isDestroyMessage : Event → Bool
  | .destroyMessage _ => true
  | _ => false

def Event.isChannelClose : Event → Bool
  | .call .channelClose _ _ => true
  | _ => false

/-- `AMQPStruct<T>`, where `ident` is the structure an object has a copy of. -/
def AMQPStruct.flagOwner {T : Type} (ident : T → Nat) : FlagOwner (AMQPStruct T) Nat where
  resource o := ident o.memory_
  moved := AMQPStruct.moved_
  moveConstruct := AMQPStruct.moveConstruct
  assignable := true
  moveAssign := AMQPStruct.moveAssign
  selfAssign := AMQPStruct.selfAssign
  constructed _ := ⟨rfl, rfl⟩
  construct_left _ := ⟨rfl, rfl⟩
  assigned _ := ⟨rfl, rfl⟩
  assign_left _ := ⟨rfl, rfl⟩
  self_assigned _ := ⟨rfl, rfl⟩

def Envelope.owner : Owner Envelope Nat where
  toFlagOwner := AMQPStruct.flagOwner AmqpEnvelope.ident
  destroy := Envelope.destroy
  disposal := .destroyEnvelope
  isDisposal := Event.isDestroyEnvelope
  destroyed := by
    rintro ⟨memory, _ | _⟩ w
    · exact List.filter_append _ _
    · exact (List.append_nil _).symm

def Message.owner : Owner Message Nat where
  toFlagOwner := AMQPStruct.flagOwner AmqpMessage.ident
  destroy := Message.destroy
  disposal := .destroyMessage
  isDisposal := Event.isDestroyMessage
  destroyed := by
    rintro ⟨memory, _ | _⟩ w
    · exact List.filter_append _ _
    · exact (List.append_nil _).symm

def ReturnedMessage.owner : Owner ReturnedMessage Nat where
  resource o := o.message_.memory_.ident
  moved o := o.message_.moved_
  moveConstruct := ReturnedMessage.moveConstruct
  assignable := true
  moveAssign := ReturnedMessage.moveAssign
  selfAssign := ReturnedMessage.selfAssign
  constructed _ := ⟨rfl, rfl⟩
  construct_left _ := ⟨rfl, rfl⟩
  assigned _ := ⟨rfl, rfl⟩
  assign_left _ := ⟨rfl, rfl⟩
  self_assigned _ := ⟨rfl, rfl⟩
  destroy := ReturnedMessage.destroy
  disposal := .destroyMessage
  isDisposal := Event.isDestroyMessage
  destroyed := by
    rintro ⟨⟨memory, _ | _⟩, method⟩ w
    · exact List.filter_append _ _
    · exact (List.append_nil _).symm

/-- A channel that was opened; `serial` tells apart the times that one channel
number was opened. -/
structure OpenChannel where
  handle : Handle
  channel : ChannelId
  serial : Nat
  deriving DecidableEq

/-- A `Channel`, and which opening it is about. -/
structure OpenedChannel where
  channel : Channel
  serial : Nat

section Channel

variable [Library]

/-- The destructor of a channel that was not moved from closes it by one call, and
returns whatever the reply is. -/
theorem Channel.destroy_run {self : Channel} (h : self.moved_ = false) (w : World) :
    (self.destroy.run w).1 = .ret () ∧
      (self.destroy.run w).2.log.filter Event.isChannelClose =
        w.log.filter Event.isChannelClose ++
          [.call .channelClose self.handle
            [.channel self.channel_, .num amqpReplySuccess]] := by
  have hrpc : (self.connection_.rpcWith true ""
      (amqpChannelClose · self.channel_ amqpReplySuccess)).run w = _ :=
    Connection.rpcWith_of_ret rfl
  rw [Channel.destroy, if_neg (by rw [h]; exact Bool.false_ne_true), run_noexcept,
    Connection.rpc, swallow_run (Outcome.checked_ne_terminate _ _) hrpc]
  refine ⟨rfl, ?_⟩
  -- what follows the close is a look at the reply, and a release if it is normal
  dsimp only
  split
  · simp only [World.setConn_log, World.tell_log, World.tick_log, List.filter_append]
    exact (List.append_nil _).trans (List.append_nil _)
  · simp only [World.setConn_log, World.tell_log, World.tick_log, List.filter_append]
    exact List.append_nil _

/-- `Channel` has no assignment: the one with two arguments of its kind that is
declared is a deleted `operator==`, and the move constructor deletes the implicit
one. -/
def Channel.owner : Owner OpenedChannel OpenChannel where
  resource o := ⟨o.channel.connection_.connection_, o.channel.channel_, o.serial⟩
  moved o := o.channel.moved_
  moveConstruct o := (⟨o.channel.moveConstruct.1, o.serial⟩, ⟨o.channel.moveConstruct.2, o.serial⟩)
  assignable := false
  moveAssign o := (⟨o.channel.moveConstruct.1, o.serial⟩, ⟨o.channel.moveConstruct.2, o.serial⟩)
  selfAssign o := ⟨o.channel.moveConstruct.2, o.serial⟩
  constructed _ := ⟨rfl, rfl⟩
  construct_left _ := ⟨rfl, rfl⟩
  assigned _ := ⟨rfl, rfl⟩
  assign_left _ := ⟨rfl, rfl⟩
  self_assigned _ := ⟨rfl, rfl⟩
  destroy o := o.channel.destroy
  disposal r := .call .channelClose r.handle [.channel r.channel, .num amqpReplySuccess]
  isDisposal := Event.isChannelClose
  destroyed := by
    rintro ⟨⟨connection, channel, context, _ | _⟩, serial⟩ w
    · exact (Channel.destroy_run rfl w).2
    · exact (List.append_nil _).symm

end Channel

/-! ## The machine -/

/-- The objects of one class with the account of what they own, and the world. -/
structure Objects (O R : Type) extends FlagOwner.State O R where
  world : World

def Objects.initial {O R : Type} : Objects O R := ⟨.initial, .initial⟩

namespace Owner

section Runs

variable {O R : Type} (C : Owner O R)

/-- What an action does to the world: a destructor runs. -/
def effect (a : FlagOwner.Action O) (s : Objects O R) : World :=
  match a with
  | .destroy i =>
      match s.cells[i]? with
      | some (some o) => ((C.destroy o).run s.world).2
      | _ => s.world
  | _ => s.world

variable [DecidableEq R]

def step (a : FlagOwner.Action O) (s : Objects O R) : Option (Objects O R) :=
  (C.toFlagOwner.step a s.toState).map (⟨·, C.effect a s⟩)

/-- The calls made so far dispose of what the account says, one after the other. -/
def Accounts (s : Objects O R) : Prop :=
  s.world.log.filter C.isDisposal = s.released.map C.disposal

variable {C}

theorem step_toState (a : FlagOwner.Action O) (s : Objects O R) :
    (C.step a s).map Objects.toState = C.toFlagOwner.step a s.toState := by
  rw [step, Option.map_map]
  exact Option.map_id'

theorem visits_toState {as : List (FlagOwner.Action O)} {Q : FlagOwner.State O R → Prop} :
    Visits C.step (fun s => Q s.toState) .initial as ↔
      Visits C.toFlagOwner.step Q .initial as :=
  visits_map Objects.toState step_toState

theorem along_toState {as : List (FlagOwner.Action O)}
    {P : FlagOwner.Action O → FlagOwner.State O R → Prop} :
    Along C.step (fun a s => P a s.toState) .initial as ↔
      Along C.toFlagOwner.step P .initial as :=
  along_map Objects.toState step_toState

theorem accounts_step {a : FlagOwner.Action O} {s t : Objects O R} (hs : C.Accounts s)
    (h : C.step a s = some t) : C.Accounts t := by
  obtain ⟨t', ht, rfl⟩ := Option.map_eq_some_iff.mp h
  cases a with
  | construct o =>
      simp only [FlagOwner.step] at ht
      split at ht
      · cases ht
        exact hs
      · cases ht
  | moveConstruct i =>
      simp only [FlagOwner.step] at ht
      split at ht
      · cases ht
        exact hs
      · cases ht
  | moveAssign i j =>
      simp only [FlagOwner.step] at ht
      split at ht
      · split at ht
        · cases ht
          exact hs
        · cases ht
          exact hs
      · cases ht
  | destroy i =>
      simp only [FlagOwner.step] at ht
      split at ht
      · next o hi =>
          cases ht
          show (C.effect (.destroy i) s).log.filter C.isDisposal = _
          simp only [effect, hi]
          rw [C.destroyed, hs, List.map_append]
      · cases ht

theorem accounts_visits {as : List (FlagOwner.Action O)} :
    Visits C.step C.Accounts .initial as :=
  visits_of_step accounts_step rfl

end Runs

end Owner

/-! ## The claims over all four classes -/

inductive Kind where
  | envelope | message | returnedMessage | channel
  deriving DecidableEq, Repr

namespace Kind

@[reducible] def Object : Kind → Type
  | .envelope => Envelope
  | .message => Message
  | .returnedMessage => ReturnedMessage
  | .channel => OpenedChannel

@[reducible] def Resource : Kind → Type
  | .envelope | .message | .returnedMessage => Nat
  | .channel => OpenChannel

instance : (kind : Kind) → DecidableEq kind.Resource
  | .envelope | .message | .returnedMessage => inferInstanceAs (DecidableEq Nat)
  | .channel => inferInstanceAs (DecidableEq OpenChannel)

variable [Library]

def owner : (kind : Kind) → Owner kind.Object kind.Resource
  | .envelope => Envelope.owner
  | .message => Message.owner
  | .returnedMessage => ReturnedMessage.owner
  | .channel => Channel.owner

end Kind

section Claims

variable [Library] (kind : Kind)

/-- Every resource has one owner at most, none once it was released, and was released
once at most, by one call. -/
def ReleasedOnce (s : Objects kind.Object kind.Resource) : Prop :=
  kind.owner.toFlagOwner.ReleasedOnce s.toState ∧ kind.owner.Accounts s

/-- Every structure put into an object was destroyed by a call or will be by a
destructor. -/
def NothingLost (s : Objects kind.Object kind.Resource) : Prop :=
  kind.owner.toFlagOwner.NothingLost s.toState ∧ kind.owner.Accounts s

/-- In every run, nothing is released twice if and only if every move is made from
an object that owns its resource, or from a stale copy of one that was not
released and that nobody owns (but perhaps the target). -/
theorem resources_released_once_iff_sources_own (as : List (FlagOwner.Action kind.Object)) :
    Visits kind.owner.step (ReleasedOnce kind) .initial as ↔
      Along kind.owner.step (fun a s => kind.owner.toFlagOwner.SourceMayBeMoved a s.toState)
        .initial as := by
  rw [Owner.along_toState, ← FlagOwner.released_once_iff, ← Owner.visits_toState]
  constructor
  · exact Visits.mono fun _ h => h.1
  · intro h
    exact visits_and h Owner.accounts_visits

/-- In every run, nothing is lost if and only if no assignment replaces the last
owner of a structure.  If so, once all objects are destroyed every structure that
was put into one was passed to its `amqp_destroy_*` function. -/
theorem structs_destroyed_iff_targets_replaceable (as : List (FlagOwner.Action kind.Object)) :
    (Visits kind.owner.step (NothingLost kind) .initial as ↔
      Along kind.owner.step
        (fun a s => kind.owner.toFlagOwner.TargetMayBeReplaced a s.toState) .initial as) ∧
    (Along kind.owner.step
        (fun a s => kind.owner.toFlagOwner.TargetMayBeReplaced a s.toState) .initial as →
      (∀ c ∈ (Ends kind.owner.step .initial as).cells, c = none) →
        ∀ r ∈ (Ends kind.owner.step .initial as).seen,
          kind.owner.disposal r ∈ (Ends kind.owner.step .initial as).world.log) := by
  have hiff : Visits kind.owner.step (NothingLost kind) .initial as ↔ Along kind.owner.step
      (fun a s => kind.owner.toFlagOwner.TargetMayBeReplaced a s.toState) .initial as := by
    rw [Owner.along_toState, ← FlagOwner.nothing_lost_iff, ← Owner.visits_toState]
    constructor
    · exact Visits.mono fun _ h => h.1
    · intro h
      exact visits_and h Owner.accounts_visits
  refine ⟨hiff, fun hmay hnone r hr => ?_⟩
  obtain ⟨hlost, haccounts⟩ := (hiff.mpr hmay).ends
  have hreleased : r ∈ (Ends kind.owner.step .initial as).released := by
    rcases List.mem_append.mp (hlost r hr) with h | h
    · exact h
    · obtain ⟨c, hc, hholds⟩ := List.mem_filterMap.mp h
      rw [hnone c hc] at hholds
      cases hholds
  have hcall := List.mem_map_of_mem (f := kind.owner.disposal) hreleased
  rw [← haccounts] at hcall
  exact List.mem_of_mem_filter hcall

end Claims

/-! ## One run each -/

/-- An envelope around the structure `ident`. -/
def anEnvelope (ident : Nat) : Envelope := AMQPStruct.make (.zero ident)

/-- An object is moved from twice: two live objects own the structure, and when all
are gone it was destroyed twice. -/
theorem envelope_destroyed_twice :
    let run : List (FlagOwner.Action Envelope) :=
      [.construct (anEnvelope 0), .moveConstruct 0, .moveConstruct 0,
        .destroy 0, .destroy 1, .destroy 2]
    ¬ Visits Envelope.owner.step
        (fun s => Envelope.owner.toFlagOwner.ReleasedOnce s.toState) .initial run ∧
      (Ends Envelope.owner.step .initial run).world.log =
        [.destroyEnvelope 0, .destroyEnvelope 0] := by
  refine ⟨fun h => ?_, rfl⟩
  have htwo := (h.ends 0).2.2
  exact absurd htwo (by decide)

/-- A structure is assigned onto an object that still owns another: when all objects
are gone, only one of the two was destroyed. -/
theorem envelope_lost_by_assignment :
    let run : List (FlagOwner.Action Envelope) :=
      [.construct (anEnvelope 0), .construct (anEnvelope 1), .moveAssign 0 1,
        .destroy 0, .destroy 1]
    (∀ c ∈ (Ends Envelope.owner.step .initial run).cells, c = none) ∧
      0 ∈ (Ends Envelope.owner.step .initial run).seen ∧
      (Ends Envelope.owner.step .initial run).world.log = [.destroyEnvelope 1] := by
  refine ⟨by decide, by decide, rfl⟩

end RmqCxx
