/-
# `RmqCxx.Applications` — whole applications

`RmqCxx.LifeCycle` has machines of connection objects only.  Here objects of all the
classes are constructed, moved, used and destroyed in any order: a channel object has a
reference to a connection object, a queue or an exchange one to a channel object, and
the callbacks of a consume call use channels, queues and exchanges themselves.

A reference is a place in a list of objects.  It leads to whatever stands there when
it is used, so a channel whose connection object was moved from makes its calls with a
null handle; a use through a reference to an object that is gone is not possible.
Actions that end the program are not possible either, and exceptions are caught.
-/
import RmqCxx.LifeCycle
import RmqCxx.Usage

namespace RmqCxx

open Cpp Code Cpp.Ownership

/-! ## Objects -/

/-- The object at a place, while it lives. -/
def live {O : Type} (cells : List (Option O)) (i : Nat) : Option O := cells[i]?.join

theorem live_iff {O : Type} {cells : List (Option O)} {i : Nat} {o : O} :
    live cells i = some o ↔ cells[i]? = some (some o) :=
  Option.join_eq_some_iff

/-- An object of class `Channel`; `connection` is the place its reference is bound to. -/
structure ChannelObject where
  connection : Nat
  channel_ : ChannelId
  context_ : String
  moved_ : Bool

/-- An object of class `Queue` or `Exchange`; `channel` is the place its reference is
bound to. -/
structure NamedObject where
  channel : Nat
  name_ : String
  context_ : String

/-- `Channel(Channel&& other)`: the new object, and what is left of `other`. -/
def ChannelObject.moveConstruct (other : ChannelObject) : ChannelObject × ChannelObject :=
  ({ other with moved_ := false }, { other with moved_ := true })

/-- The object as the class `Channel`, on the connection its reference leads to. -/
def ChannelObject.on (self : ChannelObject) (connection : Connection) : Channel :=
  ⟨connection, self.channel_, self.context_, self.moved_⟩

/-- The objects of each class, in the order of their construction, and the world. -/
structure Application where
  connections : List (Option Connection)
  channels : List (Option ChannelObject)
  queues : List (Option NamedObject)
  exchanges : List (Option NamedObject)
  world : World

def Application.initial : Application := ⟨[], [], [], [], .initial⟩

/-- A use of an object, through references to a channel and its connection. -/
inductive Use where
  | channel (i : Nat) (op : ChannelOp) (regular : op.regular = true)
  | queue (i : Nat) (op : QueueOp) (regular : op.regular = true)
  | exchange (i : Nat) (op : ExchangeOp) (regular : op.regular = true)

/-- The channel object that a use goes through. -/
def Use.through (s : Application) : Use → Option ChannelObject
  | .channel i _ _ => live s.channels i
  | .queue i _ _ => (live s.queues i).bind fun self => live s.channels self.channel
  | .exchange i _ _ => (live s.exchanges i).bind fun self => live s.channels self.channel

/-- The operation that a use on that channel is. -/
def Use.operation (s : Application) (channel : Channel) : Use → Option Operation
  | .channel _ op _ => some (.channel channel op)
  | .queue i op _ =>
      (live s.queues i).map fun self => .queue ⟨channel, self.name_, self.context_⟩ op
  | .exchange i op _ =>
      (live s.exchanges i).map fun self => .exchange ⟨channel, self.name_, self.context_⟩ op

/-- The operation that a use is as things stand, if it goes through the connection
object at `i`. -/
def Use.resolve (s : Application) (i : Nat) (u : Use) : Option Operation :=
  (u.through s).bind fun channel =>
    if channel.connection = i then
      (live s.connections i).bind fun connection => u.operation s (channel.on connection)
    else none

/-- Callbacks, and the uses they make of the objects they captured. -/
structure Handlers where
  uses : List Use
  callbacks : List Operation → Callbacks
  captured (ops : List Operation) : ∀ op ∈ (callbacks ops).operations, op ∈ ops

/-- The callbacks with their uses as things stand. -/
def Handlers.code (s : Application) (i : Nat) (handlers : Handlers) : Callbacks :=
  handlers.callbacks (handlers.uses.filterMap (Use.resolve s i))

/-! ## The machine -/

/-- What happens to queues and exchanges besides uses; `name` is what is left of the name
of one that is moved from. -/
inductive NamedAct where
  | make (channel : Nat) (name : String)
  | move (i : Nat) (name : String)
  | drop (i : Nat)

inductive Act where
  | connect (setup : Setup)
  | moveConnection (i : Nat)
  | rpc (i : Nat) (call : Call)
  /-- A consume call, whose callbacks use channels of the same connection. -/
  | consume (i : Nat) (tv : Option Timeval) (handlers : Handlers)
  | disconnect (i : Nat)
  | openChannel (i : Nat) (id : ChannelId)
  | moveChannel (i : Nat)
  | closeChannel (i : Nat)
  | use (u : Use)
  | queue (act : NamedAct)
  | exchange (act : NamedAct)

/-- The objects with the world in which some code ended, unless it ended the program. -/
def Application.after {α : Type} (s : Application) : Outcome Exc α × World → Option Application
  | (.terminate, _) => none
  | (_, w) => some { s with world := w }

/-- `cls` is the name of the class, which is part of its context. -/
def NamedAct.step (cls : String) (s : Application) (cells : List (Option NamedObject)) :
    NamedAct → Option (List (Option NamedObject))
  | .make channel name =>
      (live s.channels channel).map fun _ =>
        cells ++ [some ⟨channel, name, cls ++ "(" ++ name ++ "): "⟩]
  | .move i name =>
      (live cells i).map fun other =>
        cells.set i (some { other with name_ := name }) ++ [some other]
  | .drop i => (live cells i).map fun _ => cells.set i none

section Machine

variable [Library]

def Act.step (a : Act) (s : Application) : Option Application :=
  match a with
  | .connect setup =>
      match setup.code.run s.world with
      | (.ret self, w) =>
          some { s with connections := s.connections ++ [some self], world := w }
      | (.thrown _, w) => some { s with world := w }
      | (.terminate, _) => none
  | .moveConnection i =>
      (live s.connections i).map fun other =>
        let (self, other) := other.moveConstruct
        { s with connections := s.connections.set i (some other) ++ [some self] }
  | .rpc i call =>
      (live s.connections i).bind fun self => s.after ((call.code self).run s.world)
  | .consume i tv handlers =>
      (live s.connections i).bind fun self =>
        if handlers.uses.all fun u => (u.resolve s i).isSome then
          s.after ((self.consumeWith tv (handlers.code s i)).run s.world)
        else none
  | .disconnect i =>
      (live s.connections i).bind fun self =>
        { s with connections := s.connections.set i none }.after (self.destroy.run s.world)
  | .openChannel i id =>
      (live s.connections i).bind fun connection =>
        match (Channel.make connection id).run s.world with
        | (.ret self, w) =>
            some { s with
              channels := s.channels ++ [some ⟨i, self.channel_, self.context_, self.moved_⟩]
              world := w }
        | (.thrown _, w) => some { s with world := w }
        | (.terminate, _) => none
  | .moveChannel i =>
      (live s.channels i).map fun other =>
        let (self, other) := other.moveConstruct
        { s with channels := s.channels.set i (some other) ++ [some self] }
  | .closeChannel i =>
      (live s.channels i).bind fun self =>
        if self.moved_ then some { s with channels := s.channels.set i none }
        else
          (live s.connections self.connection).bind fun connection =>
            { s with channels := s.channels.set i none }.after
              ((self.on connection).destroy.run s.world)
  | .use u =>
      (u.through s).bind fun channel =>
        (u.resolve s channel.connection).bind fun op => s.after (op.code.run s.world)
  | .queue act =>
      (act.step "Queue" s s.queues).map fun queues => { s with queues := queues }
  | .exchange act =>
      (act.step "Exchange" s s.exchanges).map fun exchanges => { s with exchanges := exchanges }

end Machine

/-! ## What uses log -/

/-- An entry about the handle and no other. -/
def Event.About (h : Handle) (e : Event) : Prop := ∀ h', e.concerns h' = true → h = h'

/-- And it does not end the life of the handle. -/
def Event.Ordinary (h : Handle) (e : Event) : Prop :=
  e.isClose = false ∧ e.isDestroy = false ∧ e.About h

theorem ordinary_call {f : CFunction} {h : Handle} {args : List Arg}
    (hf : f ≠ .connectionClose ∧ f ≠ .destroyConnection) :
    Event.Ordinary h (.call f h args) := by
  refine ⟨?_, ?_, fun h' hc => by simpa [Event.concerns] using hc⟩
  · cases f with
    | connectionClose => exact absurd rfl hf.1
    | _ => rfl
  · cases f with
    | destroyConnection => exact absurd rfl hf.2
    | _ => rfl

theorem Channel.Logs.ordinary {self : Channel} {e : Event}
    (h : self.Logs CFunction.ofChannel e) :
    e.Ordinary self.handle := by
  cases h with
  | @method f args hf =>
      refine ordinary_call ⟨?_, ?_⟩
      · rintro rfl
        cases hf
      · rintro rfl
        cases hf
  | reply | release => exact ordinary_call ⟨by simp, by simp⟩
  | read => exact ⟨rfl, rfl, by simp [Event.About, Event.concerns]⟩

theorem Connection.Logs.ordinary {self : Connection} {e : Event} (h : self.Logs e) :
    e.Ordinary self.connection_ := by
  cases h with
  | wait hf => rcases hf with rfl | rfl | rfl <;> exact ordinary_call ⟨by simp, by simp⟩
  | release => exact ordinary_call ⟨by simp, by simp⟩
  | envelope | message => exact ⟨rfl, rfl, by simp [Event.About, Event.concerns]⟩

section Uses

variable [Library] {s t : Application} {i : Nat} {u : Use} {op : Operation}

/-- A use makes its calls through the channel object, with the handle its connection
object has. -/
theorem resolve_asks (h : u.resolve s i = some op) :
    ∃ channel connection, u.through s = some channel ∧ channel.connection = i ∧
      live s.connections i = some connection ∧
      Keeps (World.Asks ((channel.on connection).Logs CFunction.ofChannel)
        connection.connection_) op.code := by
  obtain ⟨channel, hchannel, h⟩ := Option.bind_eq_some_iff.mp h
  split at h
  · next hi =>
      obtain ⟨connection, hconnection, h⟩ := Option.bind_eq_some_iff.mp h
      refine ⟨channel, connection, hchannel, hi, hconnection, ?_⟩
      cases u with
      | channel _ op regular =>
          cases h
          exact channelOp_asks _ regular
      | queue _ op regular =>
          obtain ⟨self, -, rfl⟩ := Option.map_eq_some_iff.mp h
          exact queueOp_asks ⟨channel.on connection, self.name_, self.context_⟩ regular
      | exchange _ op regular =>
          obtain ⟨self, -, rfl⟩ := Option.map_eq_some_iff.mp h
          exact exchangeOp_asks ⟨channel.on connection, self.name_, self.context_⟩ regular
  · cases h

/-- The operation leaves everything as it should be for a handle. -/
theorem resolve_does (h : u.resolve s i = some op) {self : Connection}
    (hi : live s.connections i = some self) :
    Keeps (World.Does (Event.Ordinary self.connection_)) op.code := by
  obtain ⟨channel, connection, -, -, hconnection, hasks⟩ := resolve_asks h
  rw [hi] at hconnection
  cases hconnection
  intro w
  exact (hasks w).does.mono fun e => Channel.Logs.ordinary

theorem handlers_does (handlers : Handlers) {self : Connection} (tv : Option Timeval)
    (hi : live s.connections i = some self) :
    Keeps (World.Does (Event.Ordinary self.connection_))
      (self.consumeWith tv (handlers.code s i)) := by
  refine consumeWith_does (fun e => Connection.Logs.ordinary)
    (fun _ => ⟨rfl, rfl, by simp [Event.About, Event.concerns]⟩) tv fun op hop => ?_
  obtain ⟨u, -, hu⟩ := List.mem_filterMap.mp (handlers.captured _ op hop)
  exact resolve_does hu hi

/-- A consume call that does not end the program releases the buffers in the end. -/
theorem consumeWith_releases {self : Connection} {tv : Option Timeval} {cbs : Callbacks}
    {w : World} (h : ((self.consumeWith tv cbs).run w).1 ≠ .terminate) :
    .call .maybeReleaseBuffers self.connection_ [] ∈
      ((self.consumeWith tv cbs).run w).2.log := by
  obtain ⟨contents, item, w', -, -, -, hrun⟩ := @consume_run _ self tv cbs w
  cases hd : cbs.dispatched (contents.fill w.nextIdent) item w' with
  | none =>
      rw [hd] at hrun
      exact absurd hrun h
  | some result =>
      rw [hd] at hrun
      rw [hrun.2]
      simp [World.released]

end Uses

/-! ## What a step does -/

/-- No callable of the application ends the life of a handle. -/
def Act.Spares : Act → Prop
  | .rpc _ call => call.Spares
  | _ => True

/-- What a step does to the connection objects and to the log: something in the life of
one of the handles; calls through an object that has a handle; or nothing. -/
inductive Effect [Library] (s t : Application) : Prop
  | life (action : Action) (hspares : action.Spares)
      (h : action.step ⟨s.connections, s.world⟩ = some ⟨t.connections, t.world⟩)
  | calls {i : Nat} {self : Connection} (hi : live s.connections i = some self)
      (hcells : t.connections = s.connections)
      (hdoes : s.world.Does (Event.Ordinary self.connection_) t.world)
  | nothing (hcells : t.connections = s.connections) (hworld : t.world = s.world)

/-- From `w` to `w'` the function was called, and then its reply was looked at. -/
structure World.Sends (w : World) (f : CFunction) (h : Handle) (args : List Arg) (w' : World) :
    Prop where
  log : ∃ rest, w'.log = w.log ++ .call f h args :: rest ∧
    ∀ e ∈ rest, e = .call .getRpcReply h [] ∨ e = .call .maybeReleaseBuffers h []
  nextHandle : w'.nextHandle = w.nextHandle

section Sends

variable {w w' : World} {f : CFunction} {h : Handle} {args : List Arg}

theorem World.Sends.does (hs : w.Sends f h args w')
    (hf : f ≠ .connectionClose ∧ f ≠ .destroyConnection) : w.Does (Event.Ordinary h) w' := by
  obtain ⟨⟨rest, hlog, hrest⟩, hnext⟩ := hs
  refine ⟨⟨_, hlog, List.forall_mem_cons.mpr ⟨ordinary_call hf, fun e he => ?_⟩⟩, hnext⟩
  rcases hrest e he with rfl | rfl
  · exact ordinary_call ⟨by simp, by simp⟩
  · exact ordinary_call ⟨by simp, by simp⟩

theorem World.Sends.mem (hs : w.Sends f h args w') : .call f h args ∈ w'.log := by
  obtain ⟨⟨rest, hlog, -⟩, -⟩ := hs
  rw [hlog]
  exact List.mem_append_right _ List.mem_cons_self

variable [Library]

/-- A synchronous method through `Connection::rpc`. -/
theorem connection_sync_sends (self : Connection) (context : String) (f : CFunction)
    (channel : ChannelId) (args : List Arg) (w : World) :
    ∃ r, (self.rpcWith true context (fun c => amqpSync f c channel args)).run w =
        (.checked (w.okPtr self.connection_ channel) r, ((self.rpcWith true context
          (fun c => amqpSync f c channel args)).run w).2) ∧
      w.Sends f self.connection_ (.channel channel :: args)
        ((self.rpcWith true context (fun c => amqpSync f c channel args)).run w).2 := by
  have hrun : (self.rpcWith true context (fun c => amqpSync f c channel args)).run w = _ :=
    Connection.rpcWith_of_ret rfl
  rw [hrun]
  refine ⟨_, rfl, ?_⟩
  dsimp only
  split
  · refine ⟨⟨[.call .getRpcReply self.connection_ [],
      .call .maybeReleaseBuffers self.connection_ []], by simp, ?_⟩, rfl⟩
    simp
  · exact ⟨⟨[.call .getRpcReply self.connection_ []], by simp, by simp⟩, rfl⟩

/-- The constructor of a channel opens it, and returns or throws. -/
theorem channel_make_run (connection : Connection) (id : ChannelId) (w : World) :
    ∃ r w', (Channel.make connection id).run w =
        (.checked ⟨connection, id, "Channel(" ++ toString id.toNat ++ "): ", false⟩ r, w') ∧
      w.Sends .channelOpen connection.connection_ [.channel id] w' := by
  obtain ⟨r, hrun, hsends⟩ := connection_sync_sends connection
    ("Channel(" ++ toString id.toNat ++ "): ") .channelOpen id [] w
  refine ⟨r, _, ?_, hsends⟩
  cases r with
  | ok _ => exact bind_of_ret hrun
  | error e => exact bind_of_thrown hrun

/-- The destructor of a channel that was not moved from closes it. -/
theorem channel_destroy_run {self : Channel} (hmoved : self.moved_ = false) (w : World) :
    ∃ w', self.destroy.run w = (.ret (), w') ∧
      w.Sends .channelClose self.handle [.channel self.channel_, .num amqpReplySuccess] w' := by
  obtain ⟨r, hrun, hsends⟩ := connection_sync_sends self.connection_ "" .channelClose
    self.channel_ [.num amqpReplySuccess] w
  refine ⟨_, ?_, hsends⟩
  have hclose : (tryCatch (do
      let _ ← self.connection_.rpc (amqpChannelClose · self.channel_ amqpReplySuccess)
      pure ()) (fun _ => pure ())).run w = _ :=
    swallow_run (Outcome.checked_ne_terminate _ _) hrun
  rw [Channel.destroy, if_neg (by rw [hmoved]; exact Bool.false_ne_true), run_noexcept, hclose]
  rfl

end Sends

section Steps

variable {s t : Application}

theorem after_eq_some_iff {α : Type} {r : Outcome Exc α × World} :
    s.after r = some t ↔ r.1 ≠ .terminate ∧ t = { s with world := r.2 } := by
  match r with
  | (.ret _, w) | (.thrown _, w) => simp [Application.after, eq_comm]
  | (.terminate, w) => simp [Application.after]

variable [Library]

theorem openChannel_cases {i : Nat} {id : ChannelId}
    (h : (Act.openChannel i id).step s = some t) :
    ∃ connection w, live s.connections i = some connection ∧
      s.world.Sends .channelOpen connection.connection_ [.channel id] w ∧
      (t = { s with world := w } ∨ t = { s with
        channels := s.channels ++ [some ⟨i, id, "Channel(" ++ toString id.toNat ++ "): ", false⟩]
        world := w }) := by
  obtain ⟨connection, hi, h⟩ := Option.bind_eq_some_iff.mp h
  obtain ⟨r, w, hrun, hsends⟩ := channel_make_run connection id s.world
  simp only [hrun] at h
  refine ⟨connection, w, hi, hsends, ?_⟩
  cases r with
  | ok _ =>
      cases h
      exact .inr rfl
  | error e =>
      cases h
      exact .inl rfl

theorem closeChannel_cases {i : Nat} (h : (Act.closeChannel i).step s = some t) :
    ∃ self, live s.channels i = some self ∧
      ((self.moved_ = true ∧ t = { s with channels := s.channels.set i none }) ∨
        (self.moved_ = false ∧ ∃ connection w,
          live s.connections self.connection = some connection ∧
          s.world.Sends .channelClose connection.connection_
            [.channel self.channel_, .num amqpReplySuccess] w ∧
          t = { s with channels := s.channels.set i none, world := w })) := by
  obtain ⟨self, hi, h⟩ := Option.bind_eq_some_iff.mp h
  refine ⟨self, hi, ?_⟩
  cases hm : self.moved_ with
  | true =>
      simp only [hm, if_true, Option.some.injEq] at h
      exact .inl ⟨rfl, h.symm⟩
  | false =>
      rw [hm, if_neg Bool.false_ne_true] at h
      obtain ⟨connection, hconnection, h⟩ := Option.bind_eq_some_iff.mp h
      obtain ⟨w, hrun, hsends⟩ := channel_destroy_run
        (show (self.on connection).moved_ = false from hm) s.world
      rw [hrun] at h
      cases h
      exact .inr ⟨rfl, connection, w, hconnection, hsends, rfl⟩

theorem use_cases {u : Use} (h : (Act.use u).step s = some t) :
    ∃ channel connection w, u.through s = some channel ∧
      live s.connections channel.connection = some connection ∧
      s.world.Asks ((channel.on connection).Logs CFunction.ofChannel) connection.connection_ w ∧
      t = { s with world := w } := by
  obtain ⟨channel, hchannel, h⟩ := Option.bind_eq_some_iff.mp h
  obtain ⟨op, hop, h⟩ := Option.bind_eq_some_iff.mp h
  obtain ⟨-, rfl⟩ := after_eq_some_iff.mp h
  obtain ⟨channel', connection, hchannel', -, hconnection, hasks⟩ := resolve_asks hop
  rw [hchannel] at hchannel'
  cases hchannel'
  exact ⟨channel, connection, _, hchannel, hconnection, hasks s.world, rfl⟩

theorem consume_cases {i : Nat} {tv : Option Timeval} {handlers : Handlers}
    (h : (Act.consume i tv handlers).step s = some t) :
    ∃ self, live s.connections i = some self ∧
      ((self.consumeWith tv (handlers.code s i)).run s.world).1 ≠ .terminate ∧
      t = { s with world := ((self.consumeWith tv (handlers.code s i)).run s.world).2 } := by
  obtain ⟨self, hi, h⟩ := Option.bind_eq_some_iff.mp h
  split at h
  · exact ⟨self, hi, after_eq_some_iff.mp h⟩
  · cases h

theorem step_effect {a : Act} (hspares : a.Spares) (h : a.step s = some t) : Effect s t := by
  cases a with
  | connect setup =>
      refine .life (.construct setup) trivial ?_
      simp only [Act.step] at h
      simp only [Action.step]
      split at h
      · next hrun =>
          cases h
          simp only [hrun]
      · next hrun =>
          cases h
          simp only [hrun]
      · cases h
  | moveConnection i =>
      obtain ⟨other, hi, rfl⟩ := Option.map_eq_some_iff.mp h
      refine .life (.move i) trivial ?_
      simp only [Action.step, live_iff.mp hi]
  | rpc i call =>
      obtain ⟨self, hi, h⟩ := Option.bind_eq_some_iff.mp h
      obtain ⟨hend, rfl⟩ := after_eq_some_iff.mp h
      refine .life (.rpc i call) hspares ?_
      simp only [Action.step, live_iff.mp hi]
  | disconnect i =>
      obtain ⟨self, hi, h⟩ := Option.bind_eq_some_iff.mp h
      obtain ⟨-, rfl⟩ := after_eq_some_iff.mp h
      refine .life (.destroy i) trivial ?_
      simp only [Action.step, live_iff.mp hi]
  | consume i tv handlers =>
      obtain ⟨self, hi, -, rfl⟩ := consume_cases h
      exact .calls hi rfl (handlers_does handlers tv hi s.world)
  | openChannel i id =>
      obtain ⟨connection, w, hi, hsends, rfl | rfl⟩ := openChannel_cases h
      · exact .calls hi rfl (hsends.does ⟨by simp, by simp⟩)
      · exact .calls hi rfl (hsends.does ⟨by simp, by simp⟩)
  | closeChannel i =>
      obtain ⟨self, -, ⟨-, rfl⟩ | ⟨-, connection, w, hi, hsends, rfl⟩⟩ := closeChannel_cases h
      · exact .nothing rfl rfl
      · exact .calls hi rfl (hsends.does ⟨by simp, by simp⟩)
  | use u =>
      obtain ⟨channel, connection, w, -, hi, hasks, rfl⟩ := use_cases h
      exact .calls hi rfl (hasks.does.mono fun e => Channel.Logs.ordinary)
  | moveChannel i =>
      obtain ⟨other, -, rfl⟩ := Option.map_eq_some_iff.mp h
      exact .nothing rfl rfl
  | queue act | exchange act =>
      obtain ⟨cells, -, rfl⟩ := Option.map_eq_some_iff.mp h
      exact .nothing rfl rfl

/-! ## Handles in a run -/

omit [Library] in
/-- Calls through an object that holds a handle keep it open. -/
theorem managed_of_does {cs : Connections} {i n : Nat} {self : Connection} {w : World}
    (hs : Managed cs n) (hi : cs.cells[i]? = some (some self))
    (hdoes : cs.world.Does (Event.Ordinary self.connection_) w) : Managed ⟨cs.cells, w⟩ n := by
  obtain ⟨⟨es, hlog, hes⟩, hnext⟩ := hdoes
  by_cases hn : self.connection_ = some n
  · obtain ⟨hlt, howners, hopen⟩ := held_open hs hi hn
    refine .inr ⟨hnext ▸ hlt, .inl ⟨howners, ?_⟩⟩
    show Open (record (some n) w.log)
    rw [hlog, record_append]
    refine hopen.append fun e he => ?_
    obtain ⟨hclose, hdestroy, -⟩ := hes e (List.mem_filter.mp he).1
    exact ⟨hclose, hdestroy⟩
  · refine managed_of_unchanged hs (Nat.le_of_eq hnext.symm) rfl ?_
    have hother : record (some n) es = [] :=
      List.filter_eq_nil_iff.mpr fun e he hc => hn ((hes e he).2.2 _ hc)
    show record (some n) w.log = _
    rw [hlog, record_append, hother, List.append_nil]

theorem managed_act {a : Act} (hs : ∀ n, Managed ⟨s.connections, s.world⟩ n)
    (hspares : a.Spares) (h : a.step s = some t) : ∀ n, Managed ⟨t.connections, t.world⟩ n := by
  intro n
  cases step_effect hspares h with
  | life action hspares h => exact managed_step hs hspares h n
  | calls hi hcells hdoes =>
      rw [hcells]
      exact managed_of_does (hs n) (live_iff.mp hi) hdoes
  | nothing hcells hworld =>
      rw [hcells, hworld]
      exact hs n

/-- In every run of an application whose callables leave the end of the handles' lives to the
class, every handle that was returned is held by one object and open, or held by none and
finished. -/
theorem application_well_managed (acts : List Act) (hspares : ∀ act ∈ acts, act.Spares) :
    Visits Act.step (fun s => WellManaged ⟨s.connections, s.world⟩) .initial acts := by
  have hstart : ∀ n, Managed ⟨Application.initial.connections, Application.initial.world⟩ n :=
    fun _ => .inl ⟨rfl, rfl⟩
  have halong : Along Act.step (fun act _ => act.Spares) .initial acts :=
    along_of_mem fun act hmem _ => hspares act hmem
  exact (visits_of_along managed_act halong hstart).mono fun _ => wellManaged_of_managed

/-! ## Null handles -/

/-- No function was called with a null handle. -/
def NullFree (s : Application) : Prop := ∀ f args, Event.call f none args ∉ s.world.log

/-- The object at `i` was not moved from. -/
def Application.HasHandle (s : Application) (i : Nat) : Prop :=
  ∀ self, live s.connections i = some self → self.connection_ ≠ none

/-- What the action calls functions through still has its handle. -/
def Act.Armed (a : Act) (s : Application) : Prop :=
  match a with
  | .rpc i _ | .consume i _ _ | .openChannel i _ => s.HasHandle i
  | .closeChannel i =>
      ∀ self, live s.channels i = some self → self.moved_ = false → s.HasHandle self.connection
  | .use u => ∀ channel, u.through s = some channel → s.HasHandle channel.connection
  | _ => True

omit [Library] in
theorem nullFree_of_does {h : Handle} (hs : NullFree s) (hh : h ≠ none)
    (hdoes : s.world.Does (Event.About h) t.world) : NullFree t := by
  obtain ⟨⟨es, hlog, hes⟩, -⟩ := hdoes
  intro f args hmem
  rw [hlog] at hmem
  rcases List.mem_append.mp hmem with hmem | hmem
  · exact hs f args hmem
  · exact hh (hes _ hmem none rfl)

omit [Library] in
/-- A step that makes a call with the handle an object has. -/
theorem nullFree_iff_of_call {i : Nat} {self : Connection} (hs : NullFree s)
    (hi : live s.connections i = some self)
    (hdoes : s.world.Does (Event.About self.connection_) t.world) {f : CFunction}
    {args : List Arg} (hmem : .call f self.connection_ args ∈ t.world.log) :
    NullFree t ↔ s.HasHandle i := by
  constructor
  · intro ht self' hi' hnone
    rw [hi] at hi'
    cases hi'
    rw [hnone] at hmem
    exact ht f args hmem
  · intro hi'
    exact nullFree_of_does hs (hi' self hi) hdoes

omit [Library] in
theorem World.Does.about {h : Handle} {w w' : World} (hdoes : w.Does (Event.Ordinary h) w') :
    w.Does (Event.About h) w' := hdoes.mono fun _ he => he.2.2

theorem call_about (self : Connection) (call : Call) (w : World) :
    w.Does (Event.About self.connection_) ((call.code self).run w).2 ∧
      .call .getRpcReply self.connection_ [] ∈ ((call.code self).run w).2.log := by
  have hnext := (call_run self call w).2.1
  obtain ⟨calls, hlog, hmem, hcalls⟩ := call_concerns self call w
  refine ⟨⟨⟨calls, hlog, fun e he h' hc => concerns_unique (hcalls e he).1 hc⟩, hnext⟩, ?_⟩
  rw [hlog]
  exact List.mem_append_right _ hmem

/-- Constructor calls make no call with a null handle. -/
theorem nullFree_connect {setup : Setup} (hs : NullFree s)
    (h : (Act.connect setup).step s = some t) : NullFree t := by
  have hmade := setup_constructed setup s.world
  have hnew {w : World} {n : Nat} {calls : List Event}
      (hlog : w.log = s.world.log ++ .newConnection (some n) :: calls)
      (hcalls : ∀ e ∈ calls, e.concerns (some n) = true) (f : CFunction) (args : List Arg) :
      Event.call f none args ∉ w.log := by
    intro hmem
    rw [hlog] at hmem
    rcases List.mem_append.mp hmem with hmem | hmem
    · exact hs f args hmem
    · rcases List.mem_cons.mp hmem with hmem | hmem
      · cases hmem
      · have hnull : (Event.call f none args).concerns none = true := rfl
        cases concerns_unique (hcalls _ hmem) hnull
  simp only [Act.step] at h
  generalize setup.code.run s.world = r at hmade h
  cases hmade with
  | noHandle hlog hnext =>
      cases h
      intro f args hmem
      rw [hlog] at hmem
      rcases List.mem_append.mp hmem with hmem | hmem
      · exact hs f args hmem
      · cases List.mem_singleton.mp hmem
  | object hlog hnext hself hcalls hopen =>
      cases h
      exact hnew hlog hcalls
  | failed hlog hnext hcalls hfinished =>
      cases h
      exact hnew hlog hcalls

theorem nullFree_disconnect {i : Nat} (hs : NullFree s)
    (h : (Act.disconnect i).step s = some t) : NullFree t := by
  obtain ⟨self, hi, h⟩ := Option.bind_eq_some_iff.mp h
  obtain ⟨-, rfl⟩ := after_eq_some_iff.mp h
  intro f args hmem
  cases hh : self.connection_ with
  | none =>
      rw [destroy_run_none hh] at hmem
      exact hs f args hmem
  | some m =>
      rw [destroy_run_some hh] at hmem
      refine hs f args ?_
      simpa [World.afterSync] using hmem

/-- A step keeps the log free of null handles exactly when what it calls functions
through has its handle. -/
theorem nullFree_iff_armed {a : Act} (hs : NullFree s) (h : a.step s = some t) :
    NullFree t ↔ a.Armed s := by
  cases a with
  | connect setup => exact iff_of_true (nullFree_connect hs h) trivial
  | disconnect i => exact iff_of_true (nullFree_disconnect hs h) trivial
  | moveConnection i | moveChannel i =>
      obtain ⟨other, -, rfl⟩ := Option.map_eq_some_iff.mp h
      exact iff_of_true hs trivial
  | queue act | exchange act =>
      obtain ⟨cells, -, rfl⟩ := Option.map_eq_some_iff.mp h
      exact iff_of_true hs trivial
  | rpc i call =>
      obtain ⟨self, hi, h⟩ := Option.bind_eq_some_iff.mp h
      obtain ⟨-, rfl⟩ := after_eq_some_iff.mp h
      obtain ⟨habout, hlooks⟩ := call_about self call s.world
      exact nullFree_iff_of_call hs hi habout hlooks
  | consume i tv handlers =>
      obtain ⟨self, hi, hend, rfl⟩ := consume_cases h
      exact nullFree_iff_of_call hs hi (handlers_does handlers tv hi s.world).about
        (consumeWith_releases hend)
  | openChannel i id =>
      obtain ⟨connection, w, hi, hsends, rfl | rfl⟩ := openChannel_cases h
      · exact nullFree_iff_of_call hs hi (hsends.does ⟨by simp, by simp⟩).about hsends.mem
      · exact nullFree_iff_of_call hs hi (hsends.does ⟨by simp, by simp⟩).about hsends.mem
  | closeChannel i =>
      obtain ⟨self, hc, ⟨hm, rfl⟩ | ⟨hm, connection, w, hi, hsends, rfl⟩⟩ := closeChannel_cases h
      · refine iff_of_true hs fun self' hc' hm' => ?_
        rw [hc] at hc'
        cases hc'
        rw [hm] at hm'
        cases hm'
      · refine (nullFree_iff_of_call hs hi (hsends.does ⟨by simp, by simp⟩).about hsends.mem).trans ?_
        constructor
        · intro hhas self' hc' _
          rw [hc] at hc'
          cases hc'
          exact hhas
        · intro harmed
          exact harmed self hc hm
  | use u =>
      obtain ⟨channel, connection, w, hc, hi, hasks, rfl⟩ := use_cases h
      refine (nullFree_iff_of_call hs hi (hasks.does.mono fun e he => he.ordinary.2.2)
        hasks.mem).trans ?_
      constructor
      · intro hhas channel' hc'
        rw [hc] at hc'
        cases hc'
        exact hhas
      · intro harmed
        exact harmed channel hc

/-- In a run, no function is ever called with a null handle if and only if every call is
made through a connection object that still has its handle. -/
theorem nullFree_iff_all_armed (acts : List Act) :
    Visits Act.step NullFree .initial acts ↔ Along Act.step Act.Armed .initial acts := by
  refine visits_iff_along (J := fun _ => True) (fun _ _ => trivial)
    (fun _ hs h => nullFree_iff_armed hs h) trivial ?_
  intro f args hmem
  cases hmem

end Steps

/-! ## A run -/

/-- A broker that delivers a message whenever it is asked. -/
@[reducible] def deliversAlways : Library :=
  { allSucceed with
    consumeMessage := fun _ => ⟨.normal, ⟨1, "", 7, false, "", "", ⟨[], ""⟩⟩, []⟩ }

/-- The envelope callback acknowledges on channel object 0. -/
def acknowledgesSeven : Handlers where
  uses := [.channel 0 (.ack 7 false) rfl]
  callbacks ops := ⟨.byValue ops false [] none, .constRef [] none, [], none⟩
  captured ops op h := by
    simpa [Callbacks.operations, Script.operations, Script.before, Script.after] using h

/-- A connection with a channel, an rpc, and a message that is acknowledged. -/
def aSession : List Act :=
  [.connect (.plain "" 5672 "" "" "" 0 131072 0 (⟨1⟩ : Duration .seconds)), .openChannel 0 1,
    .rpc 0 ⟨[(⟨.basicQos, true, []⟩, 1)], none⟩, .consume 0 none acknowledgesSeven,
    .closeChannel 0, .disconnect 0]

def Event.isAck : Event → Bool
  | .call .basicAck _ _ => true
  | _ => false

theorem aSession_well_managed :
    letI := deliversAlways
    Visits Act.step (fun s => WellManaged ⟨s.connections, s.world⟩) .initial aSession ∧
      (Ends Act.step .initial aSession).world.log.countP Event.isAck = 1 := by
  let _ := deliversAlways
  refine ⟨application_well_managed aSession fun act hmem => ?_, rfl⟩
  simp only [aSession, List.mem_cons, List.not_mem_nil, or_false] at hmem
  rcases hmem with rfl | rfl | rfl | rfl | rfl | rfl
  · trivial
  · trivial
  · exact List.forall_mem_singleton.mpr (by decide)
  · trivial
  · trivial
  · trivial

end RmqCxx
