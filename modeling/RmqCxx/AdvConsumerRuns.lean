/-
# `RmqCxx.AdvConsumerRuns` — what holds of the reconnecting consumer

In every interleaving of the worker and the clients:

* the calls with each handle follow the protocol of `RmqCxx.Sessions`; the connection of
  the worker has channel 1 open, and every earlier one is closed and destroyed;
* clients receive messages in the order in which they were delivered, each once, and the
  tags the worker acknowledges are those clients asked for, in that order, each request at
  most once; as long as the worker has caught nothing, none of either is lost;
* what they receive are deliveries of the library, each of an answer of its own;
* the worker asks for messages without waiting for one.

What a tag acknowledged over a connection is a tag of, is up to the clients:
`acks_of_session` says what they have to see to.
-/
import RmqCxx.AdvConsumerSteps
import RmqCxx.Cpp.Runs

namespace RmqCxx.Consumer

open Cpp Code

/-! ## Conversations -/

/-- The worker is connected, with the handle `n`. -/
def System.Holds (s : System) (n : Nat) : Prop :=
  ∃ locals, s.worker_.locals = some locals ∧ locals.connection.connection_ = some n

/-- The calls with every handle follow the protocol, and all conversations but the worker's
are over. -/
def System.Conversing (s : System) : Prop :=
  ∀ n, ∃ p, Trace Session.Step .fresh (s.world.recordOf n) p ∧
    (s.Holds n ∧ p = .connected {1} ∨ ¬ s.Holds n ∧ (p = .fresh ∨ p = .destroyed))

/-- The invariant. -/
structure System.Sound (s : System) : Prop extends s.Placed where
  unused : ∀ m, s.world.nextHandle ≤ m → s.world.recordOf m = []
  conversing : s.Conversing

section Sound

variable {s t : System} {locals : Locals} {n m : Nat}

theorem System.Sound.session (hs : s.Sound) (h : s.Holds n) :
    Trace Session.Step .fresh (s.world.recordOf n) (.connected {1}) := by
  obtain ⟨p, htrace, ⟨-, rfl⟩ | ⟨hnot, -⟩⟩ := hs.conversing n
  · exact htrace
  · exact absurd h hnot

theorem System.Sound.lt (hs : s.Sound) (h : s.Holds n) : n < s.world.nextHandle := by
  have htrace := hs.session h
  by_contra hle
  rw [hs.unused n (Nat.le_of_not_lt hle)] at htrace
  cases htrace

theorem holds_over (hat : s.worker_.locals = some locals) (hover : locals.Over n) :
    s.Holds n := ⟨locals, hat, hover.connection⟩

theorem holds_eq (hat : s.worker_.locals = some locals) (hover : locals.Over n)
    (h : s.Holds m) : m = n := by
  obtain ⟨locals', hat', hm⟩ := h
  rw [hat] at hat'
  cases hat'
  exact Option.some.inj (hm.symm.trans hover.connection)

theorem not_holds (hat : s.worker_.locals = none) : ¬ s.Holds m := by
  rintro ⟨locals, hat', -⟩
  rw [hat] at hat'
  cases hat'

/-- A step without calls. -/
theorem sound_of_same (hs : s.Sound) (hlog : t.world.log = s.world.log)
    (hnext : t.world.nextHandle = s.world.nextHandle)
    (hlocals : t.worker_.locals = s.worker_.locals)
    (htimeout : ∀ d ∈ t.worker_.timeout, d = ⟨0⟩) : t.Sound := by
  have hrecord (m : Nat) : t.world.recordOf m = s.world.recordOf m := by
    rw [World.recordOf, hlog, World.recordOf]
  refine ⟨⟨?_, htimeout⟩, fun m hm => ?_, fun m => ?_⟩
  · rw [hlocals]
    exact hs.handle
  · rw [hrecord]
    exact hs.unused m (hnext ▸ hm)
  · rw [System.Holds, hlocals, hrecord]
    exact hs.conversing m

/-- A step all of whose calls are with one handle. -/
theorem conversing_of_calls (hs : s.Sound)
    (helsewhere : ∀ m, m ≠ n → t.world.recordOf m = s.world.recordOf m)
    (hholds : ∀ m, m ≠ n → (t.Holds m ↔ s.Holds m)) {p : Session}
    (hp : Trace Session.Step .fresh (t.world.recordOf n) p)
    (hfits : t.Holds n ∧ p = .connected {1} ∨ ¬ t.Holds n ∧ (p = .fresh ∨ p = .destroyed)) :
    t.Conversing := by
  intro m
  by_cases hm : m = n
  · subst hm
    exact ⟨p, hp, hfits⟩
  · rw [helsewhere m hm, hholds m hm]
    exact hs.conversing m

theorem trace_of_grows {w w' : World} {p : Session} {good : Session → Prop}
    (hp : Trace Session.Step .fresh (w.recordOf n) p)
    (h : Grows Session.Step (World.recordOf n) p good w w') :
    ∃ q, Trace Session.Step .fresh (w'.recordOf n) q ∧ good q := by
  obtain ⟨es, q, hview, htrace, hq⟩ := h
  exact ⟨q, hview ▸ hp.append htrace, hq⟩

/-- Calls over the worker's connection while it stays connected. -/
theorem sound_chat (hs : s.Sound) (hat : s.worker_.locals = some locals) (hover : locals.Over n)
    (hchat : s.world.Does (Event.Chat (some n) {1}) t.world)
    (hlocals : t.worker_.locals = s.worker_.locals)
    (htimeout : ∀ d ∈ t.worker_.timeout, d = ⟨0⟩) : t.Sound := by
  have hheld := holds_over hat hover
  have hholds (m : Nat) : t.Holds m ↔ s.Holds m := by rw [System.Holds, hlocals, System.Holds]
  refine ⟨⟨?_, htimeout⟩, fun m hm => ?_, ?_⟩
  · rw [hlocals]
    exact hs.handle
  · rw [hchat.nextHandle] at hm
    have hne : m ≠ n := by
      have := hs.lt hheld
      omega
    rw [recordOf_of_chat hchat hne]
    exact hs.unused m hm
  · obtain ⟨p, hp, rfl⟩ := trace_of_grows (hs.session hheld) (grows_of_chat hchat)
    exact conversing_of_calls hs (fun m => recordOf_of_chat hchat) (fun m _ => hholds m) hp
      (.inl ⟨(hholds n).mpr hheld, rfl⟩)

theorem placed_of_none (h : s.worker_.locals = none) : s.Placed := by
  cases hat : s.worker_ with
  | absent | top | caught | dropping | clearing | forgetting | finished =>
      refine ⟨fun locals hlocals => ?_, fun d hd => ?_⟩
      · rw [h] at hlocals
        cases hlocals
      · rw [hat] at hd
        cases hd
  | polling | consuming | emplacing | acking | sending =>
      rw [hat] at h
      cases h

/-- The worker leaves the `try` block. -/
theorem sound_leaves (hs : s.Sound) (hat : s.worker_.locals = some locals)
    (hover : locals.Over n) (hleaves : Leaves n s.world t.world)
    (hlocals : t.worker_.locals = none) : t.Sound := by
  have hheld := holds_over hat hover
  refine ⟨placed_of_none hlocals, fun m hm => ?_, ?_⟩
  · rw [hleaves.does.nextHandle] at hm
    have hne : m ≠ n := by
      have := hs.lt hheld
      omega
    rw [recordOf_of_inside hleaves.does.log hne]
    exact hs.unused m hm
  · obtain ⟨p, hp, rfl⟩ := trace_of_grows (hs.session hheld) hleaves.grows
    refine conversing_of_calls hs (fun m => recordOf_of_inside hleaves.does.log) (fun m hm => ?_)
      hp (.inr ⟨not_holds hlocals, .inr rfl⟩)
    exact iff_of_false (not_holds hlocals) fun h => hm (holds_eq hat hover h)

/-- The worker connected, or tried to. -/
theorem sound_connects {o : Outcome Exc Locals} (hs : s.Sound) (hat : s.worker_ = .top)
    (hconnects : Connects s.world (o, t.world))
    (hlocals : ∀ locals, t.worker_.locals = some locals ↔ o = .ret locals)
    (htimeout : t.worker_.timeout = none) (ho : o ≠ .terminate) : t.Sound := by
  have helsewhere (m : Nat) := recordOf_of_inside (m := m) hconnects.inside
  have hfree (m : Nat) : ¬ s.Holds m := not_holds (by rw [hat]; rfl)
  have hstart : Trace Session.Step .fresh (s.world.recordOf s.world.nextHandle) .fresh := by
    rw [hs.unused _ (Nat.le_refl _)]
    exact .nil _
  have hheld (m : Nat) (h : t.Holds m) : m = s.world.nextHandle := by
    obtain ⟨locals, hat', hm⟩ := h
    have hover := hconnects.made locals ((hlocals locals).mp hat')
    exact Option.some.inj (hm.symm.trans hover.connection)
  refine ⟨⟨fun locals h => ⟨_, hconnects.made locals ((hlocals locals).mp h)⟩,
    fun d hd => by rw [htimeout] at hd; cases hd⟩, fun m hm => ?_, ?_⟩
  · rcases hconnects.nextHandle with hnext | ⟨hnext, hlog⟩
    · have hlt : s.world.nextHandle < m := by
        rw [hnext] at hm
        exact hm
      rw [helsewhere m (Nat.ne_of_gt hlt)]
      exact hs.unused m (Nat.le_of_lt hlt)
    · rw [World.recordOf, hlog, record_append]
      exact List.append_eq_nil_iff.mpr ⟨hs.unused m (hnext ▸ hm), rfl⟩
  · obtain ⟨p, hp, hgood⟩ := trace_of_grows hstart hconnects.grows
    refine conversing_of_calls hs helsewhere (fun m hm => iff_of_false (fun h => hm (hheld m h))
      (hfree m)) hp ?_
    cases o with
    | ret locals =>
        have hat' := (hlocals locals).mpr rfl
        exact .inl ⟨holds_over hat' (hconnects.made locals rfl), hgood⟩
    | thrown e =>
        refine .inr ⟨?_, hgood⟩
        rintro ⟨locals, hat', -⟩
        cases (hlocals locals).mp hat'
    | terminate => exact absurd rfl ho

theorem sound_worked [Library] (hs : s.Sound) (h : Worked s t) : t.Sound := by
  cases h with
  | connected hat _ hconnects =>
      exact sound_connects hs hat hconnects (fun locals => by simp [Worker.locals]) rfl (by simp)
  | refused hat _ hconnects =>
      exact sound_connects hs hat hconnects (fun locals => by simp [Worker.locals]) rfl (by simp)
  | finished hat | emplaced hat | idle hat | dropMessages hat | dropAcks hat =>
      exact sound_of_same hs rfl rfl (by rw [hat]; rfl) (by simp [Worker.timeout])
  | began hat _ => exact sound_of_same hs rfl rfl (by rw [hat]; rfl) (by simp [Worker.timeout])
  | stopped hat hover _ hleaves => exact sound_leaves hs (by rw [hat]; rfl) hover hleaves rfl
  | polled hat hover hpolls =>
      refine sound_chat hs (by rw [hat]; rfl) hover (hpolls.does.mono fun e he => he.1)
        (by rw [hat, next_locals]; rfl) fun d hd => ?_
      rw [next_timeout _ _ _ _ _ hd]
      exact hpolls.timeout _ _ rfl
  | @pollFailed locals n start vars e v w hat hover hpolls hleaves =>
      have hat' : s.worker_.locals = some locals := by rw [hat]; rfl
      have hpolled : System.Sound { s with world := v } :=
        sound_chat hs hat' hover (hpolls.does.mono fun e he => he.1) rfl hs.timeout
      exact sound_leaves hpolled hat' hover hleaves rfl
  | locked hwants _ =>
      refine sound_of_same hs rfl rfl Worker.locked_locals fun d hd => ?_
      rw [Worker.locked_timeout hwants] at hd
      cases hd
  | acked hat hover _ hacks =>
      exact sound_chat hs (by rw [hat]; rfl) hover hacks.chat (by rw [hat]; rfl)
        (by simp [Worker.timeout])
  | @ackFailed locals n id ackQueue v w hat hover _ hacks hleaves =>
      have hat' : s.worker_.locals = some locals := by rw [hat]; rfl
      have hsent : System.Sound { s with world := v } :=
        sound_chat hs hat' hover hacks.chat rfl hs.timeout
      exact sound_leaves hsent hat' hover hleaves rfl

theorem sound_turned [Library] {turn : Turn} (hs : s.Sound) (h : Turned s turn t) : t.Sound := by
  cases h with
  | work h => exact sound_worked hs h
  | absent => exact hs
  | enter | nothing | receive | acknowledge | stop =>
      exact sound_of_same hs rfl rfl rfl hs.timeout
  | start hat | join hat =>
      exact sound_of_same hs rfl rfl (by rw [hat]; rfl) (by simp [Worker.timeout])

theorem sound_initial (self : Consumer) : (System.initial self).Sound := by
  refine ⟨placed_of_none rfl, fun m _ => rfl, fun n => ⟨.fresh, .nil _, .inr ⟨?_, .inl rfl⟩⟩⟩
  exact not_holds rfl

theorem visits_sound [Library] (self : Consumer) (turns : List Turn) :
    Visits Turn.step System.Sound (System.initial self) turns :=
  visits_of_step (fun hs h => sound_turned hs (step_turned hs.toPlaced h)) (sound_initial self)

end Sound

/-! ## Accounts -/

/-- What clients received and can still receive was delivered, in that order. -/
def System.InOrder (s : System) : Prop :=
  (s.history.received ++ (s.consumer.messages_ ++ s.worker_.arrived)).Sublist s.history.delivered

/-- The tags acknowledged, in order. -/
def System.sent (s : System) : List Int := s.world.acks.map Prod.snd

/-- What is still in the queue after it was sent, if a call failed. -/
def failed (worker : Worker) (ackQueue : List UInt64) : List UInt64 :=
  match worker with
  | .caught | .dropping | .clearing | .forgetting => ackQueue.take 1
  | _ => []

/-- What was sent was asked for, in that order; `taken` are the requests that left the
queue. -/
def System.Asked (s : System) : Prop :=
  ∃ taken, s.history.acknowledged = taken ++ s.consumer.ackQueue_ ∧
    s.sent.Sublist
      ((taken ++ failed s.worker_ s.consumer.ackQueue_).map fun id => (id.toNat : Int))

section Accounts

variable {s t : System}

theorem failed_sublist (worker : Worker) (ackQueue : List UInt64) :
    (failed worker ackQueue).Sublist ackQueue := by
  cases worker with
  | caught | dropping | clearing | forgetting => exact List.take_sublist 1 ackQueue
  | _ => exact List.nil_sublist _

theorem failed_append (worker : Worker) (ackQueue ids : List UInt64) :
    (failed worker ackQueue).Sublist (failed worker (ackQueue ++ ids)) := by
  cases worker with
  | caught | dropping | clearing | forgetting =>
      rw [failed, failed, List.take_append]
      exact List.sublist_append_left _ _
  | _ => exact List.nil_sublist _

theorem failed_locked (worker : Worker) (ackQueue : List UInt64) :
    failed worker.locked ackQueue = failed worker ackQueue := by
  cases worker <;> rfl

/-- A step that takes nothing from a queue. -/
theorem inOrder_of_same (hs : s.InOrder) (hhistory : t.history = s.history)
    (hmessages : t.consumer.messages_ = s.consumer.messages_)
    (harrived : t.worker_.arrived = s.worker_.arrived) : t.InOrder := by
  rw [System.InOrder, hhistory, hmessages, harrived]
  exact hs

theorem inOrder_worked [Library] (hs : s.InOrder) (h : Worked s t) : t.InOrder := by
  cases h with
  | connected hat | refused hat | finished hat | began hat | stopped hat | pollFailed hat =>
      exact inOrder_of_same hs rfl rfl (by rw [hat]; rfl)
  | idle hat | acked hat | ackFailed hat | dropAcks hat =>
      exact inOrder_of_same hs rfl rfl (by rw [hat]; rfl)
  | locked => exact inOrder_of_same hs rfl (by simp) Worker.locked_arrived
  | polled hat =>
      have harrived : s.worker_.arrived = [] := by rw [hat]; rfl
      rw [System.InOrder, harrived, List.append_nil] at hs
      rw [System.InOrder, next_arrived, ← List.append_assoc]
      exact hs.append (.refl _)
  | @emplaced locals arrived hat =>
      have harrived : s.worker_.arrived = arrived := by rw [hat]; rfl
      rw [System.InOrder, harrived] at hs
      show (s.history.received ++ (s.consumer.messages_ ++ arrived ++ [])).Sublist _
      rw [List.append_nil]
      exact hs
  | dropMessages =>
      show (s.history.received ++ []).Sublist _
      rw [List.append_nil]
      exact (List.sublist_append_left _ _).trans hs

/-- A step that sends nothing and leaves the requests alone. -/
theorem asked_of_same (hs : s.Asked) (hacknowledged : t.history.acknowledged =
    s.history.acknowledged) (hqueue : t.consumer.ackQueue_ = s.consumer.ackQueue_)
    (hacks : t.world.acks = s.world.acks) (hfailed : (failed s.worker_ s.consumer.ackQueue_).Sublist
      (failed t.worker_ t.consumer.ackQueue_)) : t.Asked := by
  obtain ⟨taken, heq, hsent⟩ := hs
  refine ⟨taken, by rw [hacknowledged, hqueue, heq], ?_⟩
  rw [System.sent, hacks]
  exact hsent.trans ((hfailed.append_left taken).map _)

theorem acks_of_inside {w w' : World} {n : Nat} (h : World.Appends (Event.Inside n) w w') :
    w'.acks = w.acks := acks_of_appends h fun _ he => he.1

theorem acks_of_inSession {w w' : World} {n : Nat} (h : w.Does (Event.InSession n) w') :
    w'.acks = w.acks := acks_of_appends h.log fun _ he => he.2.1

theorem asked_worked [Library] (hs : s.Asked) (h : Worked s t) : t.Asked := by
  have hsame (hfailed : failed s.worker_ s.consumer.ackQueue_ = []) :
      (failed s.worker_ s.consumer.ackQueue_).Sublist
        (failed t.worker_ t.consumer.ackQueue_) := by
    rw [hfailed]
    exact List.nil_sublist _
  cases h with
  | connected hat _ hconnects | refused hat _ hconnects =>
      exact asked_of_same hs rfl rfl (acks_of_inside hconnects.inside)
        (hsame (by rw [hat]; rfl))
  | finished hat | began hat | emplaced hat | idle hat =>
      exact asked_of_same hs rfl rfl rfl (hsame (by rw [hat]; rfl))
  | stopped hat _ _ hleaves =>
      exact asked_of_same hs rfl rfl (acks_of_inside hleaves.does.log)
        (hsame (by rw [hat]; rfl))
  | polled hat _ hpolls =>
      exact asked_of_same hs rfl rfl (acks_of_inSession hpolls.does) (hsame (by rw [hat]; rfl))
  | pollFailed hat _ hpolls hleaves =>
      exact asked_of_same hs rfl rfl
        ((acks_of_inside hleaves.does.log).trans (acks_of_inSession hpolls.does))
        (hsame (by rw [hat]; rfl))
  | locked =>
      refine asked_of_same hs rfl (by simp) rfl ?_
      rw [setOwner_ackQueue_, failed_locked]
  | dropMessages hat =>
      refine asked_of_same hs rfl rfl rfl ?_
      rw [hat]
      exact .refl _
  | @acked _ _ id ackQueue _ hat _ hqueue hacks =>
      obtain ⟨taken, heq, hsent⟩ := hs
      refine ⟨taken ++ [id], by rw [heq, hqueue, List.append_assoc]; rfl, ?_⟩
      rw [show failed s.worker_ s.consumer.ackQueue_ = [] by rw [hat]; rfl,
        List.append_nil] at hsent
      rw [System.sent, hacks.acks, List.map_append, List.append_assoc, List.map_append]
      exact hsent.append (by simp [failed])
  | @ackFailed _ _ id ackQueue _ _ hat _ hqueue hacks hleaves =>
      obtain ⟨taken, heq, hsent⟩ := hs
      refine ⟨taken, heq, ?_⟩
      rw [show failed s.worker_ s.consumer.ackQueue_ = [] by rw [hat]; rfl,
        List.append_nil] at hsent
      rw [System.sent, acks_of_inside hleaves.does.log, hacks.acks, List.map_append,
        List.map_append]
      exact hsent.append (by simp [failed, hqueue, unlock])
  | dropAcks hat =>
      obtain ⟨taken, heq, hsent⟩ := hs
      refine ⟨taken ++ s.consumer.ackQueue_, by rw [heq]; exact (List.append_nil _).symm, ?_⟩
      rw [hat] at hsent
      refine hsent.trans (.map _ ?_)
      rw [List.append_assoc]
      exact ((failed_sublist _ _).trans (List.sublist_append_left _ _)).append_left taken

/-- Clients receive what was delivered, in order, and the tags sent are those they asked
for, in order; neither has anything twice. -/
structure System.Accounted (s : System) : Prop where
  received : s.history.received.Sublist s.history.delivered
  sent : s.sent.Sublist (s.history.acknowledged.map fun id => (id.toNat : Int))

theorem accounted_of (h : s.InOrder) (h' : s.Asked) : s.Accounted := by
  obtain ⟨taken, heq, hsent⟩ := h'
  refine ⟨(List.sublist_append_left _ _).trans h, hsent.trans (.map _ ?_)⟩
  rw [heq]
  exact (failed_sublist s.worker_ s.consumer.ackQueue_).append_left taken

theorem inOrder_turned [Library] {turn : Turn} (hs : s.InOrder) (h : Turned s turn t) :
    t.InOrder := by
  cases h with
  | work h => exact inOrder_worked hs h
  | receive _ hmessages =>
      rw [System.InOrder, hmessages] at hs
      rw [System.InOrder, List.append_assoc]
      exact hs
  | absent => exact hs
  | enter => exact inOrder_of_same hs rfl (by simp) rfl
  | nothing | stop => exact inOrder_of_same hs rfl rfl rfl
  | acknowledge => exact hs
  | start hat | join hat => exact inOrder_of_same hs rfl rfl (by rw [hat]; rfl)

theorem asked_turned [Library] {turn : Turn} (hs : s.Asked) (h : Turned s turn t) : t.Asked := by
  cases h with
  | work h => exact asked_worked hs h
  | absent => exact hs
  | enter =>
      refine asked_of_same hs rfl (by simp) rfl ?_
      rw [setOwner_ackQueue_]
  | nothing | receive | stop => exact asked_of_same hs rfl rfl rfl (.refl _)
  | start hat | join hat =>
      refine asked_of_same hs rfl rfl rfl ?_
      rw [hat]
      exact .refl _
  | acknowledge id =>
      obtain ⟨taken, heq, hsent⟩ := hs
      refine ⟨taken, ?_, hsent.trans (.map _ ?_)⟩
      · rw [System.push, heq, List.append_assoc]
        rfl
      · exact (failed_append s.worker_ s.consumer.ackQueue_ [id]).append_left taken

/-- In every run, messages and acknowledgements are accounted for. -/
theorem consumer_accounted [Library] (self : Consumer) (turns : List Turn) :
    Visits Turn.step System.Accounted (System.initial self) turns := by
  have hkept : Visits Turn.step (fun s => s.Sound ∧ s.InOrder ∧ s.Asked) (System.initial self)
      turns := by
    refine visits_of_step (fun ⟨hs, horder, hasked⟩ h => ?_)
      ⟨sound_initial self, .refl _, [], rfl, .refl _⟩
    have hturned := step_turned hs.toPlaced h
    exact ⟨sound_turned hs hturned, inOrder_turned horder hturned, asked_turned hasked hturned⟩
  exact hkept.mono fun _ hs => accounted_of hs.2.1 hs.2.2

end Accounts

/-! ## While nothing fails -/

/-- Every message that was delivered was received, is in the queue, or is what the callback
puts there; and every tag that clients asked for was sent, or is in the queue. -/
structure System.Lossless (s : System) : Prop where
  messages : s.history.delivered =
    s.history.received ++ (s.consumer.messages_ ++ s.worker_.arrived)
  sent : s.history.acknowledged.map (fun id => (id.toNat : Int)) =
    s.sent ++ s.consumer.ackQueue_.map fun id => (id.toNat : Int)

section Lossless

variable {s t : System}

/-- A step that moves no message and sends nothing. -/
theorem lossless_of_same (hs : s.Lossless) (hhistory : t.history = s.history)
    (hmessages : t.consumer.messages_ = s.consumer.messages_)
    (hacks : t.consumer.ackQueue_ = s.consumer.ackQueue_)
    (harrived : t.worker_.arrived = s.worker_.arrived) (hsent : t.world.acks = s.world.acks) :
    t.Lossless := by
  refine ⟨?_, ?_⟩
  · rw [hhistory, hmessages, harrived]
    exact hs.messages
  · rw [System.sent, hhistory, hacks, hsent]
    exact hs.sent

/-- Outside the handler, and until the worker gets there. -/
theorem lossless_worked [Library] (hs : s.Lossless) (hhandling : s.worker_.handling = false)
    (hnext : t.worker_ ≠ .caught) (h : Worked s t) :
    t.Lossless ∧ t.worker_.handling = false := by
  cases h with
  | connected hat _ hconnects =>
      exact ⟨lossless_of_same hs rfl rfl rfl (by rw [hat]; rfl)
        (acks_of_inside hconnects.inside), rfl⟩
  | finished hat | began hat | idle hat =>
      exact ⟨lossless_of_same hs rfl rfl rfl (by rw [hat]; rfl) rfl, rfl⟩
  | stopped hat _ _ hleaves =>
      exact ⟨lossless_of_same hs rfl rfl rfl (by rw [hat]; rfl)
        (acks_of_inside hleaves.does.log), rfl⟩
  | @polled _ _ _ _ _ _ arrived _ hat _ hpolls =>
      have harrived : s.worker_.arrived = [] := by rw [hat]; rfl
      refine ⟨⟨?_, ?_⟩, next_handling _ _ _ _ _⟩
      · have hmessages := hs.messages
        rw [harrived, List.append_nil] at hmessages
        rw [next_arrived, ← List.append_assoc]
        exact congrArg (· ++ arrived) hmessages
      · rw [System.sent, acks_of_inSession hpolls.does]
        exact hs.sent
  | @emplaced locals arrived hat =>
      have harrived : s.worker_.arrived = arrived := by rw [hat]; rfl
      have hmessages := hs.messages
      rw [harrived] at hmessages
      exact ⟨⟨(List.append_nil (s.consumer.messages_ ++ arrived)).symm ▸ hmessages, hs.sent⟩, rfl⟩
  | locked =>
      exact ⟨lossless_of_same hs rfl (by simp) (by simp) Worker.locked_arrived rfl,
        Worker.locked_handling.trans hhandling⟩
  | @acked _ _ id ackQueue _ hat _ hqueue hacks =>
      have harrived : s.worker_.arrived = [] := by rw [hat]; rfl
      have hmessages := hs.messages
      rw [harrived] at hmessages
      refine ⟨⟨hmessages, ?_⟩, rfl⟩
      rw [System.sent, hacks.acks, List.map_append, List.append_assoc]
      exact hs.sent.trans (by rw [hqueue]; rfl)
  | refused | pollFailed | ackFailed => exact absurd rfl hnext
  | dropMessages hat | dropAcks hat =>
      rw [hat] at hhandling
      cases hhandling

theorem lossless_turned [Library] {turn : Turn} (hs : s.Lossless)
    (hhandling : s.worker_.handling = false) (hnext : t.worker_ ≠ .caught) (h : Turned s turn t) :
    t.Lossless ∧ t.worker_.handling = false := by
  cases h with
  | work h => exact lossless_worked hs hhandling hnext h
  | absent => exact ⟨hs, hhandling⟩
  | enter => exact ⟨lossless_of_same hs rfl (by simp) (by simp) rfl rfl, hhandling⟩
  | nothing | stop => exact ⟨lossless_of_same hs rfl rfl rfl rfl rfl, hhandling⟩
  | receive _ hmessages =>
      refine ⟨⟨?_, hs.sent⟩, hhandling⟩
      rw [List.append_assoc]
      exact hs.messages.trans (by rw [hmessages]; rfl)
  | acknowledge id =>
      refine ⟨⟨hs.messages, ?_⟩, hhandling⟩
      show (s.history.acknowledged ++ [id]).map _ = s.sent ++ (s.consumer.ackQueue_ ++ [id]).map _
      rw [List.map_append, List.map_append, ← List.append_assoc]
      exact congrArg (· ++ [(id.toNat : Int)]) hs.sent
  | start hat | join hat =>
      exact ⟨lossless_of_same hs rfl rfl rfl (by rw [hat]; rfl) rfl, rfl⟩

/-- As long as the worker has caught nothing, nothing is lost. -/
theorem nothing_lost [Library] (self : Consumer) (turns : List Turn)
    (h : Visits Turn.step (fun s => s.worker_ ≠ .caught) (System.initial self) turns) :
    Visits Turn.step System.Lossless (System.initial self) turns := by
  have hnext : Along Turn.step (fun turn s => ∀ t, turn.step s = some t → t.worker_ ≠ .caught)
      (System.initial self) turns := by
    refine along_of_visits (fun _ ht hstep t' hstep' => ?_) h
    cases Option.some.inj (hstep.symm.trans hstep')
    exact ht
  have hkept : Visits Turn.step
      (fun s => s.Sound ∧ s.Lossless ∧ s.worker_.handling = false)
      (System.initial self) turns := by
    refine visits_of_along (fun ⟨hs, hlossless, hhandling⟩ hnext h => ?_) hnext
      ⟨sound_initial self, ⟨rfl, rfl⟩, rfl⟩
    have hturned := step_turned hs.toPlaced h
    exact ⟨sound_turned hs hturned, lossless_turned hlossless hhandling (hnext _ h) hturned⟩
  exact hkept.mono fun _ hs => hs.2.1

end Lossless

/-! ## What is received -/

/-- What was put into `messages_` was delivered. -/
def System.Supplied [Library] (s : System) : Prop :=
  ∃ answers, s.history.delivered = answers.map delivery ∧ Deliveries 0 s.world.calls answers

/-- Every message that a client received is a delivery that the library answered with; none
came of the same answer as another, and they are in the order of the answers. -/
def System.Genuine [Library] (s : System) : Prop :=
  ∃ answers, s.history.received = answers.map delivery ∧ Deliveries 0 s.world.calls answers

section Genuine

variable [Library] {s t : System}

theorem supplied_of_later (hs : s.Supplied) (hdelivered : t.history.delivered = s.history.delivered)
    (hlater : s.world.Later t.world) : t.Supplied := by
  obtain ⟨answers, hsupplied, hanswers⟩ := hs
  exact ⟨answers, hdelivered.trans hsupplied, hanswers.mono hlater⟩

theorem supplied_worked (hs : s.Supplied) (h : Worked s t) : t.Supplied := by
  cases h with
  | connected _ _ hconnects | refused _ _ hconnects =>
      exact supplied_of_later hs rfl hconnects.quiet.later
  | finished | emplaced | locked | idle | dropMessages | dropAcks =>
      exact supplied_of_later hs rfl (refl _)
  | began => exact supplied_of_later hs rfl (Nat.le_succ _)
  | polled _ _ hpolls =>
      obtain ⟨earlier, hsupplied, hearlier⟩ := hs
      obtain ⟨answers, harrived, hanswers, -⟩ := hpolls.answers
      refine ⟨earlier ++ answers, ?_, hearlier.append hanswers (Nat.zero_le _) hpolls.later⟩
      rw [List.map_append, ← hsupplied]
      exact congrArg (s.history.delivered ++ ·) harrived
  | pollFailed _ _ hpolls hleaves =>
      exact supplied_of_later hs rfl (Nat.le_trans hpolls.later hleaves.quiet.later)
  | stopped _ _ _ hleaves => exact supplied_of_later hs rfl hleaves.quiet.later
  | acked _ _ _ hacks => exact supplied_of_later hs rfl hacks.quiet.later
  | ackFailed _ _ _ hacks hleaves =>
      exact supplied_of_later hs rfl (Nat.le_trans hacks.quiet.later hleaves.quiet.later)

theorem supplied_turned {turn : Turn} (hs : s.Supplied) (h : Turned s turn t) : t.Supplied := by
  cases h with
  | work h => exact supplied_worked hs h
  | absent => exact hs
  | enter | nothing | receive | acknowledge | start | stop | join =>
      exact supplied_of_later hs rfl (refl _)

/-- In every run, clients receive only what was delivered, nothing twice and in order, across
all connections. -/
theorem received_genuine (self : Consumer) (turns : List Turn) :
    Visits Turn.step System.Genuine (System.initial self) turns := by
  have hkept : Visits Turn.step (fun s => s.Sound ∧ s.InOrder ∧ s.Supplied) (System.initial self)
      turns := by
    refine visits_of_step (fun ⟨hs, horder, hsupplied⟩ h => ?_)
      ⟨sound_initial self, .refl _, [], rfl, .nil⟩
    have hturned := step_turned hs.toPlaced h
    exact ⟨sound_turned hs hturned, inOrder_turned horder hturned,
      supplied_turned hsupplied hturned⟩
  refine hkept.mono fun s ⟨_, horder, answers, hsupplied, hanswers⟩ => ?_
  have hreceived := (List.sublist_append_left _ _).trans horder
  rw [hsupplied] at hreceived
  obtain ⟨answers', hsub, heq⟩ := List.sublist_map_iff.mp hreceived
  exact ⟨answers', heq, hanswers.sublist hsub⟩

end Genuine

/-! ## Whose tags are acknowledged -/

/-- A client received a message with that tag over `h`. -/
def System.Received (s : System) (h : Handle) (tag : Int) : Prop :=
  ∃ m ∈ s.history.received, m.via = h ∧ (m.id.toNat : Int) = tag

/-- Every tag was acknowledged over the connection on which it is the tag of a message that
a client received. -/
def System.Rightful (s : System) : Prop := ∀ a ∈ s.world.acks, s.Received a.1 a.2

/-- While the worker is connected, clients acknowledge what they received over its connection;
they acknowledge nothing when it is about to connect; and it is not started with requests from
before. -/
def Turn.Timely (turn : Turn) (s : System) : Prop :=
  match turn with
  | .acknowledge _ id =>
      (∀ locals, s.worker_.locals = some locals →
        s.Received locals.connection.connection_ id.toNat) ∧
      (s.worker_ = .top → s.consumer.run_ = false)
  | .start => s.consumer.ackQueue_ = []
  | _ => True

/-- What is in the queue may be sent over the connection that it will be sent over. -/
structure System.Current (s : System) : Prop where
  session : ∀ locals, s.worker_.locals = some locals → ∀ id ∈ s.consumer.ackQueue_,
    s.Received locals.connection.connection_ id.toNat
  top : s.worker_ = .top → s.consumer.run_ = true → s.consumer.ackQueue_ = []

section Rightful

variable {s t : System}

theorem rightful_of_same (hs : s.Rightful) (hacks : t.world.acks = s.world.acks)
    (hreceived : t.history.received = s.history.received) : t.Rightful := by
  intro a ha
  rw [System.Received, hreceived]
  exact hs a (hacks ▸ ha)

/-- An acknowledgement from the front of the queue. -/
theorem rightful_acks {locals : Locals} {n : Nat} {id : UInt64} {w : World} (hs : s.Rightful)
    (hover : locals.Over n) (hid : s.Received locals.connection.connection_ id.toNat)
    (hacks : Acks n id s.world w) : System.Rightful { s with world := w } := by
  intro a ha
  rw [hacks.acks] at ha
  rcases List.mem_append.mp ha with ha | ha
  · exact hs a ha
  · cases List.mem_singleton.mp ha
    rw [hover.connection] at hid
    exact hid

/-- A step inside the `try` block. -/
theorem current_within {locals : Locals} (hc : s.Current)
    (hat : s.worker_.locals = some locals) (hlocals : t.worker_.locals = some locals)
    (hqueue : t.consumer.ackQueue_ ⊆ s.consumer.ackQueue_)
    (hreceived : t.history.received = s.history.received) : t.Current := by
  refine ⟨fun locals' h id hid => ?_, fun h => ?_⟩
  · rw [hlocals] at h
    cases h
    rw [System.Received, hreceived]
    exact hc.session locals hat id (hqueue hid)
  · rw [h] at hlocals
    cases hlocals

/-- Where nothing is sent before the queue is cleared, or before the next start. -/
theorem current_of_none (hlocals : t.worker_.locals = none)
    (htop : t.worker_ = .top → t.consumer.run_ = true → t.consumer.ackQueue_ = []) :
    t.Current := by
  refine ⟨fun locals h => ?_, htop⟩
  rw [hlocals] at h
  cases h

theorem rightful_worked [Library] (hs : s.Rightful) (hc : s.Current) (h : Worked s t) :
    t.Rightful ∧ t.Current := by
  cases h with
  | connected hat hrun hconnects =>
      refine ⟨rightful_of_same hs (acks_of_inside hconnects.inside) rfl,
        fun locals h id hid => ?_, nofun⟩
      rw [hc.top hat hrun] at hid
      cases hid
  | refused hat _ hconnects =>
      exact ⟨rightful_of_same hs (acks_of_inside hconnects.inside) rfl, current_of_none rfl nofun⟩
  | finished | dropMessages => exact ⟨hs, current_of_none rfl nofun⟩
  | began hat _ | emplaced hat | idle hat =>
      exact ⟨hs, current_within hc (by rw [hat]; rfl) rfl (List.Subset.refl _) rfl⟩
  | stopped hat _ hrun hleaves =>
      refine ⟨rightful_of_same hs (acks_of_inside hleaves.does.log) rfl,
        current_of_none rfl fun _ h => ?_⟩
      rw [hrun] at h
      cases h
  | polled hat _ hpolls =>
      exact ⟨rightful_of_same hs (acks_of_inSession hpolls.does) rfl,
        current_within hc (by rw [hat]; rfl) (next_locals _ _ _ _ _) (List.Subset.refl _) rfl⟩
  | pollFailed _ _ hpolls hleaves =>
      exact ⟨rightful_of_same hs
        ((acks_of_inside hleaves.does.log).trans (acks_of_inSession hpolls.does)) rfl,
        current_of_none rfl nofun⟩
  | @locked m hwants _ =>
      refine ⟨hs, ?_⟩
      cases hlocals : s.worker_.locals with
      | some locals =>
          exact current_within hc hlocals (Worker.locked_locals.trans hlocals) (by simp) rfl
      | none =>
          refine current_of_none (Worker.locked_locals.trans hlocals) fun htop => ?_
          have hholds : Worker.holds .top = some m := htop ▸ Worker.locked_holds hwants
          cases hholds
  | acked hat hover hqueue hacks =>
      have hsession := hc.session _ (by rw [hat]; rfl)
      rw [hqueue] at hsession
      refine ⟨rightful_acks hs hover (hsession _ List.mem_cons_self) hacks,
        current_within hc (by rw [hat]; rfl) rfl ?_ rfl⟩
      rw [hqueue]
      exact List.subset_cons_self _ _
  | ackFailed hat hover hqueue hacks hleaves =>
      have hsession := hc.session _ (by rw [hat]; rfl)
      rw [hqueue] at hsession
      have hsent := rightful_acks hs hover (hsession _ List.mem_cons_self) hacks
      exact ⟨rightful_of_same hsent (acks_of_inside hleaves.does.log) rfl,
        current_of_none rfl nofun⟩
  | dropAcks => exact ⟨hs, current_of_none rfl fun _ _ => rfl⟩

theorem rightful_turned [Library] {turn : Turn} (hs : s.Rightful) (hc : s.Current)
    (htimely : turn.Timely s) (h : Turned s turn t) : t.Rightful ∧ t.Current := by
  cases h with
  | work h => exact rightful_worked hs hc h
  | absent => exact ⟨hs, hc⟩
  | enter =>
      refine ⟨hs, fun locals h id hid => ?_, fun h hrun => ?_⟩
      · rw [setOwner_ackQueue_] at hid
        exact hc.session locals h id hid
      · rw [setOwner_run_] at hrun
        rw [setOwner_ackQueue_]
        exact hc.top h hrun
  | nothing => exact ⟨hs, hc.session, hc.top⟩
  | @receive i dst messages _ _ =>
      have hmore {h : Handle} {tag : Int} (hr : s.Received h tag) :
          ∃ m ∈ s.history.received ++ [dst], m.via = h ∧ (m.id.toNat : Int) = tag := by
        obtain ⟨m, hm, hr⟩ := hr
        exact ⟨m, List.mem_append_left _ hm, hr⟩
      exact ⟨fun a ha => hmore (hs a ha),
        fun locals h id hid => hmore (hc.session locals h id hid), hc.top⟩
  | acknowledge id =>
      obtain ⟨hsession, htop⟩ := htimely
      refine ⟨hs, fun locals h id' hid => ?_, fun h hrun => ?_⟩
      · rcases List.mem_append.mp hid with hid | hid
        · exact hc.session locals h id' hid
        · cases List.mem_singleton.mp hid
          exact hsession locals h
      · exact absurd ((htop h).symm.trans hrun) Bool.false_ne_true
  | start => exact ⟨hs, current_of_none rfl fun _ _ => htimely⟩
  | stop => exact ⟨hs, hc.session, fun _ h => absurd h Bool.false_ne_true⟩
  | join => exact ⟨hs, current_of_none rfl nofun⟩

/-- If clients and their calls are timely, every acknowledgement is of a message that was
received over the same connection. -/
theorem acks_of_session [Library] (self : Consumer) (turns : List Turn)
    (h : Along Turn.step Turn.Timely (System.initial self) turns) :
    Visits Turn.step System.Rightful (System.initial self) turns := by
  have hall : Visits Turn.step (fun s => s.Sound ∧ s.Rightful ∧ s.Current)
      (System.initial self) turns := by
    refine visits_of_along (fun ⟨hs, hrightful, hcurrent⟩ htimely h => ?_) h
      ⟨sound_initial self, List.forall_mem_nil _, current_of_none rfl nofun⟩
    have hturned := step_turned hs.toPlaced h
    exact ⟨sound_turned hs hturned, rightful_turned hrightful hcurrent htimely hturned⟩
  exact hall.mono fun _ hs => hs.2.1

end Rightful

/-! ## How long the worker waits -/

/-- Every wait so far was brief. -/
def System.WaitsBriefly [Library] (s : System) : Prop := ∀ wait ∈ s.world.waits, Brief wait

section Waits

variable [Library] {s t : System}

end Waits

/-- A broker that delivers a message with the tag 7 whenever it is asked. -/
@[reducible] def deliversSeven : Library :=
  { allSucceed with
    consumeMessage := fun _ => ⟨.normal, ⟨1, "", 7, false, "", "", ⟨[], ""⟩⟩, []⟩ }

def aConsumer : Consumer := make "" 5672 "" "" "" ["queue0"]

/-- A message is delivered, received and acknowledged. -/
def aDelivery : List Turn :=
  [.start, .work, .work, .work, .work, .enter 0 .messageMtx, .receive 0, .enter 0 .ackMtx,
    .acknowledge 0 7, .work, .work]

theorem aDelivery_rightful :
    letI := deliversSeven
    Visits Turn.step System.Rightful (System.initial aConsumer) aDelivery ∧
      (Ends Turn.step (System.initial aConsumer) aDelivery).world.acks = [(some 1, 7)] := by
  let _ := deliversSeven
  refine ⟨acks_of_session aConsumer aDelivery (along_cons rfl rfl <| along_cons rfl trivial <|
    along_cons rfl trivial <| along_cons rfl trivial <| along_cons rfl trivial <|
    along_cons rfl trivial <| along_cons rfl trivial <| along_cons rfl trivial <|
    along_cons rfl ?_ <| along_cons rfl trivial <| along_cons rfl trivial trivial), rfl⟩
  refine ⟨fun locals h => ?_, nofun⟩
  cases h
  exact ⟨_, List.mem_cons_self, rfl, rfl⟩

/-- A broker that delivers a message with the tag 7, drops the connection, and takes the next
one. -/
@[reducible] def dropsOnce : Library :=
  { allSucceed with
    consumeMessage := fun n =>
      if n < 12 then ⟨.normal, ⟨1, "", 7, false, "", "", ⟨[], ""⟩⟩, []⟩
      else if n < 18 then ⟨⟨.libraryException, 0, none, .socketError⟩,
        ⟨0, "", 0, false, "", "", ⟨[], ""⟩⟩, []⟩
      else allSucceed.consumeMessage n }

/-- An acknowledgement that is not timely: the message was received over the first connection,
and its tag is sent over the second one. -/
example :
    letI := dropsOnce
    (Ends Turn.step (System.initial aConsumer)
      [.start, .work, .work, .work, .work, .enter 0 .messageMtx, .receive 0, .work, .work, .work,
        .work, .work, .work, .work, .work, .work, .enter 0 .ackMtx, .acknowledge 0 7, .work, .work,
        .work, .work]).world.acks = [(some 2, 7)] := rfl

/-- Neither is a start with requests from before. -/
example :
    letI := deliversSeven
    (Ends Turn.step (System.initial aConsumer)
      [.start, .work, .work, .work, .work, .enter 0 .messageMtx, .receive 0, .stop, .work, .work,
        .enter 0 .ackMtx, .acknowledge 0 7, .work, .work, .join, .start, .work, .work, .work, .work,
        .work, .work]).world.acks = [(some 2, 7)] := rfl

theorem aDelivery_nothing_lost :
    letI := deliversSeven
    Visits Turn.step System.Lossless (System.initial aConsumer) aDelivery := by
  let _ := deliversSeven
  exact nothing_lost aConsumer aDelivery (visits_cons rfl nofun <| visits_cons rfl nofun <|
    visits_cons rfl nofun <| visits_cons rfl nofun <| visits_cons rfl nofun <|
    visits_cons rfl nofun <| visits_cons rfl nofun <| visits_cons rfl nofun <|
    visits_cons rfl nofun <| visits_cons rfl nofun <| visits_cons rfl nofun nofun)

end RmqCxx.Consumer
