/-
# `RmqCxx.Capturing` — a consumer whose callback captures a variable

The consumers of `RmqCxx.Consumers` are given callbacks that only use the world.  Here
is `consumeEnvelope` for a callback that has also captured a variable by reference, which
lies between the flag `done` and the world.  The flag is down whenever the loop goes on, so the
call is a sequence of turns with a flag of their own (`consumeEnvelopeWith_turns`).  Whatever
relation the callback keeps between the variable and the world, before and after, a turn keeps,
if that relation lets the world go on (`turnAlone_keeps`).  And if the variable is left out of
sight, the call is the one of `RmqCxx.Consumers` (`consumeEnvelopeWith_seen`).
-/
import RmqCxx.Consumers
import RmqCxx.Cpp.Views
import RmqCxx.Usage

namespace RmqCxx

open Cpp Code

/-- A callback that has captured a `V`. -/
abbrev CapturingCallback (O V : Type) := Code (O × V × World) Exc Unit

variable {V : Type}

/-- The callback, with the flag `done` beside what it captured. -/
def besideDone {O : Type} (c : CapturingCallback O V) : Code (O × (Bool × V) × World) Exc Unit :=
  ⟨fun s =>
    let (r, (o, v, w)) := c.run (s.1, s.2.1.2, s.2.2)
    (r, (o, (s.2.1.1, v), w))⟩

/-- `[&callback, &done] (T v) mutable { done = true; callback(std::move(v)); }`. -/
def Passed.callingWith {O : Type} (P : Passed O) (callback : CapturingCallback O V) :
    Callback O (Bool × V) :=
  passByValue P.move (fun o => beside (P.destroy o)) do
    modify fun (o, (_, v), w) => (o, (true, v), w)
    besideDone callback

/-- Code over the flag and the variable together, as code over one and then the other. -/
def apart {α : Type} (c : Code ((Bool × V) × World) Exc α) : Code (Bool × V × World) Exc α :=
  ⟨fun s =>
    let (r, ((done, v), w)) := c.run ((s.1, s.2.1), s.2.2)
    (r, (done, v, w))⟩

namespace Connection

variable [Library] (self : Connection) {p : Period} (callback : CapturingCallback Envelope V)

/-- One turn of the loop. -/
def turnWith (start : ClockDuration) (vars : ClockDuration × Bool) :
    Code (Bool × V × World) Exc (Bool × ClockDuration × Bool) := do
  let now ← beside (beside clockNow)
  let internalTimeout := nextTimeout vars.1 start now
  let r ← apart (self.consume internalTimeout (Envelope.passed.callingWith callback)
    (passByRef fun _ => pure ()) (fun _ => pure ()))
  let (done, _) ← get
  pure (r && !done, internalTimeout, r)

/-- `consumeEnvelope(timeout, callback)`; `none` if the loop still runs after `fuel`
turns. -/
def consumeEnvelopeWith (timeout : Duration p) (fuel : Nat) :
    Code (V × World) Exc (Option Bool) :=
  withLocal false (fun _ => pure ()) do
    let start ← beside (beside clockNow)
    let vars ← doWhile (self.turnWith callback start) fuel
      (durationCast .nanoseconds timeout, false)
    pure (vars.map Prod.snd)

/-- A turn with a flag of its own. -/
def turnAlone (start : ClockDuration) (vars : ClockDuration × Bool) :
    Code (V × World) Exc (Bool × ClockDuration × Bool) :=
  withLocal false (fun _ => pure ()) (self.turnWith callback start vars)

/-- A turn hands one call of `consume` what is left of the timeout. -/
theorem turnAlone_run {start : ClockDuration} {vars : ClockDuration × Bool} {v v' : V}
    {w w' : World} {o : Outcome Exc Bool} {done : Bool}
    (h : (self.consume (nextTimeout vars.1 start (Library.now w.calls))
      (Envelope.passed.callingWith callback) (passByRef fun _ => pure ()) fun _ => pure ()).run
        ((false, v), w.tick) = (o, ((done, v'), w'))) :
    (self.turnAlone callback start vars).run (v, w) =
      (o.map fun r => (r && !done, nextTimeout vars.1 start (Library.now w.calls), r),
        (v', w')) := by
  have hnow : (beside (beside clockNow) : Code (Bool × V × World) Exc ClockDuration).run
      (false, v, w) = (.ret (Library.now w.calls), (false, v, w.tick)) := rfl
  have hconsume : (apart (self.consume (nextTimeout vars.1 start (Library.now w.calls))
      (Envelope.passed.callingWith callback) (passByRef fun _ => pure ()) fun _ => pure ())).run
        (false, v, w.tick) = (o, (done, v', w')) := by
    simp only [apart, h]
  suffices hturn : (self.turnWith callback start vars).run (false, v, w) =
      (o.map fun r => (r && !done, nextTimeout vars.1 start (Library.now w.calls), r),
        (done, v', w')) from withLocal_of_idle hturn rfl
  rw [turnWith, bind_of_ret hnow]
  cases o with
  | ret r =>
      rw [bind_of_ret hconsume]
      rfl
  | thrown e =>
      rw [bind_of_thrown hconsume]
      rfl
  | terminate =>
      rw [bind_of_terminate hconsume]
      rfl

/-- The loop goes on after a turn only if the flag is down. -/
theorem turnWith_again (start : ClockDuration) (vars : ClockDuration × Bool) :
    Returns (fun next s => next.1 = true → s.1 = false) (self.turnWith callback start vars) := by
  refine returns_then fun now => returns_then fun r => ?_
  rintro ⟨done, v, w⟩ next hnext hagain
  cases hnext
  exact Bool.not_eq_true' done ▸ (Bool.and_eq_true_iff.mp hagain).2

/-- The call reads the clock, and takes turns that share nothing but the timeout. -/
theorem consumeEnvelopeWith_turns (timeout : Duration p) (fuel : Nat) :
    self.consumeEnvelopeWith callback timeout fuel = (do
      let start ← beside clockNow
      let vars ← doWhile (self.turnAlone callback start) fuel
        (durationCast .nanoseconds timeout, false)
      pure (vars.map Prod.snd)) := by
  rw [consumeEnvelopeWith, withLocal_beside_bind]
  refine congrArg (beside clockNow >>= ·) (funext fun start => ?_)
  refine (withLocal_map (Option.map Prod.snd)).trans (congrArg _ ?_)
  refine withLocal_doWhile (fun vars s vars' done s' hrun => ?_) fuel _
  have hdown := self.turnWith_again callback start vars (false, s) (true, vars')
  rw [hrun] at hdown
  exact hdown rfl rfl

end Connection

/-! ## What a turn keeps -/

section Keeps

variable {S : V × World → V × World → Prop}

/-- `S`, whatever becomes of the flag. -/
def Flagged (S : V × World → V × World → Prop) (s s' : (Bool × V) × World) : Prop :=
  S (s.1.2, s.2) (s'.1.2, s'.2)

instance [Std.Refl S] : Std.Refl (Flagged S) := ⟨fun s => refl (s.1.2, s.2)⟩

instance [IsTrans (V × World) S] : IsTrans ((Bool × V) × World) (Flagged S) :=
  ⟨fun _ _ _ h h' => IsTrans.trans (r := S) _ _ _ h h'⟩

theorem keeps_besideDone {O : Type} {callback : CapturingCallback O V}
    (h : Keeps (Beneath S) callback) : Keeps (Beneath (Flagged S)) (besideDone callback) := by
  intro s
  exact h (s.1, s.2.1.2, s.2.2)

theorem keeps_apart {α : Type} {c : Code ((Bool × V) × World) Exc α}
    (h : Keeps (Flagged S) c) : Keeps (Beneath S) (apart c) := by
  intro s
  exact h ((s.1, s.2.1), s.2.2)

variable [Std.Refl S] [IsTrans (V × World) S] [Library] {P : Event → Prop} {self : Connection}
  {callback : CapturingCallback Envelope V}

theorem turnAlone_keeps (hP : ∀ e, self.Logs e → P e)
    (hS : ∀ v w w', w.Does P w' → S (v, w) (v, w')) (hcallback : Keeps (Beneath S) callback)
    (start : ClockDuration) (vars : ClockDuration × Bool) :
    Keeps S (self.turnAlone callback start vars) := by
  have hflagged (l : Bool × V) (w w' : World) (h : w.Does P w') : Flagged S (l, w) (l, w') :=
    hS l.2 w w' h
  have hlambda : Keeps (Beneath (Flagged S)) (Envelope.passed.callingWith callback) :=
    keeps_passByValue (fun e => keeps_beside_of hflagged
      (does_destroyEnvelope (fun i => hP _ (.envelope i)) e))
      (keeps_bind (keeps_modify fun s => refl (s.2.1.2, s.2.2)) fun _ =>
        keeps_besideDone hcallback)
  have hclock : Keeps S (beside clockNow : Code (V × World) Exc ClockDuration) :=
    keeps_beside_of hS does_clockNow
  have hconsume (t : ClockDuration) : Keeps (Flagged S) (self.consume t
      (Envelope.passed.callingWith callback) (passByRef fun _ => pure ()) fun _ => pure ()) :=
    consumeImpl_keeps hP hflagged _ hlambda (keeps_passByRef fun _ => keeps_pure ())
      fun _ => keeps_pure ()
  exact keeps_withLocal (fun _ => keeps_pure ()) (keeps_bind (keeps_beside hclock) fun now =>
    keeps_bind (keeps_apart (hconsume _)) fun r => keeps_bind keeps_get fun _ => keeps_pure _)

end Keeps

/-! ## What a call looks like without the variable -/

/-- The state with less seen of what the callbacks captured. -/
def seeing {L L' : Type} (g : L → L') (s : L × World) : L' × World := (g s.1, s.2)

section Seen

variable [Library] {L L' : Type} {g : L → L'} (self : Connection)

theorem consumeReturn_seen (frame : Frame) (decoded : BasicReturn Bytes)
    {returned : Callback ReturnedMessage L} {returned' : Callback ReturnedMessage L'}
    (hreturned : Seen (under (seeing g)) returned returned') :
    Seen (seeing g) (self.consumeReturn frame decoded returned)
      (self.consumeReturn frame decoded returned') := by
  have hquiet {α : Type} (c : Code World Exc α) :
      Seen (seeing g) (beside c : Code (L × World) Exc α) (beside c) := seen_beside_map g c
  refine seen_bind (hquiet _) fun ident => seen_withLocal (fun m => hquiet _) ?_
  refine seen_bind (seen_beside (hquiet _)) ?_
  rintro ⟨reply, memory⟩
  refine seen_bind (seen_modify fun s => rfl) fun _ => ?_
  refine seen_bind (seen_ofExcept _) fun _ => seen_get ?_
  rintro ⟨message, s⟩
  refine seen_bind (seen_modify fun s => rfl) fun _ => ?_
  refine seen_bind (seen_beside (hquiet _)) fun _ => ?_
  refine seen_bind (seen_beside (seen_withLocal (fun r => hquiet _) hreturned)) fun _ => ?_
  exact seen_pure true

theorem consumeFrame_seen (tv : Option Timeval) (start : ClockDuration) (reply : RpcReply)
    {returned : Callback ReturnedMessage L} {returned' : Callback ReturnedMessage L'}
    {acknowledge : AcknowledgeCallback L} {acknowledge' : AcknowledgeCallback L'}
    (hreturned : Seen (under (seeing g)) returned returned')
    (hacknowledge : ∀ ack, Seen (seeing g) (acknowledge ack) (acknowledge' ack)) :
    Seen (seeing g) (self.consumeFrame tv start reply returned acknowledge)
      (self.consumeFrame tv start reply returned' acknowledge') := by
  refine seen_bind (seen_beside_map g _) fun tv => seen_bind (seen_beside_map g _) ?_
  rintro ⟨status, ⟨channel, payload⟩⟩
  dsimp only
  cases status with
  | timeout => exact seen_pure false
  | socketError | unexpectedState | other _ => exact seen_throw _
  | ok =>
      cases payload with
      | other _ => exact seen_throw _
      | method m =>
          dsimp only
          cases m.decoded with
          | basicAck decoded => exact seen_bind (hacknowledge decoded) fun _ => seen_pure true
          | basicReturn decoded => exact consumeReturn_seen self _ _ hreturned
          | channelClose _ | connectionClose _ | other _ => exact seen_throw _

theorem consumeImpl_seen (tv : Option Timeval)
    {envelope : Callback Envelope L} {envelope' : Callback Envelope L'}
    {returned : Callback ReturnedMessage L} {returned' : Callback ReturnedMessage L'}
    {acknowledge : AcknowledgeCallback L} {acknowledge' : AcknowledgeCallback L'}
    (henvelope : Seen (under (seeing g)) envelope envelope')
    (hreturned : Seen (under (seeing g)) returned returned')
    (hacknowledge : ∀ ack, Seen (seeing g) (acknowledge ack) (acknowledge' ack)) :
    Seen (seeing g) (self.consumeImpl tv envelope returned acknowledge)
      (self.consumeImpl tv envelope' returned' acknowledge') := by
  have hquiet {α : Type} (c : Code World Exc α) :
      Seen (seeing g) (beside c : Code (L × World) Exc α) (beside c) := seen_beside_map g c
  refine seen_scopeExit (hquiet _) (seen_bind (hquiet _) fun ident => ?_)
  refine seen_withLocal (fun e => hquiet _) ?_
  refine seen_bind (seen_beside (hquiet _)) fun start => seen_bind (seen_beside (hquiet _)) ?_
  rintro ⟨reply, memory⟩
  refine seen_bind (seen_modify fun s => rfl) fun _ => ?_
  cases reply.replyType with
  | none | serverException | other _ => exact seen_throw _
  | normal => exact seen_ite (seen_pure false) (seen_bind henvelope fun _ => seen_pure true)
  | libraryException =>
      dsimp only
      cases reply.libraryError with
      | unexpectedState =>
          exact seen_beside (consumeFrame_seen self tv start reply hreturned hacknowledge)
      | timeout => exact seen_pure false
      | ok | socketError | other _ => exact seen_throw _

variable {callback : CapturingCallback Envelope V} {callback' : UserCallback Envelope}

omit [Library] in
theorem callingWith_seen {O : Type} {P : Passed O} {callback : CapturingCallback O V}
    {callback' : UserCallback O} (h : Seen (under Prod.snd) callback callback') :
    Seen (under (seeing Prod.fst)) (P.callingWith callback) (P.calling callback') := by
  refine seen_passByValue (fun o => seen_beside_map Prod.fst _)
    (seen_bind (seen_modify fun s => rfl) fun _ => ?_)
  rintro ⟨o, ⟨done, v⟩, w⟩
  have hrun : callback'.run (o, w) = _ := h (o, v, w)
  simp only [past, besideDone, under, seeing, hrun]

/-- A callback that does to the world what `callback'` does: so does the whole call. -/
theorem consumeEnvelopeWith_seen {p : Period} (h : Seen (under Prod.snd) callback callback')
    (timeout : Duration p) (fuel : Nat) :
    Seen Prod.snd (self.consumeEnvelopeWith callback timeout fuel)
      (self.consuming.consumeEnvelope timeout callback' fuel) := by
  have hturn (start : ClockDuration) (vars : ClockDuration × Bool) :
      Seen (under Prod.snd) (self.turnWith callback start vars)
        (self.consuming.turn (Envelope.passed.calling callback') (ignoring ReturnedMessage)
          ignoringAcknowledge start vars) := by
    refine seen_bind (seen_beside (seen_snd clockNow)) fun now => seen_bind ?_ fun r =>
      seen_get fun s => seen_pure _
    rintro ⟨done, v, w⟩
    exact consumeImpl_seen self _ (callingWith_seen h) (seen_passByRef fun _ => seen_pure ())
      (fun _ => seen_pure ()) ((done, v), w)
  refine seen_withLocal (fun _ => seen_pure ()) (seen_bind (seen_beside (seen_snd clockNow))
    fun start => seen_bind (seen_doWhile (hturn start) fuel _) fun _ => seen_pure _)

end Seen
end RmqCxx
