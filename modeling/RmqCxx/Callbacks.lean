/-
# `RmqCxx.Callbacks` — callbacks as scripts

What a callback does with the object it is given, and with the library, is data: it
takes the object by value or by reference to const, possibly through lambdas that
pass it on; runs channel, queue and exchange operations, whose exceptions it
catches; may move the object, once, into a new object that lives on; and returns or
throws.  `Script.code` is the C++ that a script stands for.

`Script.final` says what is left in the end, when the scope that owned the object
is left too: the object was destroyed, by whichever of the objects it was moved
through, or it is among the kept ones (`scope_run`).  The end of its life is noted
in the log, with whether all it gives access to was still there.
-/
import RmqCxx.Operation
import RmqCxx.Wrappers

namespace RmqCxx

open Cpp Code

/-! ## The objects given to callbacks -/

/-- What the classes of the objects have in common. -/
structure Passed (O : Type) where
  moved : O → Bool
  /-- The move constructor: the new object, and what is left of the other one. -/
  move : O → O × O
  destroy : O → Code World Exc Unit
  /-- The world after the destructor of an object that was not moved from. -/
  disposed : O → World → World
  strings : O → List Bytes
  keep : O → Kept
  moved_parameter (o : O) : moved o = false → (move o).1 = o
  moved_left (o : O) : moved (move o).2 = true
  destroy_moved (o : O) (w : World) : moved o = true → (destroy o).run w = (.ret (), w)
  destroy_owner (o : O) (w : World) :
    moved o = false → (destroy o).run w = (.ret (), disposed o w)

/-- The world after `amqp_destroy_envelope`. -/
def World.envelopeDestroyed (ident : Nat) (w : World) : World :=
  { w.tell (.destroyEnvelope ident) with
    freed := fun i => if i = ident then true else w.freed i }

/-- The world after `amqp_destroy_message`. -/
def World.messageDestroyed (ident : Nat) (w : World) : World :=
  { w.tell (.destroyMessage ident) with
    freed := fun i => if i = ident then true else w.freed i }

def Envelope.passed : Passed Envelope where
  moved := AMQPStruct.moved_
  move := AMQPStruct.moveConstruct
  destroy := Envelope.destroy
  disposed e w := w.envelopeDestroyed e.memory_.ident
  strings e := e.memory_.strings
  keep := .envelope
  moved_parameter := by
    rintro ⟨memory, moved⟩ rfl
    rfl
  moved_left _ := rfl
  destroy_moved := by
    rintro ⟨memory, moved⟩ w rfl
    rfl
  destroy_owner := by
    rintro ⟨memory, moved⟩ w rfl
    rfl

def ReturnedMessage.passed : Passed ReturnedMessage where
  moved r := r.message_.moved_
  move := ReturnedMessage.moveConstruct
  destroy := ReturnedMessage.destroy
  disposed r w := w.messageDestroyed r.message_.memory_.ident
  strings := ReturnedMessage.strings
  keep := .returned
  moved_parameter := by
    rintro ⟨⟨memory, moved⟩, method⟩ rfl
    rfl
  moved_left _ := rfl
  destroy_moved := by
    rintro ⟨⟨memory, moved⟩, method⟩ w rfl
    rfl
  destroy_owner := by
    rintro ⟨⟨memory, moved⟩, method⟩ w rfl
    rfl

/-! ## Scripts -/

inductive Script where
  /-- `const T&`: operations, then a return (`none`) or a throw. -/
  | constRef (ops : List Operation) (exit : Option Nat)
  /-- `T`: operations, the move into an object that lives on, more operations. -/
  | byValue (before : List Operation) (keep : Bool) (after : List Operation) (exit : Option Nat)
  /-- A lambda that takes a `T` and passes it on by `std::move`. -/
  | forward (script : Script)

namespace Script

/-- Whether the object is moved into one that lives on. -/
def keeps : Script → Bool
  | constRef _ _ => false
  | byValue _ keep _ _ => keep
  | forward script => script.keeps

/-- The operations before the object is moved, or all. -/
def before : Script → List Operation
  | constRef ops _ => ops
  | byValue before _ _ _ => before
  | forward script => script.before

def after : Script → List Operation
  | constRef _ _ => []
  | byValue _ _ after _ => after
  | forward script => script.after

def exit : Script → Option Nat
  | constRef _ exit | byValue _ _ _ exit => exit
  | forward script => script.exit

end Script

/-- A return, or a throw of something of the callback's own. -/
def exitCode : Option Nat → Code World Exc Unit
  | none => pure ()
  | some tag => throw (.foreign tag)

def exitOutcome : Option Nat → Outcome Exc Unit
  | none => .ret ()
  | some tag => .thrown (.foreign tag)

theorem exitCode_run (exit : Option Nat) (w : World) :
    (exitCode exit).run w = (exitOutcome exit, w) := by
  cases exit <;> rfl

/-- `kept.emplace_back(std::move(v))`, if that is what the callback does. -/
def Passed.keepOn {O : Type} (P : Passed O) (keep : Bool) : Code (O × World) Exc Unit :=
  modify fun (v, w) =>
    if keep then
      let (kept, v) := P.move v
      (v, { w with kept := w.kept ++ [P.keep kept] })
    else (v, w)

/-- The object's life ends here, unless it was moved on. -/
def Passed.noteEnd {O : Type} (P : Passed O) : Code (O × World) Exc Unit :=
  modify fun (v, w) =>
    if P.moved v then (v, w) else (v, w.tell (.lifeEnds (w.intact (P.strings v))))

section Code

variable [Library] {O : Type} (P : Passed O)

/-- One operation, in a `try` that catches everything. -/
def attempt (op : Operation) : Code World Exc Unit :=
  tryCatch (do let _ ← op.code; pure ()) (fun _ => pure ())

def operate : List Operation → Code World Exc Unit
  | [] => pure ()
  | op :: ops => do
      attempt op
      operate ops

/-- The body of a callback that takes the object by value. -/
def byValueBody (before : List Operation) (keep : Bool) (after : List Operation)
    (exit : Option Nat) : Code (O × World) Exc Unit := do
  beside (operate before)
  P.keepOn keep
  beside (operate after)
  P.noteEnd
  beside (exitCode exit)

/-- The body of one that takes it by reference. -/
def constRefBody (ops : List Operation) (exit : Option Nat) (v : O) : Code World Exc Unit := do
  operate ops
  modify fun w => w.tell (.lifeEnds (w.intact (P.strings v)))
  exitCode exit

def Script.code : Script → Code (O × World) Exc Unit
  | constRef ops exit => passByRef (constRefBody P ops exit)
  | byValue before keep after exit =>
      passByValue P.move P.destroy (byValueBody P before keep after exit)
  | forward script => passByValue P.move P.destroy script.code

end Code

/-! ## What is left in the end -/

section Final

variable {O : Type} (P : Passed O) (script : Script) (o : O) (w : World)

/-- The world once the object is kept on, if it is. -/
def Script.moveOn : World :=
  if script.keeps then { w with kept := w.kept ++ [P.keep o] } else w

/-- The end of an object that is not kept on. -/
def Script.endLife : World :=
  if script.keeps then w else P.disposed o (w.tell (.lifeEnds (w.intact (P.strings o))))

variable [Library]

/-- The world after the operations; `none` if one of them ends the program. -/
def runOps : List Operation → World → Option World
  | [], w => some w
  | op :: ops, w => (op.step w).bind (runOps ops)

def Script.final : Option World :=
  (runOps script.before w).bind fun w =>
    (runOps script.after (script.moveOn P o w)).map (script.endLife P o)

end Final

section Operate

variable [Library]

theorem attempt_run (op : Operation) (w : World) :
    match op.step w with
    | some w' => (attempt op).run w = (.ret (), w')
    | none => ((attempt op).run w).1 = .terminate := by
  unfold Operation.step
  match hr : op.code.run w with
  | (.ret a, w') => exact swallow_run (by nofun) hr
  | (.thrown e, w') => exact swallow_run (by nofun) hr
  | (.terminate, w') =>
      show ((attempt op).run w).1 = .terminate
      simp only [attempt, Code.tryCatch, run_bind, hr]

theorem operate_run (ops : List Operation) (w : World) :
    match runOps ops w with
    | some w' => (operate ops).run w = (.ret (), w')
    | none => ((operate ops).run w).1 = .terminate := by
  induction ops generalizing w with
  | nil => rfl
  | cons op ops ih =>
      have hop := attempt_run op w
      show match (op.step w).bind (runOps ops) with
        | some w' => (attempt op >>= fun _ => operate ops).run w = (.ret (), w')
        | none => ((attempt op >>= fun _ => operate ops).run w).1 = .terminate
      cases hs : op.step w with
      | none =>
          rw [hs] at hop
          exact terminate_of_bind hop
      | some w' =>
          rw [hs] at hop
          rw [bind_of_ret hop]
          exact ih w'

end Operate

/-! ## A script in the scope of its object -/

section Scope

variable {O : Type} {P : Passed O} {o : O} {w w₁ w₂ : World}

/-- The object as it is passed on by `std::move`. -/
theorem Passed.move_owner (ho : P.moved o = false) : P.move o = (o, (P.move o).2) :=
  Prod.ext (P.moved_parameter o ho) rfl

/-- A parameter that takes the object over leaves nothing to do for the scope. -/
theorem scope_passByValue (ho : P.moved o = false) (body : Code (O × World) Exc Unit) :
    (withLocal o P.destroy (passByValue P.move P.destroy body)).run w =
      (withLocal o P.destroy body).run w :=
  withLocal_passByValue (P.move_owner ho) fun w => P.destroy_moved _ w (P.moved_left o)

theorem exitOutcome_ne_terminate (exit : Option Nat) : exitOutcome exit ≠ .terminate := by
  cases exit <;> nofun

theorem noteEnd_run_owner (ho : P.moved o = false) :
    P.noteEnd.run (o, w) = (.ret (), (o, w.tell (.lifeEnds (w.intact (P.strings o))))) := by
  simp only [Passed.noteEnd, run_modify, ho]
  rfl

theorem noteEnd_run_moved (ho : P.moved o = true) : P.noteEnd.run (o, w) = (.ret (), (o, w)) := by
  simp only [Passed.noteEnd, run_modify, ho]
  rfl

theorem keepOn_run (ho : P.moved o = false) :
    (P.keepOn true).run (o, w) =
      (.ret (), ((P.move o).2, { w with kept := w.kept ++ [P.keep o] })) := by
  simp only [Passed.keepOn, run_modify, P.moved_parameter o ho]
  rfl

variable [Library]

theorem beside_operate_run {ops : List Operation} (h : runOps ops w = some w₁) :
    (beside (operate ops)).run (o, w) = (.ret (), (o, w₁)) := by
  have hrun := operate_run ops w
  rw [h] at hrun
  rw [beside_run, hrun]

theorem beside_operate_none {ops : List Operation} (h : runOps ops w = none) :
    ((beside (operate ops)).run (o, w)).1 = .terminate := by
  have hrun := operate_run ops w
  rw [h] at hrun
  rw [beside_run]
  exact hrun

theorem byValue_run {before after : List Operation} {keep : Bool} {exit : Option Nat}
    (ho : P.moved o = false) (hbefore : runOps before w = some w₁)
    (hafter : runOps after ((Script.byValue before keep after exit).moveOn P o w₁) = some w₂) :
    (withLocal o P.destroy (byValueBody P before keep after exit)).run w =
      (exitOutcome exit, (Script.byValue before keep after exit).endLife P o w₂) := by
  cases keep with
  | true =>
      have hafter : runOps after { w₁ with kept := w₁.kept ++ [P.keep o] } = some w₂ := hafter
      have hbody : (byValueBody P before true after exit).run (o, w) =
          (exitOutcome exit, ((P.move o).2, w₂)) := by
        rw [byValueBody, bind_of_ret (beside_operate_run hbefore), bind_of_ret (keepOn_run ho),
          bind_of_ret (beside_operate_run hafter),
          bind_of_ret (noteEnd_run_moved (P.moved_left o)), beside_run, exitCode_run]
      exact withLocal_of_idle hbody (P.destroy_moved _ _ (P.moved_left o))
  | false =>
      have hafter : runOps after w₁ = some w₂ := hafter
      have hkeep : (P.keepOn false).run (o, w₁) = (.ret (), (o, w₁)) := rfl
      have hbody : (byValueBody P before false after exit).run (o, w) =
          (exitOutcome exit, (o, w₂.tell (.lifeEnds (w₂.intact (P.strings o))))) := by
        rw [byValueBody, bind_of_ret (beside_operate_run hbefore), bind_of_ret hkeep,
          bind_of_ret (beside_operate_run hafter), bind_of_ret (noteEnd_run_owner ho), beside_run,
          exitCode_run]
      rw [withLocal_of (exitOutcome_ne_terminate exit) hbody, P.destroy_owner _ _ ho,
        Outcome.leave_ret]
      rfl

theorem constRef_run {ops : List Operation} {exit : Option Nat} (ho : P.moved o = false)
    (hops : runOps ops w = some w₁) :
    (withLocal o P.destroy ((Script.constRef ops exit).code P)).run w =
      (exitOutcome exit, (Script.constRef ops exit).endLife P o w₁) := by
  have hrun := operate_run ops w
  rw [hops] at hrun
  have hbody : ((Script.constRef ops exit).code P).run (o, w) =
      (exitOutcome exit, (o, w₁.tell (.lifeEnds (w₁.intact (P.strings o))))) := by
    simp only [Script.code, passByRef, constRefBody]
    rw [bind_of_ret hrun, bind_of_ret (run_modify _ _), exitCode_run]
  rw [withLocal_of (exitOutcome_ne_terminate exit) hbody, P.destroy_owner _ _ ho,
    Outcome.leave_ret]
  rfl

/-- A script whose operations do not end the program, in the scope of the object it is
given. -/
theorem scope_run {script : Script} (ho : P.moved o = false)
    (hfinal : script.final P o w = some w₂) :
    (withLocal o P.destroy (script.code P)).run w = (exitOutcome script.exit, w₂) := by
  induction script with
  | forward script ih =>
      rw [Script.code, scope_passByValue ho]
      exact ih hfinal
  | constRef ops exit =>
      obtain ⟨w₁, hops, hrest⟩ := Option.bind_eq_some_iff.mp hfinal
      cases hrest
      exact constRef_run ho hops
  | byValue before keep after exit =>
      obtain ⟨w₁, hbefore, hrest⟩ := Option.bind_eq_some_iff.mp hfinal
      obtain ⟨w₃, hafter, hend⟩ := Option.map_eq_some_iff.mp hrest
      rw [Script.code, scope_passByValue ho, ← hend]
      exact byValue_run ho hbefore hafter

/-- And one whose operations do. -/
theorem scope_run_none {script : Script} (ho : P.moved o = false)
    (hfinal : script.final P o w = none) :
    ((withLocal o P.destroy (script.code P)).run w).1 = .terminate := by
  induction script with
  | forward script ih =>
      rw [Script.code, scope_passByValue ho]
      exact ih hfinal
  | constRef ops exit =>
      refine withLocal_terminate ?_
      have hops : runOps ops w = none := by
        cases hr : runOps ops w with
        | none => rfl
        | some w₁ =>
            rw [Script.final, show (Script.constRef ops exit).before = ops from rfl, hr] at hfinal
            cases hfinal
      have hrun := operate_run ops w
      rw [hops] at hrun
      exact terminate_of_bind hrun
  | byValue before keep after exit =>
      rw [Script.code, scope_passByValue ho]
      refine withLocal_terminate ?_
      rw [byValueBody]
      cases hr : runOps before w with
      | none => exact terminate_of_bind (beside_operate_none hr)
      | some w₁ =>
          rw [bind_of_ret (beside_operate_run hr)]
          rw [Script.final, show (Script.byValue before keep after exit).before = before from rfl,
            hr, Option.bind_some, Option.map_eq_none_iff] at hfinal
          cases keep with
          | true =>
              rw [bind_of_ret (keepOn_run ho)]
              exact terminate_of_bind (beside_operate_none hfinal)
          | false =>
              have hkeep : (P.keepOn false).run (o, w₁) = (.ret (), (o, w₁)) := rfl
              rw [bind_of_ret hkeep]
              exact terminate_of_bind (beside_operate_none hfinal)

end Scope
end RmqCxx
