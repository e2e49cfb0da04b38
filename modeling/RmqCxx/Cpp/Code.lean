/-
# `RmqCxx.Cpp.Code` — code that returns, throws or terminates

A shallow embedding of the control flow of C++ that exceptions bring with them.
A piece of code runs over a state and ends in one of three ways: it returns a
value, it throws, or it ends the program (`std::terminate`).  The constructs
are those the language defines by *when a destructor runs*:

    scopeExit d c        { Guard g{d}; c }        d runs on every exit of c
    withLocal o d c      { T x = o; c }           d runs on x's last value
    constructing d c     T::T() : members { c }   d runs only if c throws
    noexcept_ c          c behind `noexcept`      an escaping exception terminates
    tryCatch c h         try { c } catch(...) { h }
    passByValue m d b    f(std::move(x)),  f(T v) { b }
    passByRef b          f(x),  f(const T& v) { b }
    doWhile b            do { b } while (...)

A destructor that throws replaces the value of a scope that was left normally,
and ends the program when the scope was being left by an exception: that is the
whole of `Outcome.leave`, and both scope constructs are defined by it.

Nothing here mentions a particular program.  The rules at the end are the ones
a proof about code uses: how each construct runs, and how a relation between
the states before and after (`Keeps`) passes through it.
-/
import Mathlib.Order.Defs.Unbundled
import Mathlib.Tactic.Common

namespace Cpp

/-- How a run of code ends. -/
inductive Outcome (ε α : Type) where
  | ret (a : α)
  | thrown (e : ε)
  | terminate
  deriving DecidableEq, Repr

namespace Outcome

variable {ε α β : Type}

/-- The end of a scope: what its code did, then what its destructor did. -/
def leave : Outcome ε α → Outcome ε Unit → Outcome ε α
  | .ret a, .ret _ => .ret a
  | .ret _, .thrown e => .thrown e
  | .thrown e, .ret _ => .thrown e
  -- a second exception during unwinding, or a program already ended
  | _, _ => .terminate

/-- The outcome with its value put through `f`. -/
def map (f : α → β) : Outcome ε α → Outcome ε β
  | .ret a => .ret (f a)
  | .thrown e => .thrown e
  | .terminate => .terminate

/-- The end of code that only checks something, and then returns `a`. -/
def checked (a : α) : Except ε Unit → Outcome ε α
  | .ok () => .ret a
  | .error e => .thrown e

/-- The end of code that returns or throws. -/
def ofExcept : Except ε α → Outcome ε α
  | .ok a => .ret a
  | .error e => .thrown e

/-- The end of code as seen from outside a `noexcept` function. -/
def sealed : Outcome ε α → Outcome ε α
  | .thrown _ => .terminate
  | o => o

@[simp] theorem leave_ret (o : Outcome ε α) : o.leave (.ret ()) = o := by
  cases o <;> rfl

theorem checked_ne_terminate (a : α) (r : Except ε Unit) : checked a r ≠ .terminate := by
  cases r with
  | ok _ =>
      intro h
      cases h
  | error _ =>
      intro h
      cases h

@[simp] theorem ret_leave_checked (a : α) (r : Except ε Unit) :
    (Outcome.ret a).leave (checked () r) = checked a r := by
  cases r <;> rfl

@[simp] theorem map_checked (f : α → β) (a : α) (r : Except ε Unit) :
    (checked a r).map f = checked (f a) r := by
  cases r <;> rfl

theorem sealed_checked_eq_iff {a : α} {r : Except ε Unit} :
    (checked a r).sealed = checked a r ↔ r = .ok () := by
  cases r with
  | ok _ => exact iff_of_true rfl rfl
  | error _ => exact iff_of_false (fun h => nomatch h) (fun h => nomatch h)

theorem map_sealed (f : α → β) (o : Outcome ε α) : o.sealed.map f = (o.map f).sealed := by
  cases o <;> rfl

theorem map_leave (f : α → β) (o : Outcome ε α) (d : Outcome ε Unit) :
    (o.map f).leave d = (o.leave d).map f := by
  cases o <;> cases d <;> rfl

theorem map_ne_terminate {f : α → β} {o : Outcome ε α} (h : o ≠ .terminate) :
    o.map f ≠ .terminate := by
  cases o with
  | ret _ | thrown _ => nofun
  | terminate => exact absurd rfl h

end Outcome

/-- Code over a state `σ` that may throw an `ε` and returns an `α`. -/
structure Code (σ ε α : Type) where
  run : σ → Outcome ε α × σ

namespace Code

variable {σ ε α β O : Type}

instance : Monad (Code σ ε) where
  pure a := ⟨fun s => (.ret a, s)⟩
  bind c k := ⟨fun s =>
    match c.run s with
    | (.ret a, s') => (k a).run s'
    | (.thrown e, s') => (.thrown e, s')
    | (.terminate, s') => (.terminate, s')⟩

/-- `throw e`. -/
def throw (e : ε) : Code σ ε α := ⟨fun s => (.thrown e, s)⟩

/-- The current state. -/
def get : Code σ ε σ := ⟨fun s => (.ret s, s)⟩

/-- A change of the state. -/
def modify (f : σ → σ) : Code σ ε Unit := ⟨fun s => (.ret (), f s)⟩

/-- Code without effects that returns or throws. -/
def ofExcept : Except ε α → Code σ ε α
  | .ok a => pure a
  | .error e => throw e

/-- `c` in a scope that holds a guard whose destructor runs `dtor`. -/
def scopeExit (dtor : Code σ ε Unit) (c : Code σ ε α) : Code σ ε α :=
  ⟨fun s =>
    match c.run s with
    | (.terminate, s') => (.terminate, s')
    | (o, s') => (o.leave (dtor.run s').1, (dtor.run s').2)⟩

/-- `c` in a scope that holds a local object, first `o`; `c` sees it on top of
the state, and its destructor runs on the value it has when the scope is left. -/
def withLocal (o : O) (dtor : O → Code σ ε Unit) (c : Code (O × σ) ε α) : Code σ ε α :=
  ⟨fun s =>
    match c.run (o, s) with
    | (.terminate, (_, s')) => (.terminate, s')
    | (r, (o', s')) => (r.leave ((dtor o').run s').1, ((dtor o').run s').2)⟩

/-- Code that does not touch the local object on top of the state. -/
def beside (c : Code σ ε α) : Code (O × σ) ε α :=
  ⟨fun s => ((c.run s.2).1, (s.1, (c.run s.2).2))⟩

/-- The body of a constructor: if it throws, the members built before it are
destroyed and the exception goes on; otherwise they live on in the object. -/
def constructing (members : Code σ ε Unit) (c : Code σ ε α) : Code σ ε α :=
  ⟨fun s =>
    match c.run s with
    | (.thrown e, s') =>
        ((Outcome.thrown e).leave (members.run s').1, (members.run s').2)
    | r => r⟩

/-- `c` as the body of a function declared `noexcept`. -/
def noexcept_ (c : Code σ ε α) : Code σ ε α :=
  ⟨fun s => ((c.run s).1.sealed, (c.run s).2)⟩

/-- `try { c } catch(...) { h }`; `h` is given the exception it caught. -/
def tryCatch (c : Code σ ε α) (h : ε → Code σ ε α) : Code σ ε α :=
  ⟨fun s =>
    match c.run s with
    | (.thrown e, s') => (h e).run s'
    | r => r⟩

/-- A call that moves the object on top of the state into a by-value parameter, on
which `body` runs and which is destroyed when the call ends. -/
def passByValue (move : O → O × O) (dtor : O → Code σ ε Unit) (body : Code (O × σ) ε α) :
    Code (O × σ) ε α :=
  ⟨fun s =>
    let (parameter, left) := move s.1
    let (r, s') := (withLocal parameter dtor body).run s.2
    (r, (left, s'))⟩

/-- A call that passes the object on top of the state by reference to const. -/
def passByRef (body : O → Code σ ε α) : Code (O × σ) ε α :=
  ⟨fun s => (((body s.1).run s.2).1, (s.1, ((body s.1).run s.2).2))⟩

/-- Code that touches the object on top of the state and not the variable under it. -/
def past {V : Type} (c : Code (O × σ) ε α) : Code (O × V × σ) ε α :=
  ⟨fun s =>
    let (r, (o, s')) := c.run (s.1, s.2.2)
    (r, (o, s.2.1, s'))⟩

/-- A do-while loop: the body is given the loop's variables, and returns whether to go
on and their new values.  `none` if it has not ended after `fuel` turns. -/
def doWhile (body : β → Code σ ε (Bool × β)) : Nat → β → Code σ ε (Option β)
  | 0, _ => pure none
  | fuel + 1, b => do
      let (again, b) ← body b
      if again then doWhile body fuel b else pure (some b)

/-! ## How each construct runs -/

/-- Code is what it does. -/
theorem ext_run {c c' : Code σ ε α} (h : ∀ s, c.run s = c'.run s) : c = c' := by
  obtain ⟨run⟩ := c
  obtain ⟨run'⟩ := c'
  exact congrArg Code.mk (funext h)

@[simp] theorem run_pure (a : α) (s : σ) :
    (pure a : Code σ ε α).run s = (.ret a, s) := rfl

@[simp] theorem run_throw (e : ε) (s : σ) :
    (throw e : Code σ ε α).run s = (.thrown e, s) := rfl

@[simp] theorem run_modify (f : σ → σ) (s : σ) :
    (modify f : Code σ ε Unit).run s = (.ret (), f s) := rfl

@[simp] theorem run_ofExcept (r : Except ε Unit) (s : σ) :
    (ofExcept r : Code σ ε Unit).run s = (.checked () r, s) := by
  cases r <;> rfl

theorem run_bind (c : Code σ ε α) (k : α → Code σ ε β) (s : σ) :
    (c >>= k).run s =
      match c.run s with
      | (.ret a, s') => (k a).run s'
      | (.thrown e, s') => (.thrown e, s')
      | (.terminate, s') => (.terminate, s') := rfl

theorem run_map (f : α → β) (c : Code σ ε α) (s : σ) :
    (f <$> c).run s = ((c.run s).1.map f, (c.run s).2) := by
  show (c >>= fun a => pure (f a)).run s = _
  rw [run_bind]
  match c.run s with
  | (.ret _, _) => rfl
  | (.thrown _, _) => rfl
  | (.terminate, _) => rfl

/-- Code followed by the return of a value. -/
theorem run_then (c : Code σ ε α) (b : β) (s : σ) :
    (do let _ ← c; pure b : Code σ ε β).run s = ((c.run s).1.map (fun _ => b), (c.run s).2) :=
  run_map (fun _ => b) c s

/-- Code whose value is dropped. -/
theorem run_drop (c : Code σ ε α) (s : σ) :
    (do let _ ← c; pure () : Code σ ε Unit).run s =
      ((c.run s).1.map (fun _ => ()), (c.run s).2) :=
  run_map (fun _ => ()) c s

theorem run_noexcept (c : Code σ ε α) (s : σ) :
    (noexcept_ c).run s = ((c.run s).1.sealed, (c.run s).2) := rfl

section Rules

variable {c : Code σ ε α} {k : α → Code σ ε β} {dtor : Code σ ε Unit} {s s' : σ}

theorem bind_of_ret {a : α} (h : c.run s = (.ret a, s')) :
    (c >>= k).run s = (k a).run s' := by
  simp only [run_bind, h]

theorem bind_of_thrown {e : ε} (h : c.run s = (.thrown e, s')) :
    (c >>= k).run s = (.thrown e, s') := by
  simp only [run_bind, h]

theorem bind_of_terminate (h : c.run s = (.terminate, s')) :
    (c >>= k).run s = (.terminate, s') := by
  simp only [run_bind, h]

theorem terminate_of_bind (h : (c.run s).1 = .terminate) : ((c >>= k).run s).1 = .terminate := by
  rw [run_bind]
  match hr : c.run s with
  | (.ret _, _) | (.thrown _, _) =>
      rw [hr] at h
      cases h
  | (.terminate, _) => rfl

/-- A guard on an exit that does not end the program. -/
theorem scopeExit_of {o : Outcome ε α} (ho : o ≠ .terminate) (h : c.run s = (o, s')) :
    (scopeExit dtor c).run s = (o.leave (dtor.run s').1, (dtor.run s').2) := by
  cases o with
  | ret _ | thrown _ => simp only [scopeExit, h]
  | terminate => exact absurd rfl ho

theorem scopeExit_of_ret {a : α} (h : c.run s = (.ret a, s')) :
    (scopeExit dtor c).run s =
      ((Outcome.ret a).leave (dtor.run s').1, (dtor.run s').2) :=
  scopeExit_of (fun hc => nomatch hc) h

theorem scopeExit_of_thrown {e : ε} (h : c.run s = (.thrown e, s')) :
    (scopeExit dtor c).run s =
      ((Outcome.thrown e).leave (dtor.run s').1, (dtor.run s').2) :=
  scopeExit_of (fun hc => nomatch hc) h

/-- A local object on an exit that does not end the program. -/
theorem withLocal_of {o o' : O} {d : O → Code σ ε Unit} {b : Code (O × σ) ε α}
    {r : Outcome ε α} (hr : r ≠ .terminate) (h : b.run (o, s) = (r, (o', s'))) :
    (withLocal o d b).run s = (r.leave ((d o').run s').1, ((d o').run s').2) := by
  cases r with
  | ret _ | thrown _ => simp only [withLocal, h]
  | terminate => exact absurd rfl hr

theorem scopeExit_congr {c' : Code σ ε α} (h : c.run s = c'.run s') :
    (scopeExit dtor c).run s = (scopeExit dtor c').run s' := by
  simp only [scopeExit, h]

/-- What a scope does depends on what its code does. -/
theorem withLocal_congr {o o' : O} {d : O → Code σ ε Unit} {b b' : Code (O × σ) ε α}
    (h : b.run (o, s) = b'.run (o', s')) :
    (withLocal o d b).run s = (withLocal o' d b').run s' := by
  simp only [withLocal, h]

theorem scopeExit_terminate (h : (c.run s).1 = .terminate) :
    ((scopeExit dtor c).run s).1 = .terminate := by
  unfold scopeExit
  match hr : c.run s with
  | (.ret _, _) | (.thrown _, _) =>
      rw [hr] at h
      cases h
  | (.terminate, _) => simp only [hr]

theorem withLocal_terminate {o : O} {d : O → Code σ ε Unit} {b : Code (O × σ) ε α}
    (h : (b.run (o, s)).1 = .terminate) : ((withLocal o d b).run s).1 = .terminate := by
  unfold withLocal
  match hr : b.run (o, s) with
  | (.ret _, _) | (.thrown _, _) =>
      rw [hr] at h
      cases h
  | (.terminate, _) => simp only [hr]

/-- A local object with nothing left to destroy. -/
theorem withLocal_of_idle {o o' : O} {d : O → Code σ ε Unit} {b : Code (O × σ) ε α}
    {r : Outcome ε α} (h : b.run (o, s) = (r, (o', s'))) (hd : (d o').run s' = (.ret (), s')) :
    (withLocal o d b).run s = (r, s') := by
  cases r with
  | ret _ | thrown _ => simp only [withLocal, h, hd, Outcome.leave_ret]
  | terminate => simp only [withLocal, h]

/-- A scope whose code is followed by the return of a value. -/
theorem withLocal_then {o : O} {d : O → Code σ ε Unit} {b : Code (O × σ) ε α} (v : β) :
    (withLocal o d (do let _ ← b; pure v)).run s =
      (((withLocal o d b).run s).1.map (fun _ => v), ((withLocal o d b).run s).2) := by
  have hthen := run_then b v (o, s)
  match hr : b.run (o, s) with
  | (.ret a, (o', s')) =>
      rw [hr] at hthen
      rw [withLocal_of (by nofun) hthen, withLocal_of (by nofun) hr, Outcome.map_leave]
  | (.thrown e, (o', s')) =>
      rw [hr] at hthen
      rw [withLocal_of (by nofun) hthen, withLocal_of (by nofun) hr, Outcome.map_leave]
  | (.terminate, (o', s')) =>
      rw [hr] at hthen
      simp only [withLocal, hthen, hr, Outcome.map]

/-- A scope inside which a variable is left alone. -/
theorem withLocal_past {V : Type} {o : O} {v : V} {d : O → Code σ ε Unit}
    {b : Code (O × σ) ε α} :
    (withLocal o (fun o => beside (d o)) (past b)).run (v, s) =
      (((withLocal o d b).run s).1, (v, ((withLocal o d b).run s).2)) := by
  have hpast : (past b).run (o, v, s) =
      ((b.run (o, s)).1, ((b.run (o, s)).2.1, v, (b.run (o, s)).2.2)) := rfl
  match hr : b.run (o, s) with
  | (.ret a, (o', s')) =>
      rw [hr] at hpast
      rw [withLocal_of (by nofun) hpast, withLocal_of (by nofun) hr]
      rfl
  | (.thrown e, (o', s')) =>
      rw [hr] at hpast
      rw [withLocal_of (by nofun) hpast, withLocal_of (by nofun) hr]
      rfl
  | (.terminate, (o', s')) =>
      rw [hr] at hpast
      simp only [withLocal, hpast, hr]

/-- A by-value parameter that takes the local object over leaves nothing to do for the
scope. -/
theorem withLocal_passByValue {move : O → O × O} {o left : O} {d : O → Code σ ε Unit}
    {b : Code (O × σ) ε α} (hmove : move o = (o, left))
    (hleft : ∀ s, (d left).run s = (.ret (), s)) :
    (withLocal o d (passByValue move d b)).run s = (withLocal o d b).run s := by
  have hrun : (passByValue move d b).run (o, s) =
      (((withLocal o d b).run s).1, (left, ((withLocal o d b).run s).2)) := by
    simp only [passByValue, hmove]
  exact withLocal_of_idle hrun (hleft _)

theorem beside_run {o : O} : (beside c).run (o, s) = ((c.run s).1, (o, (c.run s).2)) := rfl

/-- A guard that does nothing. -/
theorem scopeExit_idle (c : Code σ ε α) : scopeExit (modify id) c = c := by
  refine ext_run fun s => ?_
  match hr : c.run s with
  | (.ret a, s') | (.thrown e, s') => simp only [scopeExit, hr, run_modify, Outcome.leave_ret, id]
  | (.terminate, s') => simp only [scopeExit, hr]

/-- Two scopes around code that does not see the local object. -/
theorem scopeExit_withLocal_beside {o : O} {d : O → Code σ ε Unit} {f g : σ → σ}
    (hd : d o = modify f) :
    (scopeExit (modify g) (withLocal o d (beside c))).run s =
      (scopeExit (modify (fun s => g (f s))) c).run s := by
  have hbeside : (beside c).run (o, s) = ((c.run s).1, (o, (c.run s).2)) := beside_run
  match hr : c.run s with
  | (.ret a, s') | (.thrown e, s') =>
      simp only [scopeExit, withLocal, hbeside, hr, hd, run_modify, Outcome.leave_ret]
  | (.terminate, s') => simp only [scopeExit, withLocal, hbeside, hr]

/-- Scopes whose destructors never throw and do not see a variable: neither the outcome nor
the variable is touched on the way out. -/
theorem withLocal_beside {V : Type} {o : O} {d : O → Code σ ε Unit} {b : Code (O × V × σ) ε α}
    (hd : ∀ o s, ((d o).run s).1 = .ret ()) (v : V) :
    ∃ s', (withLocal o (fun o => beside (d o)) b).run (v, s) =
      ((b.run (o, v, s)).1, ((b.run (o, v, s)).2.2.1, s')) := by
  match hr : b.run (o, v, s) with
  | (.ret a, (o', v', s₁)) =>
      refine ⟨((d o').run s₁).2, ?_⟩
      simp only [withLocal, hr, beside, hd, Outcome.leave_ret]
  | (.thrown e, (o', v', s₁)) =>
      refine ⟨((d o').run s₁).2, ?_⟩
      simp only [withLocal, hr, beside, hd, Outcome.leave_ret]
  | (.terminate, (o', v', s₁)) => exact ⟨s₁, by simp only [withLocal, hr]⟩

theorem scopeExit_beside {V : Type} {b : Code (V × σ) ε α}
    (hd : ∀ s, (dtor.run s).1 = .ret ()) (v : V) :
    ∃ s', (scopeExit (beside dtor) b).run (v, s) =
      ((b.run (v, s)).1, ((b.run (v, s)).2.1, s')) := by
  match hr : b.run (v, s) with
  | (.ret a, (v', s₁)) =>
      refine ⟨(dtor.run s₁).2, ?_⟩
      simp only [scopeExit, hr, beside, hd, Outcome.leave_ret]
  | (.thrown e, (v', s₁)) =>
      refine ⟨(dtor.run s₁).2, ?_⟩
      simp only [scopeExit, hr, beside, hd, Outcome.leave_ret]
  | (.terminate, (v', s₁)) => exact ⟨s₁, by simp only [scopeExit, hr]⟩

theorem constructing_of_ret {a : α} (h : c.run s = (.ret a, s')) :
    (constructing dtor c).run s = (.ret a, s') := by
  simp only [constructing, h]

theorem constructing_of_thrown {e : ε} (h : c.run s = (.thrown e, s')) :
    (constructing dtor c).run s =
      ((Outcome.thrown e).leave (dtor.run s').1, (dtor.run s').2) := by
  simp only [constructing, h]

theorem tryCatch_of_ret {a : α} {g : ε → Code σ ε α} (h : c.run s = (.ret a, s')) :
    (tryCatch c g).run s = (.ret a, s') := by
  simp only [tryCatch, h]

theorem tryCatch_of_thrown {e : ε} {g : ε → Code σ ε α} (h : c.run s = (.thrown e, s')) :
    (tryCatch c g).run s = (g e).run s' := by
  simp only [tryCatch, h]

/-- `try { c; } catch(...) {}`. -/
theorem swallow_run {o : Outcome ε α} (ho : o ≠ .terminate) (h : c.run s = (o, s')) :
    (tryCatch (do let _ ← c; pure ()) (fun _ => pure ())).run s = (.ret (), s') := by
  have hdrop : (do let _ ← c; pure () : Code σ ε Unit).run s = _ := run_drop c s
  rw [h] at hdrop
  cases o with
  | ret a => exact tryCatch_of_ret hdrop
  | thrown e => exact tryCatch_of_thrown hdrop
  | terminate => exact absurd rfl ho

end Rules

/-! ## How loops run -/

section Loops

variable {body : β → Code σ ε (Bool × β)} {fuel : Nat} {b b' : β} {s s' : σ}

theorem doWhile_again (h : (body b).run s = (.ret (true, b'), s')) :
    (doWhile body (fuel + 1) b).run s = (doWhile body fuel b').run s' := by
  rw [doWhile, bind_of_ret h]
  rfl

/-- A turn that the loop ends with, in whichever way. -/
theorem doWhile_last {o : Outcome ε β} (h : (body b).run s = (o.map (fun b => (false, b)), s')) :
    (doWhile body (fuel + 1) b).run s = (o.map some, s') := by
  cases o with
  | ret b' =>
      rw [doWhile, bind_of_ret h]
      rfl
  | thrown e => rw [doWhile, bind_of_thrown h]; rfl
  | terminate => rw [doWhile, bind_of_terminate h]; rfl

/-- A scope with code before it that does not see the local object. -/
theorem withLocal_beside_bind {o : O} {c : Code σ ε α} {k : α → Code (O × σ) ε β} :
    withLocal o (fun _ => pure ()) (beside c >>= k) =
      c >>= fun a => withLocal o (fun _ => pure ()) (k a) := by
  refine ext_run fun s => ?_
  match hr : c.run s with
  | (.ret a, s') =>
      have hbeside : (beside c : Code (O × σ) ε α).run (o, s) = (.ret a, (o, s')) := by
        rw [beside_run, hr]
      rw [bind_of_ret hr]
      exact withLocal_congr (bind_of_ret hbeside)
  | (.thrown e, s') =>
      have hbeside : (beside c : Code (O × σ) ε α).run (o, s) = (.thrown e, (o, s')) := by
        rw [beside_run, hr]
      rw [bind_of_thrown hr]
      exact withLocal_of_idle (bind_of_thrown hbeside) rfl
  | (.terminate, s') =>
      have hbeside : (beside c : Code (O × σ) ε α).run (o, s) = (.terminate, (o, s')) := by
        rw [beside_run, hr]
      rw [bind_of_terminate hr]
      exact withLocal_of_idle (bind_of_terminate hbeside) rfl

/-- A scope whose code is followed by a change of the value. -/
theorem withLocal_map {o : O} {c : Code (O × σ) ε α} (f : α → β) :
    withLocal o (fun _ => pure ()) (f <$> c) = f <$> withLocal o (fun _ => pure ()) c := by
  refine ext_run fun s => ?_
  have hmap := run_map f c (o, s)
  match hr : c.run (o, s) with
  | (.ret _, (_, _)) | (.thrown _, (_, _)) | (.terminate, (_, _)) =>
      rw [hr] at hmap
      rw [run_map, withLocal_of_idle hr rfl]
      exact withLocal_of_idle hmap rfl

/-- A loop in the scope of an object that a turn the loop goes on after leaves as it was: each
turn may as well have an object of its own. -/
theorem withLocal_doWhile {o : O} {body : β → Code (O × σ) ε (Bool × β)}
    (h : ∀ b s b' o' s', (body b).run (o, s) = (.ret (true, b'), (o', s')) → o' = o)
    (fuel : Nat) (b : β) :
    withLocal o (fun _ => pure ()) (doWhile body fuel b) =
      doWhile (fun b => withLocal o (fun _ => pure ()) (body b)) fuel b := by
  refine ext_run fun s => ?_
  induction fuel generalizing b s with
  | zero => rfl
  | succ fuel ih =>
      match hr : (body b).run (o, s) with
      | (.ret (true, b'), (o', s')) =>
          obtain rfl := h _ _ _ _ _ hr
          have hturn := withLocal_of_idle (d := fun _ => pure ()) hr rfl
          rw [doWhile_again hturn, ← ih]
          exact withLocal_congr (doWhile_again hr)
      | (.ret (false, b'), (o', s')) =>
          have hturn := withLocal_of_idle (d := fun _ => pure ()) hr rfl
          rw [doWhile_last (o := .ret b') hturn]
          exact withLocal_of_idle (doWhile_last (o := .ret b') hr) rfl
      | (.thrown e, (o', s')) =>
          have hturn := withLocal_of_idle (d := fun _ => pure ()) hr rfl
          rw [doWhile_last (o := .thrown e) hturn]
          exact withLocal_of_idle (doWhile_last (o := .thrown e) hr) rfl
      | (.terminate, (o', s')) =>
          have hturn := withLocal_of_idle (d := fun _ => pure ()) hr rfl
          rw [doWhile_last (o := .terminate) hturn]
          exact withLocal_of_idle (doWhile_last (o := .terminate) hr) rfl

end Loops

/-! ## Relations that code keeps

`Keeps R c`: whatever way `c` ends, `R` holds between the state before and the
state after.  For a reflexive and transitive relation it is enough to look at
the pieces. -/

/-- Every run of `c` goes from a state to an `R`-related one. -/
def Keeps (R : σ → σ → Prop) (c : Code σ ε α) : Prop := ∀ s, R s (c.run s).2

section Keeps

variable {R : σ → σ → Prop} {c : Code σ ε α}

theorem keeps_map (f : α → β) (hc : Keeps R c) : Keeps R (f <$> c) := by
  intro s
  rw [run_map]
  exact hc s

theorem keeps_noexcept (hc : Keeps R c) : Keeps R (noexcept_ c) := hc

section Refl

variable [Std.Refl R]

theorem keeps_pure (a : α) : Keeps R (pure a : Code σ ε α) := fun s => refl s

theorem keeps_throw (e : ε) : Keeps R (throw e : Code σ ε α) := fun s => refl s

theorem keeps_get : Keeps R (get : Code σ ε σ) := fun s => refl s

theorem keeps_ofExcept (r : Except ε α) : Keeps R (ofExcept r : Code σ ε α) := by
  intro s
  cases r <;> exact refl s

end Refl

variable [IsTrans σ R]

theorem keeps_bind {k : α → Code σ ε β} (hc : Keeps R c) (hk : ∀ a, Keeps R (k a)) :
    Keeps R (c >>= k) := by
  intro s
  have hcs := hc s
  rw [run_bind]
  match hr : c.run s with
  | (.ret a, s') =>
      rw [hr] at hcs
      exact IsTrans.trans _ _ _ hcs (hk a s')
  | (.thrown _, _) | (.terminate, _) =>
      rw [hr] at hcs
      exact hcs

theorem keeps_scopeExit {dtor : Code σ ε Unit} (hd : Keeps R dtor) (hc : Keeps R c) :
    Keeps R (scopeExit dtor c) := by
  intro s
  have hcs := hc s
  unfold scopeExit
  match hr : c.run s with
  | (.ret _, s') | (.thrown _, s') =>
      simp only [hr] at hcs ⊢
      exact IsTrans.trans _ _ _ hcs (hd s')
  | (.terminate, _) =>
      simp only [hr] at hcs ⊢
      exact hcs

theorem keeps_tryCatch {g : ε → Code σ ε α} (hc : Keeps R c) (hg : ∀ e, Keeps R (g e)) :
    Keeps R (tryCatch c g) := by
  intro s
  have hcs := hc s
  unfold tryCatch
  match hr : c.run s with
  | (.thrown e, s') =>
      simp only [hr] at hcs ⊢
      exact IsTrans.trans _ _ _ hcs (hg e s')
  | (.ret _, _) | (.terminate, _) =>
      simp only [hr] at hcs ⊢
      exact hcs

end Keeps

/-! ## Observations

`Leaves f v c s`: whatever way `c` ends when it is run from `s`, the observation
`f` of the state is `v` afterwards.  Code that leaves the observation as it was
(`Keeps (Same f)`) may follow. -/

/-- `s'` looks like `s` to the observation `f`. -/
def Same {τ : Type} (f : σ → τ) (s s' : σ) : Prop := f s' = f s

instance {τ : Type} (f : σ → τ) : Std.Refl (Same f) := ⟨fun _ => rfl⟩

instance {τ : Type} (f : σ → τ) : IsTrans σ (Same f) := ⟨fun _ _ _ h h' => Eq.trans h' h⟩

def Leaves {τ : Type} (f : σ → τ) (v : τ) (c : Code σ ε α) (s : σ) : Prop := f (c.run s).2 = v

section Leaves

variable {τ : Type} {f : σ → τ} {v : τ} {c : Code σ ε α} {s : σ}

theorem Leaves.map (g : α → β) (h : Leaves f v c s) : Leaves f v (g <$> c) s := by
  rw [Leaves, run_map]
  exact h

theorem Leaves.noexcept (h : Leaves f v c s) : Leaves f v (noexcept_ c) s := h

theorem Leaves.bind {k : α → Code σ ε β} (h : Leaves f v c s)
    (hk : ∀ a, Keeps (Same f) (k a)) : Leaves f v (c >>= k) s := by
  unfold Leaves at h ⊢
  rw [run_bind]
  match hr : c.run s with
  | (.ret a, s') =>
      rw [hr] at h
      exact (hk a s').trans h
  | (.thrown _, _) | (.terminate, _) =>
      rw [hr] at h
      exact h

theorem Leaves.drop (h : Leaves f v c s) : Leaves f v (do let _ ← c; pure ()) s :=
  h.bind fun _ => keeps_pure ()

theorem Leaves.tryCatch {g : ε → Code σ ε α} (h : Leaves f v c s)
    (hg : ∀ e, Keeps (Same f) (g e)) : Leaves f v (tryCatch c g) s := by
  unfold Leaves at h ⊢
  unfold Code.tryCatch
  match hr : c.run s with
  | (.thrown e, s') =>
      simp only [hr] at h ⊢
      exact (hg e s').trans h
  | (.ret _, _) | (.terminate, _) =>
      simp only [hr] at h ⊢
      exact h

end Leaves

end Code
end Cpp
