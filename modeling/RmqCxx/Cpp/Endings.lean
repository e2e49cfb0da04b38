/-
# `RmqCxx.Cpp.Endings` — the ways code can end

Code `ThrowsOnly E` if, whatever the state, it returns or throws an exception with `E`; so
it does not end the program.  `Cpp.Throws` says where an exception comes from; the rules
here go through a whole program at once.

A scope may be left by an exception of its code or of its destructor, but not of both, so
there are two rules for it: one of the two has to return (`Return`).
-/
import RmqCxx.Cpp.Code

namespace Cpp

namespace Outcome

variable {ε α β : Type} {E F : ε → Prop} {o : Outcome ε α} {d : Outcome ε Unit}

/-- An end that is no end of the program. -/
def Within (E : ε → Prop) : Outcome ε α → Prop
  | .ret _ => True
  | .thrown e => E e
  | .terminate => False

theorem Within.mono (h : o.Within E) (hE : ∀ e, E e → F e) : o.Within F := by
  cases o with
  | ret _ => trivial
  | thrown e => exact hE e h
  | terminate => exact h

theorem Within.ne_terminate (h : o.Within E) : o ≠ .terminate := by
  rintro rfl
  exact h

theorem Within.map (f : α → β) (h : o.Within E) : (o.map f).Within E := by
  cases o <;> exact h

/-- A destructor that returns. -/
theorem Within.leave (h : o.Within E) (hd : d.Within fun _ => False) : (o.leave d).Within E := by
  cases d with
  | ret _ =>
      rw [leave_ret]
      exact h
  | thrown _ | terminate => cases hd

/-- Code that returns, in a scope whose destructor may throw. -/
theorem within_leave (h : o.Within fun _ => False) (hd : d.Within E) : (o.leave d).Within E := by
  cases o with
  | ret _ => cases d <;> exact hd
  | thrown _ | terminate => cases h

end Outcome

namespace Code

variable {σ ε α β O V : Type} {E F : ε → Prop}

def ThrowsOnly (E : ε → Prop) (c : Code σ ε α) : Prop := ∀ s, (c.run s).1.Within E

/-- Code that always returns. -/
abbrev Return (c : Code σ ε α) : Prop := ThrowsOnly (fun _ => False) c

section Rules

variable {c : Code σ ε α} {dtor : Code σ ε Unit}

theorem throwsOnly_mono (hc : ThrowsOnly E c) (hE : ∀ e, E e → F e) : ThrowsOnly F c :=
  fun s => (hc s).mono hE

theorem Return.throwsOnly (hc : Return c) : ThrowsOnly E c := throwsOnly_mono hc fun _ => False.elim

theorem throwsOnly_pure (a : α) : ThrowsOnly E (pure a : Code σ ε α) := fun _ => trivial

theorem throwsOnly_throw {e : ε} (h : E e) : ThrowsOnly E (throw e : Code σ ε α) := fun _ => h

theorem throwsOnly_get : ThrowsOnly E (get : Code σ ε σ) := fun _ => trivial

theorem throwsOnly_modify (f : σ → σ) : ThrowsOnly E (modify f : Code σ ε Unit) := fun _ => trivial

theorem throwsOnly_ofExcept {r : Except ε α} (h : ∀ e, r = .error e → E e) :
    ThrowsOnly E (ofExcept r : Code σ ε α) := by
  cases r with
  | ok a => exact throwsOnly_pure a
  | error e => exact throwsOnly_throw (h e rfl)

theorem throwsOnly_ite {p : Prop} [Decidable p] {d : Code σ ε α} (hc : ThrowsOnly E c)
    (hd : ThrowsOnly E d) : ThrowsOnly E (if p then c else d) := by
  split
  · exact hc
  · exact hd

theorem throwsOnly_bind {k : α → Code σ ε β} (hc : ThrowsOnly E c)
    (hk : ∀ a, ThrowsOnly E (k a)) : ThrowsOnly E (c >>= k) := by
  intro s
  have hcs := hc s
  rw [run_bind]
  match hr : c.run s with
  | (.ret a, s') => exact hk a s'
  | (.thrown _, _) | (.terminate, _) =>
      rw [hr] at hcs
      exact hcs

/-- A function that does not throw may be declared `noexcept`. -/
theorem return_noexcept (hc : Return c) : Return (noexcept_ c) := by
  intro s
  have hcs := hc s
  rw [run_noexcept]
  match hr : (c.run s).1 with
  | .ret _ => trivial
  | .thrown _ | .terminate =>
      rw [hr] at hcs
      cases hcs

theorem throwsOnly_tryCatch {g : ε → Code σ ε α} (hc : ThrowsOnly F c)
    (hg : ∀ e, F e → ThrowsOnly E (g e)) : ThrowsOnly E (tryCatch c g) := by
  intro s
  have hcs := hc s
  match hr : c.run s with
  | (.ret _, _) =>
      simp only [tryCatch, hr]
      trivial
  | (.thrown e, s') =>
      rw [hr] at hcs
      simp only [tryCatch, hr]
      exact hg e hcs s'
  | (.terminate, _) =>
      rw [hr] at hcs
      cases hcs

theorem throwsOnly_scopeExit (hd : Return dtor) (hc : ThrowsOnly E c) :
    ThrowsOnly E (scopeExit dtor c) := by
  intro s
  rw [scopeExit_of (hc s).ne_terminate rfl]
  exact (hc s).leave (hd _)

/-- The other rule for a scope: its code returns. -/
theorem throwsOnly_scopeExit_of_return (hc : Return c) (hd : ThrowsOnly E dtor) :
    ThrowsOnly E (scopeExit dtor c) := by
  intro s
  rw [scopeExit_of (hc s).ne_terminate rfl]
  exact Outcome.within_leave (hc s) (hd _)

theorem throwsOnly_constructing {members : Code σ ε Unit} (hm : Return members)
    (hc : ThrowsOnly E c) : ThrowsOnly E (constructing members c) := by
  intro s
  have hcs := hc s
  match hr : c.run s with
  | (.ret _, _) =>
      rw [constructing_of_ret hr]
      trivial
  | (.thrown _, s') =>
      rw [hr] at hcs
      rw [constructing_of_thrown hr]
      exact hcs.leave (hm s')
  | (.terminate, _) =>
      rw [hr] at hcs
      cases hcs

end Rules

/-! ## Objects on top of the state -/

section Objects

theorem throwsOnly_beside {c : Code σ ε α} (hc : ThrowsOnly E c) :
    ThrowsOnly E (beside c : Code (O × σ) ε α) :=
  fun s => hc s.2

theorem throwsOnly_passByRef {b : O → Code σ ε α} (hb : ∀ o, ThrowsOnly E (b o)) :
    ThrowsOnly E (passByRef b) :=
  fun s => hb s.1 s.2

theorem throwsOnly_withLocal {o : O} {d : O → Code σ ε Unit} {b : Code (O × σ) ε α}
    (hd : ∀ o, Return (d o)) (hb : ThrowsOnly E b) : ThrowsOnly E (withLocal o d b) := by
  intro s
  rw [withLocal_of (hb (o, s)).ne_terminate rfl]
  exact (hb (o, s)).leave (hd _ _)

theorem throwsOnly_passByValue {move : O → O × O} {d : O → Code σ ε Unit}
    {b : Code (O × σ) ε α} (hd : ∀ o, Return (d o)) (hb : ThrowsOnly E b) :
    ThrowsOnly E (passByValue move d b) :=
  fun s => throwsOnly_withLocal hd hb s.2

end Objects
end Code
end Cpp
