/-
# `RmqCxx.Cpp.Traces` — code that follows a protocol

A protocol is a relation `step : P → E → P → Prop`, its states and what may happen in
them; more than one state may follow, where the other side decides.  `Trace step` is the
paths of that relation.

`view` is what can be observed of the state of the program, a list that grows.  Code
`Leads` from `p` to `R` or `T` if what it adds to the list is always a path from `p`, to
a state with `R` when it returns and to one with `T` when it throws; where it ends the
program, the path may end anywhere.  The rules are those of a triple with two
postconditions.
-/
import RmqCxx.Cpp.Code

namespace Cpp.Code

variable {σ ε α β P E : Type}

/-! ## Paths -/

/-- The events are a path of the protocol. -/
inductive Trace (step : P → E → P → Prop) : P → List E → P → Prop
  | nil (p : P) : Trace step p [] p
  | cons {p q r : P} {e : E} {es : List E} :
      step p e q → Trace step q es r → Trace step p (e :: es) r

section Paths

variable {step : P → E → P → Prop} {p q r : P} {e : E} {es es' : List E}

theorem Trace.single (h : step p e q) : Trace step p [e] q := .cons h (.nil q)

theorem Trace.append (h : Trace step p es q) (h' : Trace step q es' r) :
    Trace step p (es ++ es') r := by
  induction h with
  | nil _ => exact h'
  | cons hstep _ ih => exact .cons hstep (ih h')

theorem Trace.mono {step' : P → E → P → Prop} (h : Trace step p es q)
    (hstep : ∀ p e q, step p e q → step' p e q) : Trace step' p es q := by
  induction h with
  | nil p => exact .nil p
  | cons h _ ih => exact .cons (hstep _ _ _ h) ih

/-- A property of all events the protocol knows. -/
theorem Trace.forall {Q : E → Prop} (h : Trace step p es q) (hQ : ∀ p e q, step p e q → Q e) :
    ∀ e ∈ es, Q e := by
  induction h with
  | nil _ => exact List.forall_mem_nil _
  | cons h _ ih => exact List.forall_mem_cons.mpr ⟨hQ _ _ _ h, ih⟩

/-- Events that are possible in `p` and do not leave it. -/
theorem Trace.of_loops (h : ∀ e ∈ es, step p e p) : Trace step p es p := by
  induction es with
  | nil => exact .nil p
  | cons e es ih =>
      exact .cons (h e List.mem_cons_self) (ih fun e' he => h e' (List.mem_cons_of_mem _ he))

end Paths

/-! ## Code -/

/-- What is required of the state of the protocol, by how the code ends. -/
def Outcome.Allows (R T : P → Prop) : Outcome ε α → P → Prop
  | .ret _, p => R p
  | .thrown _, p => T p
  | .terminate, _ => True

/-- From `s` to `s'` the view grew by a path from `p` to a state with `good`. -/
def Grows (step : P → E → P → Prop) (view : σ → List E) (p : P) (good : P → Prop) (s s' : σ) :
    Prop :=
  ∃ es q, view s' = view s ++ es ∧ Trace step p es q ∧ good q

def Leads (step : P → E → P → Prop) (view : σ → List E) (p : P) (R T : P → Prop)
    (c : Code σ ε α) : Prop :=
  ∀ s, Grows step view p (Outcome.Allows R T (c.run s).1) s (c.run s).2

section Rules

variable {step : P → E → P → Prop} {view : σ → List E} {p q : P} {R M T N : P → Prop}
  {c : Code σ ε α} {s s' : σ}

theorem Grows.refl (h : R p) : Grows step view p R s s :=
  ⟨[], p, (List.append_nil _).symm, .nil p, h⟩

theorem Grows.mono (h : Grows step view p R s s') (hok : ∀ q, R q → M q) :
    Grows step view p M s s' := by
  obtain ⟨es, q, hview, htrace, hq⟩ := h
  exact ⟨es, q, hview, htrace, hok q hq⟩

theorem Grows.trans {s'' : σ} (h : Grows step view p R s s')
    (h' : ∀ q, R q → Grows step view q M s' s'') : Grows step view p M s s'' := by
  obtain ⟨es, q, hview, htrace, hq⟩ := h
  obtain ⟨es', r, hview', htrace', hr⟩ := h' q hq
  exact ⟨es ++ es', r, by rw [hview', hview, List.append_assoc], htrace.append htrace', hr⟩

/-- A protocol that allows more. -/
theorem Grows.mono_step {step' : P → E → P → Prop} (h : Grows step view p R s s')
    (hstep : ∀ p e q, step p e q → step' p e q) : Grows step' view p R s s' := by
  obtain ⟨es, q, hview, htrace, hq⟩ := h
  exact ⟨es, q, hview, htrace.mono hstep, hq⟩

theorem leads_pure (a : α) (h : R p) : Leads step view p R T (pure a : Code σ ε α) :=
  fun _ => .refl h

theorem leads_throw (e : ε) (h : T p) : Leads step view p R T (throw e : Code σ ε α) :=
  fun _ => .refl h

/-- Code that returns, after one step of the protocol. -/
theorem leads_step {v : σ → α} {f : σ → σ} {e : σ → E} (hc : ∀ s, c.run s = (.ret (v s), f s))
    (hview : ∀ s, view (f s) = view s ++ [e s]) (hstep : ∀ s, step p (e s) q) (hq : R q) :
    Leads step view p R T c := by
  intro s
  rw [hc]
  exact ⟨[e s], q, hview s, .single (hstep s), hq⟩

/-- Code that only does what is possible in `p` and does not leave it. -/
theorem leads_of_keeps (h : Keeps (Grows step view p (· = p)) c) (hR : R p) (hT : T p) :
    Leads step view p R T c := by
  intro s
  refine (h s).mono ?_
  rintro _ rfl
  cases (c.run s).1 with
  | ret _ => exact hR
  | thrown _ => exact hT
  | terminate => trivial

theorem leads_bind {k : α → Code σ ε β} (hc : Leads step view p M T c)
    (hk : ∀ a q, M q → Leads step view q R T (k a)) :
    Leads step view p R T (c >>= k) := by
  intro s
  have hcs := hc s
  rw [run_bind]
  match hr : c.run s with
  | (.ret a, s') =>
      rw [hr] at hcs
      exact hcs.trans fun q hq => hk a q hq s'
  | (.thrown _, _) | (.terminate, _) =>
      rw [hr] at hcs
      exact hcs

/-- A scope is left through a destructor that returns. -/
theorem grows_leave {dtor : Code σ ε Unit} {o : Outcome ε α}
    (hd : Leads step view q M (fun _ => False) dtor)
    (ho : ∀ r, M r → Outcome.Allows R T o r) (s : σ) :
    Grows step view q (Outcome.Allows R T (o.leave (dtor.run s).1)) s (dtor.run s).2 := by
  have hds := hd s
  cases hr : (dtor.run s).1 with
  | ret _ =>
      rw [hr] at hds
      rw [Outcome.leave_ret]
      exact hds.mono ho
  | thrown _ =>
      rw [hr] at hds
      obtain ⟨_, _, _, _, hfalse⟩ := hds
      cases hfalse
  | terminate =>
      rw [hr] at hds
      refine hds.mono fun r _ => ?_
      cases o <;> trivial

/-- A constructor whose members have destructors that return. -/
theorem leads_constructing {members : Code σ ε Unit} (hc : Leads step view p R N c)
    (hthrown : ∀ q, N q → Leads step view q T (fun _ => False) members) :
    Leads step view p R T (constructing members c) := by
  intro s
  have hcs := hc s
  match hr : c.run s with
  | (.ret _, _) | (.terminate, _) =>
      rw [hr] at hcs
      simp only [constructing, hr]
      exact hcs
  | (.thrown e, s') =>
      rw [hr] at hcs
      simp only [constructing, hr]
      exact hcs.trans fun q hq => grows_leave (o := .thrown e) (hthrown q hq) (fun _ h => h) s'

end Rules
end Cpp.Code
