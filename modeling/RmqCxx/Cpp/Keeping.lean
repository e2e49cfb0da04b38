/-
# `RmqCxx.Cpp.Keeping` — relations that whole programs keep

`Cpp.Code` has the rules for `Keeps R c` where `c` is a bind, a guard, a `try` or a
`noexcept` function.  Here are those for the constructs that put an object on top of
the state.  With an object on top, what has to be related is what is beneath it
(`Beneath R`); the rules say that every construct with an object goes from `R` to
`Beneath R` and back.

`keeps_bind_of` and `keeps_scopeExit_of` are for two relations at once: what the
first piece of code establishes, the second only has to carry on.
-/
import RmqCxx.Cpp.Code

namespace Cpp.Code

variable {σ ε α β O V : Type}

/-- `R` holds under the objects on top. -/
def Beneath (R : σ → σ → Prop) (s s' : O × σ) : Prop := R s.2 s'.2

instance (R : σ → σ → Prop) [Std.Refl R] : Std.Refl (Beneath (O := O) R) := ⟨fun s => refl s.2⟩

instance (R : σ → σ → Prop) [IsTrans σ R] : IsTrans (O × σ) (Beneath R) :=
  ⟨fun _ _ _ h h' => IsTrans.trans (r := R) _ _ _ h h'⟩

section Pieces

variable {R R' : σ → σ → Prop} {c : Code σ ε α}

theorem keeps_mono (h : ∀ s s', R s s' → R' s s') (hc : Keeps R c) : Keeps R' c := by
  intro s
  exact h _ _ (hc s)

theorem related_of_run {s s' : σ} {o : Outcome ε α} (hc : Keeps R c) (h : c.run s = (o, s')) :
    R s s' := by
  have hcs := hc s
  rwa [h] at hcs

theorem keeps_modify {f : σ → σ} (h : ∀ s, R s (f s)) : Keeps R (modify f : Code σ ε Unit) := h

/-- Code that returns and leaves the state related, whatever it returns. -/
theorem keeps_of_run {v : σ → Outcome ε α} {f : σ → σ} (hc : ∀ s, c.run s = (v s, f s))
    (h : ∀ s, R s (f s)) : Keeps R c := by
  intro s
  rw [hc]
  exact h s

theorem keeps_ite {p : Prop} [Decidable p] {d : Code σ ε α} (hc : Keeps R c) (hd : Keeps R d) :
    Keeps R (if p then c else d) := by
  split
  · exact hc
  · exact hd

theorem keeps_bind_of {k : α → Code σ ε β} (hc : Keeps R c) (hk : ∀ a, Keeps R' (k a))
    (h : ∀ {s t u}, R s t → R' t u → R s u) : Keeps R (c >>= k) := by
  intro s
  have hcs := hc s
  rw [run_bind]
  match hr : c.run s with
  | (.ret a, s') =>
      rw [hr] at hcs
      exact h hcs (hk a s')
  | (.thrown _, _) | (.terminate, _) =>
      rw [hr] at hcs
      exact hcs

theorem keeps_scopeExit_of {dtor : Code σ ε Unit} (hc : Keeps R c) (hd : Keeps R' dtor)
    (h : ∀ {s t u}, R s t → R' t u → R s u) : Keeps R (scopeExit dtor c) := by
  intro s
  have hcs := hc s
  match hr : c.run s with
  | (.ret _, s') | (.thrown _, s') =>
      rw [hr] at hcs
      simp only [scopeExit, hr]
      exact h hcs (hd s')
  | (.terminate, _) =>
      rw [hr] at hcs
      simp only [scopeExit, hr]
      exact hcs

/-- The code is related at this one state. -/
theorem scopeExit_related [IsTrans σ R] {dtor : Code σ ε Unit} {s : σ} (hc : R s (c.run s).2)
    (hd : Keeps R dtor) : R s ((scopeExit dtor c).run s).2 := by
  match hr : c.run s with
  | (.ret _, s') | (.thrown _, s') =>
      rw [hr] at hc
      simp only [scopeExit, hr]
      exact IsTrans.trans _ _ _ hc (hd s')
  | (.terminate, _) =>
      rw [hr] at hc
      simp only [scopeExit, hr]
      exact hc

end Pieces

/-! ## Objects on top of the state -/

section Objects

variable {R : σ → σ → Prop}

theorem keeps_beside {c : Code σ ε α} (hc : Keeps R c) :
    Keeps (Beneath R) (beside c : Code (O × σ) ε α) := by
  intro s
  exact hc s.2

/-- A relation that `R` is enough for while the object is as it was. -/
theorem keeps_beside_of {S : O × σ → O × σ → Prop} {c : Code σ ε α}
    (h : ∀ o s s', R s s' → S (o, s) (o, s')) (hc : Keeps R c) : Keeps S (beside c) := by
  intro s
  exact h s.1 s.2 _ (hc s.2)

theorem keeps_passByRef {b : O → Code σ ε α} (hb : ∀ o, Keeps R (b o)) :
    Keeps (Beneath R) (passByRef b) := by
  intro s
  exact hb s.1 s.2

theorem keeps_past {c : Code (O × σ) ε α} (hc : Keeps (Beneath R) c) :
    Keeps (Beneath (Beneath R)) (past c : Code (O × V × σ) ε α) := by
  intro s
  exact hc (s.1, s.2.2)

variable [IsTrans σ R]

theorem keeps_withLocal {o : O} {d : O → Code σ ε Unit} {b : Code (O × σ) ε α}
    (hd : ∀ o, Keeps R (d o)) (hb : Keeps (Beneath R) b) : Keeps R (withLocal o d b) := by
  intro s
  have hbs := hb (o, s)
  match hr : b.run (o, s) with
  | (.ret _, (o', s')) | (.thrown _, (o', s')) =>
      rw [hr] at hbs
      simp only [withLocal, hr]
      exact IsTrans.trans _ _ _ hbs (hd o' s')
  | (.terminate, (o', s')) =>
      rw [hr] at hbs
      simp only [withLocal, hr]
      exact hbs

theorem keeps_passByValue {move : O → O × O} {d : O → Code σ ε Unit} {b : Code (O × σ) ε α}
    (hd : ∀ o, Keeps R (d o)) (hb : Keeps (Beneath R) b) :
    Keeps (Beneath R) (passByValue move d b) := by
  intro s
  exact keeps_withLocal hd hb s.2

theorem keeps_constructing {members : Code σ ε Unit} {c : Code σ ε α} (hm : Keeps R members)
    (hc : Keeps R c) : Keeps R (constructing members c) := by
  intro s
  have hcs := hc s
  match hr : c.run s with
  | (.thrown _, s') =>
      rw [hr] at hcs
      simp only [constructing, hr]
      exact IsTrans.trans _ _ _ hcs (hm s')
  | (.ret _, _) | (.terminate, _) =>
      rw [hr] at hcs
      simp only [constructing, hr]
      exact hcs

end Objects

/-! ## What is returned -/

/-- What the code returns, and the state then, have `Q`. -/
def Returns (Q : α → σ → Prop) (c : Code σ ε α) : Prop :=
  ∀ s a, (c.run s).1 = .ret a → Q a (c.run s).2

section Returns

variable {Q : α → σ → Prop} {Q' : β → σ → Prop} {c : Code σ ε α}

theorem returns_pure {a : α} (h : ∀ s, Q a s) : Returns Q (pure a : Code σ ε α) := by
  rintro s _ ⟨⟩
  exact h s

theorem returns_bind {k : α → Code σ ε β} (hc : Returns Q c)
    (hk : ∀ a s, Q a s → ∀ b, ((k a).run s).1 = .ret b → Q' b ((k a).run s).2) :
    Returns Q' (c >>= k) := by
  intro s b hb
  have hcs := hc s
  match hr : c.run s with
  | (.ret a, s') =>
      rw [hr] at hcs
      rw [bind_of_ret hr] at hb ⊢
      exact hk a s' (hcs a rfl) b hb
  | (.thrown e, _) =>
      rw [bind_of_thrown hr] at hb
      cases hb
  | (.terminate, _) =>
      rw [bind_of_terminate hr] at hb
      cases hb

theorem returns_then {k : α → Code σ ε β} (hk : ∀ a, Returns Q' (k a)) : Returns Q' (c >>= k) :=
  returns_bind (Q := fun _ _ => True) (fun _ _ _ => trivial) fun a s _ => hk a s

theorem returns_constructing {members : Code σ ε Unit} (hc : Returns Q c) :
    Returns Q (constructing members c) := by
  intro s a ha
  have hcs := hc s
  match hr : c.run s with
  | (.ret b, s') =>
      rw [hr] at hcs
      rw [constructing_of_ret hr] at ha ⊢
      exact hcs a ha
  | (.thrown e, s') =>
      rw [constructing_of_thrown hr] at ha
      cases hd : (members.run s').1 with
      | ret _ | thrown _ | terminate =>
          rw [hd] at ha
          cases ha
  | (.terminate, s') =>
      simp only [constructing, hr] at ha
      cases ha

end Returns

end Cpp.Code
