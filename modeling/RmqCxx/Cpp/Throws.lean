/-
# `RmqCxx.Cpp.Throws` — the exceptions that leave a piece of code

`c.Throws s e`: run from the state `s`, `c` is left by the exception `e`.  The rules say
where an exception comes from.  They go through the scopes whose destructors do not throw,
which is what destructors should be like: an exception that leaves such a scope left its
code.
-/
import RmqCxx.Cpp.Code

namespace Cpp.Code

variable {σ ε α β O : Type}

/-- From `s`, the code is left by the exception `e`. -/
def Throws (c : Code σ ε α) (s : σ) (e : ε) : Prop := (c.run s).1 = .thrown e

/-- The code is left by the exception `e` from some state. -/
def CanThrow (c : Code σ ε α) (e : ε) : Prop := ∃ s, c.Throws s e

section Throws

variable {c : Code σ ε α} {k : α → Code σ ε β} {s : σ} {e : ε}

theorem not_throws_pure (a : α) : ¬ (pure a : Code σ ε α).Throws s e := by
  intro h
  cases h

theorem throws_throw_iff {e' : ε} : (throw e' : Code σ ε α).Throws s e ↔ e' = e := by
  constructor
  · intro h
    exact Outcome.thrown.inj h
  · rintro rfl
    rfl

/-- What leaves a sequence leaves its first part, or its rest after the first part returned. -/
theorem throws_bind_iff :
    (c >>= k).Throws s e ↔ c.Throws s e ∨ ∃ a s', c.run s = (.ret a, s') ∧ (k a).Throws s' e := by
  unfold Throws
  match hr : c.run s with
  | (.ret a, s') =>
      rw [bind_of_ret hr]
      refine ⟨fun h => Or.inr ⟨a, s', rfl, h⟩, ?_⟩
      rintro (h | ⟨a', s'', h, hk⟩)
      · cases h
      · cases h
        exact hk
  | (.thrown e', s') =>
      rw [bind_of_thrown hr]
      constructor
      · intro h
        cases h
        exact Or.inl rfl
      · rintro (h | ⟨a', s'', h, hk⟩)
        · cases h
          rfl
        · cases h
  | (.terminate, s') =>
      rw [bind_of_terminate hr]
      refine ⟨(fun h => nomatch h), ?_⟩
      rintro (h | ⟨a', s'', h, hk⟩)
      · cases h
      · cases h

theorem throws_map_iff (f : α → β) : (f <$> c).Throws s e ↔ c.Throws s e := by
  rw [Throws, Throws, run_map]
  cases (c.run s).1 with
  | ret a => exact iff_of_false (fun h => nomatch h) (fun h => nomatch h)
  | thrown e' => exact ⟨fun h => by cases h; rfl, fun h => by cases h; rfl⟩
  | terminate => exact iff_of_false (fun h => nomatch h) (fun h => nomatch h)

theorem not_throws_noexcept : ¬ (noexcept_ c).Throws s e := by
  rw [Throws, run_noexcept]
  cases (c.run s).1 <;> intro h <;> cases h

/-- Code that does not see the local object, or not the variable under it. -/
theorem throws_beside_iff {o : O} : (beside c).Throws (o, s) e ↔ c.Throws s e := Iff.rfl

end Throws

/-! ## Scopes -/

section Scopes

variable {c : Code σ ε α} {s : σ} {e : ε} {dtor : Code σ ε Unit}

theorem throws_scopeExit_iff (hd : ∀ s, (dtor.run s).1 = .ret ()) :
    (scopeExit dtor c).Throws s e ↔ c.Throws s e := by
  unfold Throws
  match hr : c.run s with
  | (.ret a, s') => simp [scopeExit_of_ret hr, hd]
  | (.thrown e', s') => simp [scopeExit_of_thrown hr, hd]
  | (.terminate, s') =>
      have hc : (c.run s).1 = .terminate := by rw [hr]
      rw [scopeExit_terminate hc]

theorem throws_withLocal_iff {o : O} {d : O → Code σ ε Unit} {b : Code (O × σ) ε α}
    (hd : ∀ o s, ((d o).run s).1 = .ret ()) :
    (withLocal o d b).Throws s e ↔ b.Throws (o, s) e := by
  unfold Throws
  match hr : b.run (o, s) with
  | (.ret a, (o', s')) => simp [withLocal_of (by nofun) hr, hd]
  | (.thrown e', (o', s')) => simp [withLocal_of (by nofun) hr, hd]
  | (.terminate, (o', s')) =>
      have hb : (b.run (o, s)).1 = .terminate := by rw [hr]
      rw [withLocal_terminate hb]

theorem throws_constructing_iff (hd : ∀ s, (dtor.run s).1 = .ret ()) :
    (constructing dtor c).Throws s e ↔ c.Throws s e := by
  unfold Throws
  match hr : c.run s with
  | (.ret a, s') => rw [constructing_of_ret hr]
  | (.thrown e', s') => simp [constructing_of_thrown hr, hd]
  | (.terminate, s') => simp [constructing, hr]

/-- `try { c } catch(...) { cleanup; throw; }`. -/
theorem throws_rethrow_iff {cleanup : Code σ ε Unit} (hd : ∀ s, (cleanup.run s).1 = .ret ()) :
    (tryCatch c (fun e => do cleanup; throw e)).Throws s e ↔ c.Throws s e := by
  unfold Throws
  match hr : c.run s with
  | (.ret a, s') => rw [tryCatch_of_ret hr]
  | (.thrown e', s') =>
      rw [tryCatch_of_thrown hr]
      have hcleanup : cleanup.run s' = (.ret (), (cleanup.run s').2) := Prod.ext (hd s') rfl
      rw [bind_of_ret hcleanup]
      rfl
  | (.terminate, s') => simp [tryCatch, hr]

theorem throws_passByValue_iff {move : O → O × O} {o : O} {d : O → Code σ ε Unit}
    {b : Code (O × σ) ε α} (hd : ∀ o s, ((d o).run s).1 = .ret ()) :
    (passByValue move d b).Throws (o, s) e ↔ b.Throws ((move o).1, s) e :=
  throws_withLocal_iff hd

end Scopes

/-! ## Loops -/

section Loops

variable {body : β → Code σ ε (Bool × β)}

/-- The loop comes from one turn to another: from the variables and the state at the head of
the one to those at the head of the other. -/
inductive Reaches (body : β → Code σ ε (Bool × β)) : β × σ → β × σ → Prop
  | here (x : β × σ) : Reaches body x x
  | turn {b b' : β} {s s' : σ} {x : β × σ} (h : (body b).run s = (.ret (true, b'), s'))
      (hrest : Reaches body (b', s') x) : Reaches body (b, s) x

/-- What leaves a loop left one of its turns. -/
theorem throws_doWhile {fuel : Nat} {b : β} {s : σ} {e : ε}
    (h : (doWhile body fuel b).Throws s e) :
    ∃ b' s', Reaches body (b, s) (b', s') ∧ (body b').Throws s' e := by
  induction fuel generalizing b s with
  | zero => exact absurd h (not_throws_pure none)
  | succ fuel ih =>
      rw [doWhile] at h
      rcases throws_bind_iff.mp h with hbody | ⟨⟨again, b'⟩, s', hturn, hrest⟩
      · exact ⟨b, s, .here (b, s), hbody⟩
      · cases again with
        | true =>
            obtain ⟨b'', s'', hreaches, hthrown⟩ := ih hrest
            exact ⟨b'', s'', .turn hturn hreaches, hthrown⟩
        | false => exact absurd hrest (not_throws_pure (some b'))

end Loops

end Cpp.Code
