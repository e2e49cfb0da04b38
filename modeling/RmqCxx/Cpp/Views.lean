/-
# `RmqCxx.Cpp.Views` — code seen through a view of its state

Two pieces of code over different states can do the same as far as one state is concerned.
`Seen f c c'` says that with `f` to look at the state of `c`, `c` does what `c'` does: it
ends in the same way with the same value, and what is seen of its state is the state of
`c'`.  What the view leaves out may change in any way, but nothing that is seen depends on
it.

There is a rule for each construct.  An object on top of the state is seen as it is
(`under f`), and one that lies beneath others is left out by `Prod.snd`.
-/
import RmqCxx.Cpp.Code

namespace Cpp.Code

variable {σ τ ε α β O P : Type}

def Seen (f : σ → τ) (c : Code σ ε α) (c' : Code τ ε α) : Prop :=
  ∀ s, c'.run (f s) = ((c.run s).1, f (c.run s).2)

/-- The view with an object on top. -/
def under (f : σ → τ) (s : O × σ) : O × τ := (s.1, f s.2)

section Pieces

variable {f : σ → τ} {c : Code σ ε α} {c' : Code τ ε α}

theorem seen_pure (a : α) : Seen f (pure a : Code σ ε α) (pure a) := fun _ => rfl

theorem seen_throw (e : ε) : Seen f (throw e : Code σ ε α) (throw e) := fun _ => rfl

theorem seen_ofExcept (r : Except ε α) : Seen f (ofExcept r : Code σ ε α) (ofExcept r) := by
  cases r with
  | ok a => exact seen_pure a
  | error e => exact seen_throw e

theorem seen_modify {g : σ → σ} {g' : τ → τ} (h : ∀ s, g' (f s) = f (g s)) :
    Seen f (modify g : Code σ ε Unit) (modify g') := by
  intro s
  rw [run_modify, run_modify, h]

theorem seen_bind {k : α → Code σ ε β} {k' : α → Code τ ε β} (hc : Seen f c c')
    (hk : ∀ a, Seen f (k a) (k' a)) : Seen f (c >>= k) (c' >>= k') := by
  intro s
  have hcs := hc s
  match hr : c.run s with
  | (.ret a, s') =>
      rw [hr] at hcs
      rw [bind_of_ret hr, bind_of_ret hcs]
      exact hk a s'
  | (.thrown e, s') =>
      rw [hr] at hcs
      rw [bind_of_thrown hr, bind_of_thrown hcs]
  | (.terminate, s') =>
      rw [hr] at hcs
      rw [bind_of_terminate hr, bind_of_terminate hcs]

/-- What is read of the state may be more than what is seen. -/
theorem seen_get {k : σ → Code σ ε β} {k' : τ → Code τ ε β} (hk : ∀ s, Seen f (k s) (k' (f s))) :
    Seen f (get >>= k) (get >>= k') := by
  intro s
  exact hk s s

theorem seen_ite {p : Prop} [Decidable p] {d : Code σ ε α} {d' : Code τ ε α} (hc : Seen f c c')
    (hd : Seen f d d') : Seen f (if p then c else d) (if p then c' else d') := by
  split
  · exact hc
  · exact hd

theorem seen_scopeExit {dtor : Code σ ε Unit} {dtor' : Code τ ε Unit} (hd : Seen f dtor dtor')
    (hc : Seen f c c') : Seen f (scopeExit dtor c) (scopeExit dtor' c') := by
  intro s
  have hcs := hc s
  match hr : c.run s with
  | (.ret _, s') | (.thrown _, s') =>
      rw [hr] at hcs
      simp only [scopeExit, hr, hcs, hd s']
  | (.terminate, s') =>
      rw [hr] at hcs
      simp only [scopeExit, hr, hcs]

end Pieces

/-! ## Objects on top of the state -/

section Objects

variable {f : σ → τ} {c : Code σ ε α} {c' : Code τ ε α}

theorem seen_beside (hc : Seen f c c') :
    Seen (under f) (beside c : Code (O × σ) ε α) (beside c' : Code (O × τ) ε α) := by
  intro s
  simp only [beside, under, hc s.2]

/-- Code beside an object, of which less is seen. -/
theorem seen_beside_map (g : O → P) (c : Code σ ε α) :
    Seen (fun s : O × σ => (g s.1, s.2)) (beside c) (beside c) := fun _ => rfl

/-- Code beside an object, of which nothing is seen. -/
theorem seen_snd (c : Code σ ε α) : Seen Prod.snd (beside c : Code (O × σ) ε α) c := fun _ => rfl

theorem seen_passByRef {b : O → Code σ ε α} {b' : O → Code τ ε α} (hb : ∀ o, Seen f (b o) (b' o)) :
    Seen (under f) (passByRef b) (passByRef b') := by
  intro s
  simp only [passByRef, under, hb s.1 s.2]

theorem seen_withLocal {o : O} {d : O → Code σ ε Unit} {d' : O → Code τ ε Unit}
    {b : Code (O × σ) ε α} {b' : Code (O × τ) ε α} (hd : ∀ o, Seen f (d o) (d' o))
    (hb : Seen (under f) b b') : Seen f (withLocal o d b) (withLocal o d' b') := by
  intro s
  have hbs : b'.run (o, f s) = _ := hb (o, s)
  match hr : b.run (o, s) with
  | (.ret _, (o', s')) | (.thrown _, (o', s')) =>
      rw [hr] at hbs
      simp only [withLocal, hr, hbs, under, hd o' s']
  | (.terminate, (o', s')) =>
      rw [hr] at hbs
      simp only [withLocal, hr, hbs, under]

theorem seen_passByValue {move : O → O × O} {d : O → Code σ ε Unit} {d' : O → Code τ ε Unit}
    {b : Code (O × σ) ε α} {b' : Code (O × τ) ε α} (hd : ∀ o, Seen f (d o) (d' o))
    (hb : Seen (under f) b b') :
    Seen (under f) (passByValue move d b) (passByValue move d' b') := by
  intro s
  have hscope := seen_withLocal (o := (move s.1).1) hd hb s.2
  simp only [passByValue, under, hscope]

end Objects

/-! ## Loops -/

/-- The induction is on the number of turns. -/
theorem seen_doWhile {f : σ → τ} {body : β → Code σ ε (Bool × β)} {body' : β → Code τ ε (Bool × β)}
    (h : ∀ b, Seen f (body b) (body' b)) (fuel : Nat) (b : β) :
    Seen f (doWhile body fuel b) (doWhile body' fuel b) := by
  induction fuel generalizing b with
  | zero => exact seen_pure none
  | succ fuel ih =>
      refine seen_bind (h b) fun next => ?_
      exact seen_ite (ih next.2) (seen_pure _)

end Cpp.Code
