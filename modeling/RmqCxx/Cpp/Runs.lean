/-
# `RmqCxx.Cpp.Runs` — runs of a partial step function

A system is a function `step : A → S → Option S`; `none` means that the action
is not possible in that state, and a run stops there.  A run is a list of
actions, so a property of a run is a recursion over it:

* `Visits step Q s as`: `Q` holds in every state of the run of `as` from `s`,
  the first and the last included;
* `Along step P s as`: `P a t` holds for every action `a` the run takes, in the
  state `t` it is taken in;
* `Ends step s as`: the state the run stops in;
* `Goes step s as`: it stops after its last action.

`visits_of_step` is the invariant rule, and `visits_iff_along` is the rule with a
condition on the steps that is exactly what one step needs to keep the invariant.
-/
import Mathlib.Tactic.Common

namespace Cpp

variable {A S : Type} (step : A → S → Option S)

/-- `Q` holds in every state the run goes through. -/
def Visits (Q : S → Prop) : S → List A → Prop
  | s, [] => Q s
  | s, a :: as => Q s ∧ ∀ t, step a s = some t → Visits Q t as

/-- `P` holds of every action taken, in the state it is taken in. -/
def Along (P : A → S → Prop) : S → List A → Prop
  | _, [] => True
  | s, a :: as => ∀ t, step a s = some t → P a s ∧ Along P t as

/-- Where the run stops: after its last action, or before the first one that is
not possible. -/
def Ends : S → List A → S
  | s, [] => s
  | s, a :: as =>
      match step a s with
      | some t => Ends t as
      | none => s

/-- Every action of the run is possible. -/
def Goes : S → List A → Prop
  | _, [] => True
  | s, a :: as => ∃ t, step a s = some t ∧ Goes t as

variable {step}

theorem Visits.first {Q : S → Prop} {s : S} {as : List A} (h : Visits step Q s as) : Q s := by
  cases as with
  | nil => exact h
  | cons _ _ => exact h.1

theorem visits_cons {Q : S → Prop} {a : A} {as : List A} {s t : S} (h : step a s = some t)
    (hq : Q s) (hrest : Visits step Q t as) : Visits step Q s (a :: as) := by
  refine ⟨hq, fun t' ht' => ?_⟩
  cases Option.some.inj (h.symm.trans ht')
  exact hrest

theorem along_cons {P : A → S → Prop} {a : A} {as : List A} {s t : S} (h : step a s = some t)
    (hp : P a s) (hrest : Along step P t as) : Along step P s (a :: as) := by
  intro t' ht'
  cases Option.some.inj (h.symm.trans ht')
  exact ⟨hp, hrest⟩

theorem Visits.ends {Q : S → Prop} {as : List A} {s : S} (h : Visits step Q s as) :
    Q (Ends step s as) := by
  induction as generalizing s with
  | nil => exact h
  | cons a as ih =>
      cases hs : step a s with
      | none => simpa only [Ends, hs] using h.1
      | some t => simpa only [Ends, hs] using ih (h.2 t hs)

theorem Visits.mono {Q Q' : S → Prop} (hq : ∀ s, Q s → Q' s) {as : List A} {s : S}
    (h : Visits step Q s as) : Visits step Q' s as := by
  induction as generalizing s with
  | nil => exact hq s h
  | cons a as ih =>
      refine ⟨hq s h.1, ?_⟩
      intro t ht
      exact ih (h.2 t ht)

/-- An invariant that every step keeps. -/
theorem visits_of_step {I : S → Prop} (hstep : ∀ {a s t}, I s → step a s = some t → I t)
    {as : List A} {s : S} (hi : I s) : Visits step I s as := by
  induction as generalizing s with
  | nil => exact hi
  | cons a as ih =>
      refine ⟨hi, ?_⟩
      intro t ht
      exact ih (hstep hi ht)

/-- An invariant that the steps keep that are as they should be. -/
theorem visits_of_along {I : S → Prop} {P : A → S → Prop}
    (hstep : ∀ {a s t}, I s → P a s → step a s = some t → I t) {as : List A} {s : S}
    (h : Along step P s as) (hi : I s) : Visits step I s as := by
  induction as generalizing s with
  | nil => exact hi
  | cons a as ih =>
      refine ⟨hi, ?_⟩
      intro t ht
      exact ih (h t ht).2 (hstep hi (h t ht).1 ht)

/-- A run in which every action that `p` selects goes on and lowers `rank`, as long as that is
not 0, and no action raises it. -/
theorem rank_ends_eq_zero {I : S → Prop} {P : A → Prop} (rank : S → Nat) (p : A → Bool)
    (hstep : ∀ {a s t}, I s → P a → step a s = some t → I t ∧ rank t ≤ rank s)
    (hgoes : ∀ {a s}, I s → P a → (p a = true → 0 < rank s) → ∃ t, step a s = some t)
    (hdrop : ∀ {a s t}, I s → p a = true → step a s = some t → rank t < rank s)
    {as : List A} {s : S} (hi : I s) (has : ∀ a ∈ as, P a) (hcount : rank s ≤ as.countP p) :
    I (Ends step s as) ∧ rank (Ends step s as) = 0 := by
  induction as generalizing s with
  | nil => exact ⟨hi, Nat.le_zero.mp hcount⟩
  | cons a as ih =>
      have ha : P a := has a List.mem_cons_self
      have has' : ∀ a ∈ as, P a := fun a' ha' => has a' (List.mem_cons_of_mem _ ha')
      cases hs : step a s with
      | none =>
          rw [Ends, hs]
          refine ⟨hi, ?_⟩
          by_contra hrank
          obtain ⟨t, ht⟩ := hgoes hi ha fun _ => Nat.pos_of_ne_zero hrank
          rw [hs] at ht
          cases ht
      | some t =>
          rw [Ends, hs]
          obtain ⟨hit, hle⟩ := hstep hi ha hs
          refine ih hit has' ?_
          rw [List.countP_cons] at hcount
          split at hcount
          · rename_i hp
            have := hdrop hi hp hs
            omega
          · omega

/-- The actions that `p` selects, each of which lowers `rank`, are at most as many as the rank of
the state they start in. -/
theorem countP_add_rank_le {I : S → Prop} {P : A → Prop} (rank : S → Nat) (p : A → Bool)
    (hstep : ∀ {a s t}, I s → P a → step a s = some t → I t ∧ rank t ≤ rank s)
    (hdrop : ∀ {a s t}, I s → p a = true → step a s = some t → rank t < rank s)
    {as : List A} {s : S} (hi : I s) (has : ∀ a ∈ as, P a) (hgoes : Goes step s as) :
    I (Ends step s as) ∧ as.countP p + rank (Ends step s as) ≤ rank s := by
  induction as generalizing s with
  | nil => exact ⟨hi, Nat.le_of_eq (Nat.zero_add _)⟩
  | cons a as ih =>
      obtain ⟨t, hs, hgoes'⟩ := hgoes
      obtain ⟨hit, hle⟩ := hstep hi (has a List.mem_cons_self) hs
      obtain ⟨hend, hcount⟩ := ih hit (fun a' ha' => has a' (List.mem_cons_of_mem _ ha')) hgoes'
      rw [Ends, hs, List.countP_cons]
      refine ⟨hend, ?_⟩
      dsimp only
      split
      · next hp =>
          have := hdrop hi hp hs
          omega
      · omega

/-- What a step does between two states that are as they should be. -/
theorem along_of_visits {Q : S → Prop} {P : A → S → Prop}
    (hstep : ∀ {a s t}, Q s → Q t → step a s = some t → P a s) {as : List A} {s : S}
    (h : Visits step Q s as) : Along step P s as := by
  induction as generalizing s with
  | nil => trivial
  | cons a as ih =>
      intro t ht
      exact ⟨hstep h.1 (h.2 t ht).first ht, ih (h.2 t ht)⟩

/-- A property of all actions in all states. -/
theorem along_of_forall {P : A → S → Prop} (hp : ∀ a s, P a s) {as : List A} {s : S} :
    Along step P s as := by
  induction as generalizing s with
  | nil => trivial
  | cons a as ih =>
      intro t _
      exact ⟨hp a s, ih⟩

/-- A property of all actions of the run, whatever the states. -/
theorem along_of_mem {P : A → S → Prop} {as : List A} (hp : ∀ a ∈ as, ∀ s, P a s) {s : S} :
    Along step P s as := by
  induction as generalizing s with
  | nil => trivial
  | cons a as ih =>
      intro t _
      exact ⟨hp a List.mem_cons_self s, ih fun a' ha' => hp a' (List.mem_cons_of_mem _ ha')⟩

/-- Two properties of actions that agree wherever the invariant `I` holds. -/
theorem along_congr {I : S → Prop} {P P' : A → S → Prop}
    (hstep : ∀ {a s t}, I s → step a s = some t → I t)
    (hp : ∀ {a s}, I s → (P a s ↔ P' a s)) {as : List A} {s : S} (hi : I s) :
    Along step P s as ↔ Along step P' s as := by
  induction as generalizing s with
  | nil => exact Iff.rfl
  | cons a as ih =>
      constructor
      · intro h t ht
        exact ⟨(hp hi).mp (h t ht).1, (ih (hstep hi ht)).mp (h t ht).2⟩
      · intro h t ht
        exact ⟨(hp hi).mpr (h t ht).1, (ih (hstep hi ht)).mpr (h t ht).2⟩

theorem visits_and {Q Q' : S → Prop} {as : List A} {s : S} (h : Visits step Q s as)
    (h' : Visits step Q' s as) : Visits step (fun s => Q s ∧ Q' s) s as := by
  induction as generalizing s with
  | nil => exact ⟨h, h'⟩
  | cons a as ih =>
      refine ⟨⟨h.1, h'.1⟩, ?_⟩
      intro t ht
      exact ih (h.2 t ht) (h'.2 t ht)

section Projection

variable {S' : Type} {step' : A → S' → Option S'} (f : S' → S)

/-- A system with more in its state, whose steps are those of `step` on what `f`
keeps, goes through the same states. -/
theorem visits_map (hf : ∀ a s, (step' a s).map f = step a (f s)) {Q : S → Prop} {as : List A}
    {s : S'} : Visits step' (fun s => Q (f s)) s as ↔ Visits step Q (f s) as := by
  induction as generalizing s with
  | nil => exact Iff.rfl
  | cons a as ih =>
      refine and_congr_right fun _ => ⟨?_, ?_⟩
      · intro h t ht
        rw [← hf, Option.map_eq_some_iff] at ht
        obtain ⟨t', ht', rfl⟩ := ht
        exact ih.mp (h t' ht')
      · intro h t' ht'
        exact ih.mpr (h (f t') (by rw [← hf, ht', Option.map_some]))

/-- And it takes the same actions. -/
theorem along_map (hf : ∀ a s, (step' a s).map f = step a (f s)) {P : A → S → Prop} {as : List A}
    {s : S'} : Along step' (fun a s => P a (f s)) s as ↔ Along step P (f s) as := by
  induction as generalizing s with
  | nil => exact Iff.rfl
  | cons a as ih =>
      constructor
      · intro h t ht
        rw [← hf, Option.map_eq_some_iff] at ht
        obtain ⟨t', ht', rfl⟩ := ht
        exact ⟨(h t' ht').1, ih.mp (h t' ht').2⟩
      · intro h t' ht'
        have ht := h (f t') (by rw [← hf, ht', Option.map_some])
        exact ⟨ht.1, ih.mpr ht.2⟩

end Projection

/-- When a step keeps `Q` if and only if it meets `P` (given the invariant `J`
of all runs), `Q` holds everywhere if and only if every step meets `P`. -/
theorem visits_iff_along {J Q : S → Prop} {P : A → S → Prop}
    (hJ : ∀ {a s t}, J s → step a s = some t → J t)
    (hQ : ∀ {a s t}, J s → Q s → step a s = some t → (Q t ↔ P a s)) {as : List A} {s : S}
    (hj : J s) (hq : Q s) : Visits step Q s as ↔ Along step P s as := by
  induction as generalizing s with
  | nil => exact iff_of_true hq trivial
  | cons a as ih =>
      constructor
      · intro h t ht
        have hqt : Q t := (h.2 t ht).first
        exact ⟨(hQ hj hq ht).mp hqt, (ih (hJ hj ht) hqt).mp (h.2 t ht)⟩
      · intro h
        refine ⟨hq, ?_⟩
        intro t ht
        have hqt : Q t := (hQ hj hq ht).mpr (h t ht).1
        exact (ih (hJ hj ht) hqt).mpr (h t ht).2

end Cpp
