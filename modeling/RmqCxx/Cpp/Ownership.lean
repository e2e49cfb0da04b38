/-
# `RmqCxx.Cpp.Ownership` — who will dispose of a resource, counted

Objects are numbered in the order they are constructed; a destroyed object
leaves `none` in its place.  An object *holds* a resource when its destructor
would dispose of it.  For one resource `r` there are two numbers: the live
objects that hold it (`owners`) and the times it was disposed of already
(`released.count r`).  Their sum is the *weight* of `r`:

    at most 1    never disposed of twice, and never used by two owners
    at least 1   never lost

Constructing an object around a fresh `r` makes its weight 1; an operation on
objects changes it by what the object holds afterwards minus what it held
before (`weight_push`, `weight_set`), and a destructor keeps it
(`weight_destroy`), because what stops being held is released.
-/
import Mathlib.Data.List.Basic
import Mathlib.Tactic.Common

namespace Cpp.Ownership

variable {O R : Type} [DecidableEq R]

/-- 1 if `o` would dispose of `r`, 0 otherwise. -/
def stake (holds : O → Option R) (r : R) (o : O) : Nat := if holds o = some r then 1 else 0

/-- The number of live objects that would dispose of `r`. -/
def owners (holds : O → Option R) (r : R) (cells : List (Option O)) : Nat :=
  cells.countP (fun c => decide (c.bind holds = some r))

variable (holds : O → Option R) (r : R) {cells : List (Option O)}

variable {holds r} in
theorem stake_of_holds {o : O} (h : holds o = some r) : stake holds r o = 1 := if_pos h

variable {holds r} in
theorem stake_of_ne {o : O} (h : holds o ≠ some r) : stake holds r o = 0 := if_neg h

theorem stake_le_one (o : O) : stake holds r o ≤ 1 := by
  unfold stake
  split <;> omega

theorem owners_append (l₁ l₂ : List (Option O)) :
    owners holds r (l₁ ++ l₂) = owners holds r l₁ + owners holds r l₂ :=
  List.countP_append

theorem owners_singleton (o : O) : owners holds r [some o] = stake holds r o := by
  by_cases h : holds o = some r <;> simp [owners, stake, h]

/-- A new object at the end. -/
theorem owners_push (o : O) :
    owners holds r (cells ++ [some o]) = owners holds r cells + stake holds r o := by
  rw [owners_append, owners_singleton]

/-- Replacing what stands at `i`, counted on both sides. -/
theorem owners_set {i : Nat} {c : Option O} (c' : Option O) (hi : cells[i]? = some c) :
    owners holds r (cells.set i c') + owners holds r [c]
      = owners holds r cells + owners holds r [c'] := by
  obtain ⟨hlt, hget⟩ := List.getElem?_eq_some_iff.mp hi
  have hle : owners holds r [c] ≤ owners holds r cells :=
    List.Sublist.countP_le (List.singleton_sublist.mpr (hget ▸ List.getElem_mem hlt))
  have hset : (cells.set i c').countP (fun c => decide (c.bind holds = some r)) = _ :=
    List.countP_set hlt
  rw [hget] at hset
  simp only [owners, List.countP_singleton] at hle ⊢
  omega

/-- An operation that changes the object at `i`. -/
theorem owners_update {i : Nat} {o : O} (o' : O) (hi : cells[i]? = some (some o)) :
    owners holds r (cells.set i (some o')) + stake holds r o
      = owners holds r cells + stake holds r o' := by
  have h := owners_set holds r (some o') hi
  rwa [owners_singleton, owners_singleton] at h

/-- The end of the object at `i`. -/
theorem owners_destroy {i : Nat} {o : O} (hi : cells[i]? = some (some o)) :
    owners holds r (cells.set i none) + stake holds r o = owners holds r cells := by
  have h := owners_set holds r none hi
  rwa [owners_singleton, show owners holds r [(none : Option O)] = 0 from rfl, Nat.add_zero] at h

theorem owners_pos_iff :
    0 < owners holds r cells ↔
      ∃ (i : Nat) (o : O), cells[i]? = some (some o) ∧ holds o = some r := by
  constructor
  · intro h
    obtain ⟨c, hmem, hc⟩ := List.countP_pos_iff.mp h
    obtain ⟨i, hi⟩ := List.mem_iff_getElem?.mp hmem
    cases c with
    | none => simp at hc
    | some o => exact ⟨i, o, hi, by simpa using hc⟩
  · rintro ⟨i, o, hi, ho⟩
    exact List.countP_pos_iff.mpr ⟨some o, List.mem_of_getElem? hi, by simpa using ho⟩

/-- "At most one owner", as a count and as a statement about two owners. -/
theorem owners_le_one_iff :
    owners holds r cells ≤ 1 ↔
      ∀ (i j : Nat) (o o' : O), cells[i]? = some (some o) → holds o = some r →
        cells[j]? = some (some o') → holds o' = some r → i = j := by
  constructor
  · intro h i j o o' hi ho hj ho'
    by_contra hne
    have hdrop := owners_destroy holds r hi
    have hleft : 0 < owners holds r (cells.set i none) :=
      (owners_pos_iff holds r).mpr ⟨j, o', by rwa [List.getElem?_set_ne hne], ho'⟩
    rw [stake_of_holds ho] at hdrop
    omega
  · intro h
    by_contra hgt
    obtain ⟨i, o, hi, ho⟩ := (owners_pos_iff holds r).mp (show 0 < owners holds r cells by omega)
    have hdrop := owners_destroy holds r hi
    rw [stake_of_holds ho] at hdrop
    obtain ⟨j, o', hj, ho'⟩ :=
      (owners_pos_iff holds r).mp (show 0 < owners holds r (cells.set i none) by omega)
    have hne : i ≠ j := by
      rintro rfl
      simp [List.getElem?_set] at hj
    rw [List.getElem?_set_ne hne] at hj
    exact hne (h i j o o' hi ho hj ho')

/-- The objects alive, in the order of construction, and what was disposed of. -/
structure Ledger (O R : Type) where
  cells : List (Option O)
  released : List R

/-- Owners of `r` plus the times it was disposed of. -/
def weight (holds : O → Option R) (r : R) (l : Ledger O R) : Nat :=
  owners holds r l.cells + l.released.count r

theorem weight_push {l : Ledger O R} (o : O) :
    weight holds r { l with cells := l.cells ++ [some o] }
      = weight holds r l + stake holds r o := by
  simp only [weight, owners_push]
  omega

/-- A destructor turns an owner into a release. -/
theorem weight_destroy {l : Ledger O R} {i : Nat} {o : O} (hi : l.cells[i]? = some (some o)) :
    weight holds r ⟨l.cells.set i none, l.released ++ (holds o).toList⟩ = weight holds r l := by
  have h := owners_destroy holds r hi
  have hc : ((holds o).toList).count r = stake holds r o := by
    cases ho : holds o with
    | none => simp [stake, ho]
    | some r' => by_cases hr : r' = r <;> simp [stake, ho, hr]
  simp only [weight, List.count_append, hc]
  omega

/-- Weight at most 1 says what "not released twice" says: one owner at most, no
owner of a released resource, no second release. -/
theorem weight_le_one_iff {l : Ledger O R} :
    weight holds r l ≤ 1 ↔
      owners holds r l.cells ≤ 1 ∧ (r ∈ l.released → owners holds r l.cells = 0) ∧
        l.released.count r ≤ 1 := by
  have hmem : r ∈ l.released ↔ 0 < l.released.count r := List.count_pos_iff.symm
  rw [hmem]
  simp only [weight]
  omega

end Cpp.Ownership
