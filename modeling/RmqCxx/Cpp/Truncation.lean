/-
# `RmqCxx.Cpp.Truncation` — truncation towards zero, of a number and of its parts

Integer division in C++ truncates towards zero.  `towardsZero` is truncation in any ordered
field, and truncating division of integers is truncation of their quotient
(`towardsZero_div`).

A number that is a sum can be truncated as a whole or in parts.  For two parts that are not
negative it is the same if and only if what is cut off from them is less than one
(`towardsZero_add_iff`).  For parts in whole units and in fractions of a unit,
`remainders_fit_iff` says which quotients never cut off more.
-/
import Mathlib.Algebra.Order.Floor.Ring
import Mathlib.Data.Int.GCD
import Mathlib.Tactic.Ring

namespace Cpp

/-! ## Truncation -/

section Field

variable {R : Type} [Field R] [LinearOrder R] [IsStrictOrderedRing R] [FloorRing R] {x y : R}

/-- The integer part of `x`, without its sign's fraction. -/
def towardsZero (x : R) : ℤ := if 0 ≤ x then ⌊x⌋ else ⌈x⌉

omit [IsStrictOrderedRing R] in
theorem towardsZero_of_nonneg (h : 0 ≤ x) : towardsZero x = ⌊x⌋ := if_pos h

theorem towardsZero_of_nonpos (h : x ≤ 0) : towardsZero x = ⌈x⌉ := by
  rcases eq_or_lt_of_le h with rfl | hlt
  · rw [towardsZero_of_nonneg le_rfl, Int.floor_zero, Int.ceil_zero]
  · exact if_neg (not_le.mpr hlt)

@[simp] theorem towardsZero_neg (x : R) : towardsZero (-x) = -towardsZero x := by
  rcases le_total 0 x with h | h
  · rw [towardsZero_of_nonneg h, towardsZero_of_nonpos (neg_nonpos.mpr h), Int.ceil_neg]
  · rw [towardsZero_of_nonpos h, towardsZero_of_nonneg (neg_nonneg.mpr h), Int.floor_neg]

@[simp] theorem towardsZero_intCast (n : ℤ) : towardsZero (n : R) = n := by
  unfold towardsZero
  split
  · exact Int.floor_intCast n
  · exact Int.ceil_intCast n

omit [IsStrictOrderedRing R] in
theorem towardsZero_nonneg (h : 0 ≤ x) : 0 ≤ towardsZero x := by
  rw [towardsZero_of_nonneg h]
  exact Int.floor_nonneg.mpr h

/-- An integer can be taken out if neither is negative. -/
theorem towardsZero_intCast_add {n : ℤ} (hn : 0 ≤ n) (hx : 0 ≤ x) :
    towardsZero (n + x) = n + towardsZero x := by
  rw [towardsZero_of_nonneg hx, towardsZero_of_nonneg (add_nonneg (Int.cast_nonneg hn) hx),
    Int.floor_intCast_add]

/-- The division of C++. -/
theorem towardsZero_div (a : ℤ) (b : ℕ) : towardsZero ((a : R) / b) = a.tdiv b := by
  have hpos {a : ℤ} (ha : 0 ≤ a) : towardsZero ((a : R) / b) = a.tdiv b := by
    rw [towardsZero_of_nonneg (div_nonneg (Int.cast_nonneg ha) (Nat.cast_nonneg b)),
      Int.floor_div_natCast, Int.floor_intCast, Int.tdiv_eq_ediv_of_nonneg ha]
  rcases Int.le_total 0 a with ha | ha
  · exact hpos ha
  · have hneg := hpos (Int.neg_nonneg_of_nonpos ha)
    rw [Int.cast_neg, neg_div, towardsZero_neg, Int.neg_tdiv] at hneg
    exact neg_inj.mp hneg

/-! ## Whole units and the rest -/

/-- What whole units leave of `x`, truncated to `B`ths of a unit. -/
def restOf (B : ℕ) (x : R) : ℤ := towardsZero ((x - towardsZero x) * B)

@[simp] theorem restOf_neg (B : ℕ) (x : R) : restOf B (-x) = -restOf B x := by
  have hrest : (-x - (towardsZero (-x) : ℤ)) * (B : R) = -((x - towardsZero x) * B) := by
    rw [towardsZero_neg, Int.cast_neg]
    ring
  rw [restOf, hrest, towardsZero_neg, restOf]

theorem restOf_of_nonneg {B : ℕ} (hB : 0 < B) (h : 0 ≤ x) : 0 ≤ restOf B x ∧ restOf B x < B := by
  have hB' : (0 : R) < B := Nat.cast_pos.mpr hB
  have hcut : x - (towardsZero x : ℤ) = Int.fract x := by
    rw [towardsZero_of_nonneg h, Int.fract]
  rw [restOf, hcut]
  have hnonneg := mul_nonneg (Int.fract_nonneg x) hB'.le
  refine ⟨towardsZero_nonneg hnonneg, ?_⟩
  rw [towardsZero_of_nonneg hnonneg, Int.floor_lt, Int.cast_natCast]
  exact mul_lt_of_lt_one_left hB' (Int.fract_lt_one x)

/-- Units and rest are `x` in `B`ths of a unit, with one truncation. -/
theorem units_rest (B : ℕ) (x : R) :
    towardsZero x * B + restOf B x = towardsZero (x * B) := by
  have hpos {x : R} (h : 0 ≤ x) : towardsZero x * B + restOf B x = towardsZero (x * B) := by
    have hsum : x * B = ((towardsZero x * B : ℤ) : R) + (x - towardsZero x) * B := by
      rw [Int.cast_mul, Int.cast_natCast]
      ring
    have hcut : 0 ≤ x - (towardsZero x : ℤ) := by
      rw [towardsZero_of_nonneg h]
      exact Int.fract_nonneg x
    rw [hsum, towardsZero_intCast_add (mul_nonneg (towardsZero_nonneg h) (Int.natCast_nonneg B))
      (mul_nonneg hcut (Nat.cast_nonneg B)), restOf]
  rcases le_total 0 x with h | h
  · exact hpos h
  · have hneg := hpos (neg_nonneg.mpr h)
    rw [towardsZero_neg, restOf_neg, neg_mul, neg_mul, towardsZero_neg, ← neg_add] at hneg
    exact neg_inj.mp hneg

/-! ## A sum -/

/-- Truncating the parts is truncating the whole if what is cut off is less than one. -/
theorem towardsZero_add_iff (hx : 0 ≤ x) (hy : 0 ≤ y) :
    towardsZero x + towardsZero y = towardsZero (x + y) ↔ Int.fract x + Int.fract y < 1 := by
  rw [towardsZero_of_nonneg hx, towardsZero_of_nonneg hy, towardsZero_of_nonneg (add_nonneg hx hy)]
  have hsum : x + y = ((⌊x⌋ + ⌊y⌋ : ℤ) : R) + (Int.fract x + Int.fract y) := by
    rw [Int.cast_add, Int.fract, Int.fract]
    ring
  have hnonneg : 0 ≤ Int.fract x + Int.fract y :=
    add_nonneg (Int.fract_nonneg x) (Int.fract_nonneg y)
  rw [hsum, Int.floor_intCast_add, left_eq_add]
  rw [Int.floor_eq_zero_iff, Set.mem_Ico, and_iff_right hnonneg]

end Field

/-! ## Whole units and fractions of a unit -/

section Remainders

variable {B m n : ℕ}

/-- Multiples of what is small never get past the gap between `B` and the modulus, so they
stay small. -/
theorem multiples_lt (hmod : 2 * B ≤ n) (h : ∀ u, u < B → u * m % n < B) :
    ∀ u, u < B → u * (m % n) < B := by
  intro u
  induction u with
  | zero =>
      intro hu
      rw [Nat.zero_mul]
      exact hu
  | succ u ih =>
      intro hu
      have hprev := ih (Nat.lt_of_succ_lt hu)
      have hone : m % n < B := by
        have h1 := h 1 (by omega)
        rwa [Nat.one_mul] at h1
      have hlt : (u + 1) * (m % n) < n := by
        rw [Nat.succ_mul]
        omega
      have hu' := h (u + 1) hu
      rwa [Nat.mul_mod, Nat.mod_mul_mod, Nat.mod_eq_of_lt hlt] at hu'

/-- For a quotient `m / n` in lowest terms, and fractions of one `B`th: the remainders of
any number of units and of any number of fractions fit together if units are divided or the
fractions leave nothing but themselves. -/
theorem remainders_fit_iff (hB : 2 ≤ B) (hn : 0 < n) (hcoprime : Nat.Coprime m n) :
    (∀ a u, u < B → a * m % n * B + u * m % (B * n) < B * n) ↔ n = 1 ∨ m % (B * n) = 1 := by
  constructor
  · intro h
    rcases Nat.lt_or_ge 1 n with hn1 | hn1
    swap
    · exact .inl (by omega)
    -- units of which as much as possible is left
    obtain ⟨a, -, ha⟩ := Nat.exists_mul_mod_eq_one_of_coprime hcoprime hn1
    have hlast : (n - 1) * a * m % n = n - 1 := by
      rw [Nat.mul_assoc, Nat.mul_comm a m, Nat.mul_mod, ha, Nat.mul_one, Nat.mod_mod]
      exact Nat.mod_eq_of_lt (by omega)
    have hsmall : ∀ u, u < B → u * m % (B * n) < B := by
      intro u hu
      have hsum := h ((n - 1) * a) u hu
      rw [hlast] at hsum
      have hB : B * n = (n - 1) * B + B := by
        rw [Nat.mul_comm, ← Nat.succ_mul]
        congr 1
        omega
      omega
    have hmod : 2 * B ≤ B * n := by
      rw [Nat.mul_comm]
      exact Nat.mul_le_mul_left B hn1
    have hrest := multiples_lt hmod hsmall (B - 1) (by omega)
    have hle : m % (B * n) ≤ 1 := by
      by_contra hgt
      have : (B - 1) * 2 ≤ (B - 1) * (m % (B * n)) := Nat.mul_le_mul_left _ (by omega)
      omega
    refine .inr (Nat.le_antisymm hle (Nat.pos_of_ne_zero fun hzero => ?_))
    have hdvd : n ∣ m := (Nat.dvd_mul_left n B).trans (Nat.dvd_of_mod_eq_zero hzero)
    rw [Nat.Coprime, Nat.gcd_eq_right hdvd] at hcoprime
    omega
  · rintro (rfl | hone) a u hu
    · rw [Nat.mod_one, Nat.zero_mul, Nat.zero_add]
      exact Nat.mod_lt _ (by omega)
    · have hle : B ≤ B * n := Nat.le_mul_of_pos_right B hn
      have hrest : u * m % (B * n) = u := by
        rw [Nat.mul_mod, hone, Nat.mul_one, Nat.mod_mod]
        exact Nat.mod_eq_of_lt (Nat.lt_of_lt_of_le hu hle)
      have hunits : a * m % n * B ≤ (n - 1) * B :=
        Nat.mul_le_mul_right B (Nat.le_pred_of_lt (Nat.mod_lt _ hn))
      have hB : B * n = (n - 1) * B + B := by
        rw [Nat.mul_comm, ← Nat.succ_mul]
        congr 1
        omega
      omega

end Remainders

end Cpp
