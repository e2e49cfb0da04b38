/-
# `RmqCxx.Cpp.Storage` — storage with a life time

Blocks of storage are numbered in the order they come into being.  A block that
died (its owner was destroyed) keeps its number and reads as nothing, so a
pointer is meaningful exactly while its block is alive.

What a piece of code that only creates storage does to the rest is
`Extends s t`: every block of `s` reads in `t` as it did in `s`, the dead ones
as dead.  Pointers computed early therefore stay as good, or as bad, as they
were.
-/
import Mathlib.Tactic.Common

namespace Cpp

/-- The number of a block. -/
abbrev Addr := Nat

/-- Blocks by number; `none` is a block that died. -/
structure Storage (β : Type) where
  blocks : List (Option β)

namespace Storage

variable {β : Type}

/-- Storage before anything was created. -/
def empty : Storage β := ⟨[]⟩

/-- How many blocks there ever were. -/
def size (s : Storage β) : Nat := s.blocks.length

/-- What a pointer finds. -/
def read (s : Storage β) (a : Addr) : Option β := (s.blocks[a]?).join

/-- A new block, and its address. -/
def alloc (s : Storage β) (b : β) : Addr × Storage β := (s.size, ⟨s.blocks ++ [some b]⟩)

/-- The end of a block. -/
def free (s : Storage β) (a : Addr) : Storage β := ⟨s.blocks.set a none⟩

/-- The block holds something else. -/
def write (s : Storage β) (a : Addr) (b : β) : Storage β := ⟨s.blocks.set a (some b)⟩

/-- Every block of `s` reads in `t` as it does in `s`. -/
def Extends (s t : Storage β) : Prop :=
  s.size ≤ t.size ∧ ∀ a, a < s.size → t.read a = s.read a

theorem Extends.refl (s : Storage β) : Extends s s := ⟨Nat.le_refl _, fun _ _ => rfl⟩

theorem Extends.trans {s t u : Storage β} (h₁ : Extends s t) (h₂ : Extends t u) :
    Extends s u :=
  ⟨Nat.le_trans h₁.1 h₂.1,
    fun a ha => (h₂.2 a (Nat.lt_of_lt_of_le ha h₁.1)).trans (h₁.2 a ha)⟩

@[simp] theorem size_alloc (s : Storage β) (b : β) : (s.alloc b).2.size = s.size + 1 := by
  simp [alloc, size]

@[simp] theorem size_free (s : Storage β) (a : Addr) : (s.free a).size = s.size := by
  simp [free, size]

theorem read_alloc (s : Storage β) (b : β) : (s.alloc b).2.read s.size = some b := by
  simp [alloc, read, size]

theorem extends_alloc (s : Storage β) (b : β) : Extends s (s.alloc b).2 := by
  refine ⟨by simp, fun a ha => ?_⟩
  have hlt : a < s.blocks.length := ha
  simp [alloc, read, List.getElem?_append_left hlt]

theorem read_free (s : Storage β) (a : Addr) : (s.free a).read a = none := by
  by_cases h : a < s.blocks.length <;> simp [free, read, h]

theorem read_free_ne (s : Storage β) {a b : Addr} (h : a ≠ b) : (s.free a).read b = s.read b := by
  simp [free, read, List.getElem?_set_ne h]

theorem lt_size_of_read {s : Storage β} {a : Addr} {b : β} (h : s.read a = some b) :
    a < s.size := by
  by_contra hle
  rw [read, List.getElem?_eq_none (Nat.le_of_not_lt hle)] at h
  cases h

theorem read_alloc_of_lt (s : Storage β) (b : β) {a : Addr} (ha : a < s.size) :
    (s.alloc b).2.read a = s.read a :=
  (extends_alloc s b).2 a ha

theorem read_write (s : Storage β) (b : β) {a : Addr} (ha : a < s.size) :
    (s.write a b).read a = some b := by
  have hlt : a < s.blocks.length := ha
  simp [write, read, hlt]

theorem read_write_ne (s : Storage β) (c : β) {a b : Addr} (h : a ≠ b) :
    (s.write a c).read b = s.read b := by
  simp [write, read, List.getElem?_set_ne h]

/-- A block that lives for a moment leaves the rest alone. -/
theorem extends_alloc_free (s : Storage β) (b : β) : Extends s ((s.alloc b).2.free s.size) := by
  refine ⟨by simp, fun a ha => ?_⟩
  rw [read_free_ne _ (Nat.ne_of_gt ha)]
  exact (extends_alloc s b).2 a ha

end Storage
end Cpp
