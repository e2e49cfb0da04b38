/-
# `RmqCxx.Cpp.Vectors` — vectors and the buffers they own

A `std::vector` is a pointer to a buffer, its elements and its capacity; a vector that never
had an element has no buffer.  Copies allocate buffers of their own, or reuse the one of the
target if it is large enough; moves hand the buffer on and leave the source without one; an
assignment to itself that moves is such a move, and leaves nothing.

`Sound` says of any number of vectors over one storage that each holds its elements and that
no two have the same buffer.  Every operation keeps it, whatever else is built on it.
-/
import RmqCxx.Cpp.Ownership
import RmqCxx.Cpp.Storage

namespace Cpp

open Ownership

/-- `std::vector<X>`; `data` is null when there is no buffer. -/
structure Vec (X : Type) where
  data : Option Addr
  elems : List X
  capacity : Nat
  deriving DecidableEq, Repr

namespace Vec

variable {X β : Type} (put : List X → β)

def empty : Vec X := ⟨none, [], 0⟩

/-- A vector of these elements, in a buffer of their number. -/
def make (xs : List X) (s : Storage β) : Vec X × Storage β :=
  match xs with
  | [] => (empty, s)
  | _ :: _ =>
      let (a, s) := s.alloc (put xs)
      (⟨some a, xs, xs.length⟩, s)

/-- The end of the buffer. -/
def freeBuffer (v : Vec X) (s : Storage β) : Storage β :=
  match v.data with
  | none => s
  | some a => s.free a

def writeBuffer (v : Vec X) (xs : List X) (s : Storage β) : Storage β :=
  match v.data with
  | none => s
  | some a => s.write a (put xs)

/-- `vector(const vector& other)`. -/
def copyConstruct (other : Vec X) (s : Storage β) : Vec X × Storage β := make put other.elems s

/-- `vector(vector&& other)`: the new vector, and what is left of `other`. -/
def moveConstruct (other : Vec X) : Vec X × Vec X := (other, empty)

/-- `self = other`. -/
def copyAssign (self other : Vec X) (s : Storage β) : Vec X × Storage β :=
  if other.elems.length ≤ self.capacity then
    ({ self with elems := other.elems }, self.writeBuffer put other.elems s)
  else
    let (v, s) := make put other.elems s
    (v, self.freeBuffer s)

/-- `self = std::move(other)`: the target, what is left of `other`, and the storage. -/
def moveAssign (self other : Vec X) (s : Storage β) : Vec X × Vec X × Storage β :=
  (other, empty, self.freeBuffer s)

/-- `self = std::move(self)`. -/
def selfMoveAssign (self : Vec X) (s : Storage β) : Vec X × Storage β :=
  (empty, self.freeBuffer s)

/-- The vector's elements are in its buffer. -/
structure Holds (v : Vec X) (s : Storage β) : Prop where
  null : v.data = none → v.elems = [] ∧ v.capacity = 0
  buffer (a : Addr) : v.data = some a → s.read a = some (put v.elems)

variable {put} {v : Vec X} {s s' : Storage β}

theorem holds_empty (s : Storage β) : (empty : Vec X).Holds put s :=
  ⟨fun _ => ⟨rfl, rfl⟩, (fun _ h => nomatch h)⟩

theorem Holds.of_read (h : v.Holds put s) (hread : ∀ a, v.data = some a → s'.read a = s.read a) :
    v.Holds put s' :=
  ⟨h.null, fun a ha => (hread a ha).trans (h.buffer a ha)⟩

/-- A new vector holds its elements, in a buffer of its own. -/
theorem make_spec (xs : List X) (s : Storage β) :
    (make put xs s).1.Holds put (make put xs s).2 ∧ (make put xs s).1.elems = xs ∧
      (∀ a, (make put xs s).1.data = some a → s.size ≤ a) ∧
      ∀ a < s.size, (make put xs s).2.read a = s.read a := by
  cases xs with
  | nil => exact ⟨holds_empty s, rfl, (fun _ h => nomatch h), fun _ _ => rfl⟩
  | cons x xs =>
      refine ⟨⟨(fun h => nomatch h), fun a ha => ?_⟩, rfl, fun a ha => ?_, fun a ha => ?_⟩
      · cases ha
        exact s.read_alloc (put (x :: xs))
      · cases ha
        exact Nat.le_refl _
      · exact s.read_alloc_of_lt (put (x :: xs)) ha

theorem read_freeBuffer {a : Addr} (h : v.data ≠ some a) : (v.freeBuffer s).read a = s.read a := by
  unfold freeBuffer
  cases hv : v.data with
  | none => rfl
  | some b =>
      refine s.read_free_ne fun hba => h ?_
      rw [hv, hba]

theorem read_writeBuffer {xs : List X} {a : Addr} (h : v.data ≠ some a) :
    (v.writeBuffer put xs s).read a = s.read a := by
  unfold writeBuffer
  cases hv : v.data with
  | none => rfl
  | some b =>
      refine s.read_write_ne (put xs) fun hba => h ?_
      rw [hv, hba]

theorem writeBuffer_of_data {a : Addr} (h : v.data = some a) (xs : List X) :
    v.writeBuffer put xs s = s.write a (put xs) := by
  rw [writeBuffer, h]

/-- An assignment reuses the buffer of its target, or gives it a new one. -/
theorem copyAssign_spec (hv : v.Holds put s) (other : Vec X) :
    (v.copyAssign put other s).1.elems = other.elems ∧
      (v.copyAssign put other s).1.Holds put (v.copyAssign put other s).2 ∧
      (∀ a, (v.copyAssign put other s).1.data = some a → v.data = some a ∨ s.size ≤ a) ∧
      ∀ a < s.size, v.data ≠ some a → (v.copyAssign put other s).2.read a = s.read a := by
  unfold copyAssign
  split
  · next hfits =>
      refine ⟨rfl, ⟨fun hnull => ?_, fun a ha => ?_⟩, fun a ha => Or.inl ha, fun a _ ha => ?_⟩
      · obtain ⟨-, hcapacity⟩ := hv.null hnull
        refine ⟨List.eq_nil_of_length_eq_zero ?_, hcapacity⟩
        rw [hcapacity] at hfits
        exact Nat.le_zero.mp hfits
      · dsimp only at ha ⊢
        rw [writeBuffer_of_data ha]
        exact s.read_write (put other.elems) (Storage.lt_size_of_read (hv.buffer a ha))
      · exact read_writeBuffer ha
  · obtain ⟨hholds, helems, hfresh, hread⟩ := @make_spec X β put other.elems s
    refine ⟨helems, hholds.of_read fun a ha => ?_, fun a ha => Or.inr (hfresh a ha),
      fun a hlt ha => (read_freeBuffer ha).trans (hread a hlt)⟩
    refine read_freeBuffer fun hva => ?_
    exact absurd (hfresh a ha)
      (Nat.not_le_of_lt (Storage.lt_size_of_read (hv.buffer a hva)))

end Vec

/-! ## Any number of vectors -/

/-- Vectors by number, with `none` for one that was destroyed, and their storage. -/
structure Vectors (X β : Type) where
  cells : List (Option (Vec X))
  storage : Storage β

namespace Vectors

variable {X β : Type} {put : List X → β}

/-- Every vector holds its elements, and no two have the same buffer. -/
structure Sound (put : List X → β) (s : Vectors X β) : Prop where
  holds (i : Nat) (v : Vec X) : s.cells[i]? = some (some v) → v.Holds put s.storage
  single (a : Addr) : owners Vec.data a s.cells ≤ 1

variable {cells : List (Option (Vec X))} {s s' : Storage β} {v v' : Vec X} {i j : Nat}

theorem sound_nil (s : Storage β) : Sound put (⟨[], s⟩ : Vectors X β) :=
  ⟨(fun _ _ h => nomatch h), fun _ => Nat.zero_le 1⟩

/-- A buffer that is not there yet has no owner. -/
theorem Sound.owners_fresh (h : Sound put ⟨cells, s⟩) {a : Addr} (ha : s.size ≤ a) :
    owners Vec.data a cells = 0 := by
  by_contra hne
  obtain ⟨i, v, hi, hv⟩ := (owners_pos_iff Vec.data a).mp (Nat.pos_of_ne_zero hne)
  have hlt := Storage.lt_size_of_read ((h.holds i v hi).buffer a hv)
  exact absurd ha (Nat.not_le_of_lt hlt)

/-- Two vectors do not have the same buffer. -/
theorem Sound.apart (h : Sound put ⟨cells, s⟩) (hi : cells[i]? = some (some v))
    (hj : cells[j]? = some (some v')) (hne : i ≠ j) {a : Addr} (hv : v.data = some a) :
    v'.data ≠ some a := by
  intro hv'
  exact hne ((owners_le_one_iff Vec.data a).mp (h.single a) i j v v' hi hv hj hv')

/-- A new vector: it has a new buffer or none, and the buffers of the others are as they
were. -/
theorem Sound.push (h : Sound put ⟨cells, s⟩) (hv : v.Holds put s')
    (hfresh : ∀ a, v.data = some a → s.size ≤ a) (hread : ∀ a < s.size, s'.read a = s.read a) :
    Sound put ⟨cells ++ [some v], s'⟩ := by
  refine ⟨fun i v' hi => ?_, fun a => ?_⟩
  · rcases List.mem_append.mp (List.mem_of_getElem? hi) with hmem | hmem
    · obtain ⟨k, hk⟩ := List.mem_iff_getElem?.mp hmem
      have hold := h.holds k v' hk
      exact hold.of_read fun a ha => hread a (Storage.lt_size_of_read (hold.buffer a ha))
    · obtain rfl : v' = v := Option.some.inj (List.mem_singleton.mp hmem)
      exact hv
  · show owners Vec.data a (cells ++ [some v]) ≤ 1
    rw [owners_push]
    have hsingle : owners Vec.data a cells ≤ 1 := h.single a
    by_cases ha : v.data = some a
    · rw [h.owners_fresh (hfresh a ha)]
      exact Nat.le_trans (Nat.add_le_add_left (stake_le_one Vec.data a v) 0) (Nat.le_refl 1)
    · rwa [stake_of_ne ha]

/-- A vector changes: it keeps its buffer, or has a new one or none, and the buffers of the
others are as they were. -/
theorem Sound.set (h : Sound put ⟨cells, s⟩) (hi : cells[i]? = some (some v))
    (hv : v'.Holds put s') (hdata : ∀ a, v'.data = some a → v.data = some a ∨ s.size ≤ a)
    (hread : ∀ a < s.size, v.data ≠ some a → s'.read a = s.read a) :
    Sound put ⟨cells.set i (some v'), s'⟩ := by
  refine ⟨fun j u hj => ?_, fun a => ?_⟩
  · by_cases hij : i = j
    · subst hij
      have hlt := (List.getElem?_eq_some_iff.mp hi).1
      have hu : (cells.set i (some v'))[i]? = some (some u) := hj
      rw [List.getElem?_set_self hlt] at hu
      cases hu
      exact hv
    · have hu : (cells.set i (some v'))[j]? = some (some u) := hj
      rw [List.getElem?_set_ne hij] at hu
      have hold := h.holds j u hu
      refine hold.of_read fun a ha => ?_
      exact hread a (Storage.lt_size_of_read (hold.buffer a ha))
        (h.apart hu hi (Ne.symm hij) ha)
  · have hset := owners_update Vec.data a v' hi
    have hsingle : owners Vec.data a cells ≤ 1 := h.single a
    show owners Vec.data a (cells.set i (some v')) ≤ 1
    by_cases ha : v'.data = some a
    · rcases hdata a ha with hsame | hfresh
      · rw [stake_of_holds hsame, stake_of_holds ha] at hset
        omega
      · rw [h.owners_fresh hfresh, stake_of_holds ha] at hset
        omega
    · rw [stake_of_ne ha] at hset
      omega

/-- A vector is destroyed. -/
theorem Sound.destroy (h : Sound put ⟨cells, s⟩) (hi : cells[i]? = some (some v)) :
    Sound put ⟨cells.set i none, v.freeBuffer s⟩ := by
  refine ⟨fun j u hj => ?_, fun a => ?_⟩
  · have hu : (cells.set i none)[j]? = some (some u) := hj
    by_cases hij : i = j
    · subst hij
      rw [List.getElem?_set_self (List.getElem?_eq_some_iff.mp hi).1] at hu
      cases hu
    · rw [List.getElem?_set_ne hij] at hu
      exact (h.holds j u hu).of_read fun a ha =>
        Vec.read_freeBuffer (h.apart hu hi (Ne.symm hij) ha)
  · have hset := owners_destroy Vec.data a hi
    have hsingle : owners Vec.data a cells ≤ 1 := h.single a
    show owners Vec.data a (cells.set i none) ≤ 1
    omega

/-- A vector hands its buffer on to one that has none. -/
theorem Sound.transfer (h : Sound put ⟨cells, s⟩) (hj : cells[j]? = some (some v))
    (hi : cells[i]? = some (some v')) (hne : i ≠ j) (hnull : v'.data = none) :
    Sound put ⟨(cells.set j (some Vec.empty)).set i (some v), s⟩ := by
  have hi' : (cells.set j (some Vec.empty))[i]? = some (some v') := by
    rw [List.getElem?_set_ne (Ne.symm hne), hi]
  refine ⟨fun k u hk => ?_, fun a => ?_⟩
  · have hu : ((cells.set j (some Vec.empty)).set i (some v))[k]? = some (some u) := hk
    by_cases hik : i = k
    · subst hik
      rw [List.getElem?_set_self (List.getElem?_eq_some_iff.mp hi').1] at hu
      cases hu
      exact h.holds j v hj
    · rw [List.getElem?_set_ne hik] at hu
      by_cases hjk : j = k
      · subst hjk
        rw [List.getElem?_set_self (List.getElem?_eq_some_iff.mp hj).1] at hu
        cases hu
        exact Vec.holds_empty s
      · rw [List.getElem?_set_ne hjk] at hu
        exact h.holds k u hu
  · have hleft := owners_update Vec.data a Vec.empty hj
    have hright := owners_update Vec.data a v hi'
    have hsingle : owners Vec.data a cells ≤ 1 := h.single a
    have hempty : stake Vec.data a (Vec.empty : Vec X) = 0 := stake_of_ne (by nofun)
    have hnone : stake Vec.data a v' = 0 := stake_of_ne (by rw [hnull]; nofun)
    show owners Vec.data a ((cells.set j (some Vec.empty)).set i (some v)) ≤ 1
    omega

/-! ## The operations -/

theorem Sound.make (h : Sound put ⟨cells, s⟩) (xs : List X) :
    Sound put ⟨cells ++ [some (Vec.make put xs s).1], (Vec.make put xs s).2⟩ := by
  obtain ⟨hholds, -, hfresh, hread⟩ := @Vec.make_spec X β put xs s
  exact h.push hholds hfresh hread

theorem Sound.moveConstruct (h : Sound put ⟨cells, s⟩) (hi : cells[i]? = some (some v)) :
    Sound put ⟨cells.set i (some Vec.empty) ++ [some v], s⟩ := by
  have hlt := (List.getElem?_eq_some_iff.mp hi).1
  have hpush := h.push (Vec.holds_empty s) (by nofun) (fun _ _ => rfl)
  have hi' : (cells ++ [some Vec.empty])[i]? = some (some v) := by
    rw [List.getElem?_append_left hlt, hi]
  have hlast : (cells ++ [some (Vec.empty : Vec X)])[cells.length]? = some (some Vec.empty) :=
    List.getElem?_concat_length
  have htransfer := hpush.transfer hi' hlast (Nat.ne_of_gt hlt) rfl
  have hcells : ((cells ++ [some Vec.empty]).set i (some Vec.empty)).set cells.length (some v) =
      cells.set i (some Vec.empty) ++ [some v] := by
    rw [List.set_append_left i (some Vec.empty) hlt, List.set_append_right _ _ (by simp)]
    simp
  rwa [hcells] at htransfer

theorem Sound.clear (h : Sound put ⟨cells, s⟩) (hi : cells[i]? = some (some v)) :
    Sound put ⟨cells.set i (some Vec.empty), v.freeBuffer s⟩ :=
  h.set hi (Vec.holds_empty _) (by nofun) fun _ _ ha => Vec.read_freeBuffer ha

theorem Sound.moveAssign (h : Sound put ⟨cells, s⟩) (hi : cells[i]? = some (some v'))
    (hj : cells[j]? = some (some v)) (hne : i ≠ j) :
    Sound put ⟨(cells.set j (some Vec.empty)).set i (some v), v'.freeBuffer s⟩ := by
  have hj' : (cells.set i (some Vec.empty))[j]? = some (some v) := by
    rw [List.getElem?_set_ne hne, hj]
  have hi' : (cells.set i (some (Vec.empty : Vec X)))[i]? = some (some Vec.empty) :=
    List.getElem?_set_self (List.getElem?_eq_some_iff.mp hi).1
  have htransfer := (h.clear hi).transfer hj' hi' hne rfl
  rwa [List.set_comm _ _ hne, List.set_set] at htransfer

theorem Sound.copyAssign (h : Sound put ⟨cells, s⟩) (hi : cells[i]? = some (some v))
    (v' : Vec X) :
    Sound put ⟨cells.set i (some (v.copyAssign put v' s).1), (v.copyAssign put v' s).2⟩ := by
  obtain ⟨-, hholds, hdata, hread⟩ := Vec.copyAssign_spec (h.holds i v hi) v'
  exact h.set hi hholds hdata hread

end Vectors
end Cpp
