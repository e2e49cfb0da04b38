/-
# `RmqCxx.TableObjects` — Table objects that are copied, moved and assigned

A `Table` has its entries twice: in the vector `cache_`, which owns them, and in the
`amqp_table_t` `value_`, a count and a pointer into the vector's buffer.  Every constructor
and assignment computes `value_` of the object it makes from the vector it has then.  None
writes to `value_` of the object it takes from, and a vector that was moved from has given
its buffer away: the source goes on pointing to what is now the storage of another table,
and to nothing once that one is destroyed.

`invariant_step` is what holds in every run: vectors hold their entries, in buffers of their
own, and are of a size that an `int` can say.  `inStep_iff` is what one step does to the two
views, and `views_agree_iff` the same for a run.
-/
import RmqCxx.ArgumentTables
import RmqCxx.Cpp.Runs
import RmqCxx.Cpp.Vectors

namespace RmqCxx

open Cpp

theorem toInt_of_lt {n : Nat} (h : n < 2 ^ 31) : toInt n = n := by
  refine Int.bmod_eq_of_le ?_ ?_ <;> omega

/-! ## Table.hpp -/

/-- `amqp_table_t`, with a pointer that may be null. -/
structure ExposedTable where
  num_entries : Int
  entries : Option Addr
  deriving DecidableEq, Repr

/-- `class Table`. -/
structure TableObject where
  cache_ : Vec RawTableEntry
  value_ : ExposedTable
  deriving DecidableEq, Repr

namespace TableObject

/-- `{ static_cast<int>(cache_.size()), cache_.data() }`. -/
def viewOf (cache_ : Vec RawTableEntry) : ExposedTable := ⟨toInt cache_.elems.length, cache_.data⟩

/-- `Table(Args&&... args)`: `sizeof...(args)` is a constant, of which nothing is lost. -/
def make (args : List TableEntry) (m : Memory) : TableObject × Memory :=
  let (cache_, m) := Vec.make Block.entries (args.map TableEntry.toRaw) m
  (⟨cache_, ⟨args.length, cache_.data⟩⟩, m)

/-- `~Table() = default`. -/
def destroy (t : TableObject) (m : Memory) : Memory := t.cache_.freeBuffer m

/-- `Table(const Table& other)`. -/
def copyConstruct (other : TableObject) (m : Memory) : TableObject × Memory :=
  let (cache_, m) := Vec.copyConstruct Block.entries other.cache_ m
  (⟨cache_, viewOf cache_⟩, m)

/-- `Table(Table&& other)`: the new table and what is left of `other`. -/
def moveConstruct (other : TableObject) : TableObject × TableObject :=
  let (cache_, left) := Vec.moveConstruct other.cache_
  (⟨cache_, viewOf cache_⟩, { other with cache_ := left })

/-- `operator=(const Table& other)`. -/
def copyAssign (t other : TableObject) (m : Memory) : TableObject × Memory :=
  let (cache_, m) := Vec.copyAssign Block.entries t.cache_ other.cache_ m
  (⟨cache_, viewOf cache_⟩, m)

/-- `operator=(const Table& other)` with the table itself: the vector stays as it is. -/
def selfCopyAssign (t : TableObject) : TableObject := ⟨t.cache_, viewOf t.cache_⟩

/-- `operator=(Table&& other)`: the target, what is left of `other`, and the storage. -/
def moveAssign (t other : TableObject) (m : Memory) : TableObject × TableObject × Memory :=
  let (cache_, left, m) := Vec.moveAssign t.cache_ other.cache_ m
  (⟨cache_, viewOf cache_⟩, { other with cache_ := left }, m)

/-- `operator=(Table&& other)` with the table itself. -/
def selfMoveAssign (t : TableObject) (m : Memory) : TableObject × Memory :=
  let (cache_, m) := Vec.selfMoveAssign t.cache_ m
  (⟨cache_, viewOf cache_⟩, m)

/-- What a reader of the `amqp_table_t` finds; a null pointer is all right for no entries. -/
def exposed (t : TableObject) (m : Memory) : Option (List RawTableEntry) :=
  match t.value_.entries with
  | some a => readSeq m Block.asEntries t.value_.num_entries.toNat a
  | none => if t.value_.num_entries = 0 then some [] else none

/-- A new table has its arguments' entries. -/
theorem make_elems (args : List TableEntry) (m : Memory) :
    (make args m).1.cache_.elems = args.map TableEntry.toRaw :=
  (Vec.make_spec (args.map TableEntry.toRaw) m).2.1

theorem copyConstruct_elems (other : TableObject) (m : Memory) :
    (other.copyConstruct m).1.cache_.elems = other.cache_.elems :=
  (Vec.make_spec other.cache_.elems m).2.1

theorem make_count (args : List TableEntry) (m : Memory) :
    (make args m).1.value_.num_entries = args.length := rfl

theorem copyConstruct_view (other : TableObject) (m : Memory) :
    (other.copyConstruct m).1.value_ = viewOf (other.copyConstruct m).1.cache_ := rfl

theorem moveConstruct_eq (other : TableObject) :
    other.moveConstruct = (⟨other.cache_, viewOf other.cache_⟩, ⟨Vec.empty, other.value_⟩) := rfl

theorem copyAssign_view (t other : TableObject) (m : Memory) :
    (t.copyAssign other m).1.value_ = viewOf (t.copyAssign other m).1.cache_ := rfl

theorem moveAssign_eq (t other : TableObject) (m : Memory) :
    t.moveAssign other m =
      (⟨other.cache_, viewOf other.cache_⟩, ⟨Vec.empty, other.value_⟩, t.destroy m) := rfl

theorem selfMoveAssign_eq (t : TableObject) (m : Memory) :
    t.selfMoveAssign m = (⟨Vec.empty, viewOf Vec.empty⟩, t.destroy m) := rfl

/-- An `int` can say how many entries there are. -/
def Fits (t : TableObject) : Prop := t.cache_.elems.length < 2 ^ 31

theorem Fits.of_elems {t o : TableObject} (ho : o.Fits) (h : t.cache_.elems = o.cache_.elems) :
    t.Fits := by
  unfold Fits
  rw [h]
  exact ho

theorem fits_empty (value_ : ExposedTable) : Fits ⟨Vec.empty, value_⟩ := Nat.two_pow_pos 31

/-- The two views agree. -/
def ViewsAgree (t : TableObject) : Prop :=
  t.value_.num_entries = t.cache_.elems.length ∧ t.value_.entries = t.cache_.data

end TableObject

/-! ## Any number of tables -/

/-- The tables in the order of their construction, and the storage. -/
structure Tables where
  cells : List (Option TableObject)
  memory : Memory

namespace Tables

inductive Action where
  | construct (args : List TableEntry)
  | copyConstruct (other : Nat)
  | moveConstruct (other : Nat)
  | copyAssign (target other : Nat)
  | moveAssign (target other : Nat)
  | destroy (i : Nat)

def live (s : Tables) (i : Nat) : Option TableObject := (s.cells[i]?).join

/-- One operation; it takes tables that are alive.  A construction from more entries than an
`int` can count does not compile. -/
def step (a : Action) (s : Tables) : Option Tables :=
  match a with
  | .construct args =>
      if args.length < 2 ^ 31 then
        let (t, m) := TableObject.make args s.memory
        some ⟨s.cells ++ [some t], m⟩
      else none
  | .copyConstruct other =>
      match s.live other with
      | some o =>
          let (t, m) := o.copyConstruct s.memory
          some ⟨s.cells ++ [some t], m⟩
      | none => none
  | .moveConstruct other =>
      match s.live other with
      | some o =>
          let (t, left) := o.moveConstruct
          some ⟨s.cells.set other (some left) ++ [some t], s.memory⟩
      | none => none
  | .copyAssign target other =>
      match s.live target, s.live other with
      | some t, some o =>
          if target = other then some ⟨s.cells.set target (some t.selfCopyAssign), s.memory⟩
          else
            let (t, m) := t.copyAssign o s.memory
            some ⟨s.cells.set target (some t), m⟩
      | _, _ => none
  | .moveAssign target other =>
      match s.live target, s.live other with
      | some t, some o =>
          if target = other then
            let (t, m) := t.selfMoveAssign s.memory
            some ⟨s.cells.set target (some t), m⟩
          else
            let (t, left, m) := t.moveAssign o s.memory
            some ⟨(s.cells.set other (some left)).set target (some t), m⟩
      | _, _ => none
  | .destroy i =>
      match s.live i with
      | some t => some ⟨s.cells.set i none, t.destroy s.memory⟩
      | none => none

/-- Before any table was made. -/
def initial (m : Memory) : Tables := ⟨[], m⟩

/-! ## What is claimed of them -/

/-- The two views of every table agree; no two tables expose the same array; and what a table
exposes is there to be read, and is its own entries. -/
structure InStep (s : Tables) : Prop where
  agree (i : Nat) (t : TableObject) : s.live i = some t → t.ViewsAgree
  apart (i j : Nat) (t u : TableObject) (a : Addr) : s.live i = some t → s.live j = some u →
    i ≠ j → t.value_.entries = some a → u.value_.entries ≠ some a
  readable (i : Nat) (t : TableObject) : s.live i = some t →
    t.exposed s.memory = some t.cache_.elems

/-- The table at `i` after the step exposes what the one at `other` exposed before it. -/
def ExposesSame (s s' : Tables) (other i : Nat) : Prop :=
  ∃ o t, s.live other = some o ∧ s'.live i = some t ∧ t.exposed s'.memory = o.exposed s.memory

/-- A copy exposes the entries of its source. -/
def CopiesEntries (a : Action) (s : Tables) : Prop :=
  ∀ s', step a s = some s' →
    match a with
    | .copyConstruct other => ExposesSame s s' other s.cells.length
    | .copyAssign target other => ExposesSame s s' other target
    | _ => True

/-- No table that has a buffer is moved into another one. -/
def BuffersStay (a : Action) (s : Tables) : Prop :=
  match a with
  | .moveConstruct other => ∀ o, s.live other = some o → o.cache_.data = none
  | .moveAssign target other =>
      target ≠ other → ∀ o, s.live other = some o → o.cache_.data = none
  | _ => True

/-! ## What holds in every run -/

/-- The vectors of the tables. -/
def vectors (s : Tables) : Vectors RawTableEntry Block :=
  ⟨s.cells.map (Option.map TableObject.cache_), s.memory⟩

/-- A property of all tables that are alive. -/
def Each (P : TableObject → Prop) (cells : List (Option TableObject)) : Prop :=
  ∀ t, some t ∈ cells → P t

/-- The vectors hold their entries, and an `int` can say how many. -/
structure WellFormed (s : Tables) : Prop where
  sound : Vectors.Sound Block.entries s.vectors
  fits : Each TableObject.Fits s.cells

section Cells

variable {P : TableObject → Prop} {cells : List (Option TableObject)} {t o : TableObject} {i : Nat}

theorem live_iff {s : Tables} : s.live i = some t ↔ s.cells[i]? = some (some t) :=
  Option.join_eq_some_iff

theorem forall_live_iff {s : Tables} {Q : TableObject → Prop} (hi : s.cells[i]? = some (some t)) :
    (∀ u, s.live i = some u → Q u) ↔ Q t := by
  refine ⟨fun hall => hall t (live_iff.mpr hi), fun ht u hu => ?_⟩
  obtain rfl : t = u := by simpa using hi.symm.trans (live_iff.mp hu)
  exact ht

theorem each_push_iff : Each P (cells ++ [some t]) ↔ Each P cells ∧ P t := by
  constructor
  · intro hall
    exact ⟨fun u hu => hall u (List.mem_append_left _ hu), hall t List.mem_concat_self⟩
  · rintro ⟨h, ht⟩ u hu
    rcases List.mem_append.mp hu with hmem | hmem
    · exact h u hmem
    · obtain rfl : u = t := Option.some.inj (List.mem_singleton.mp hmem)
      exact ht

theorem each_push (h : Each P cells) : Each P (cells ++ [some t]) ↔ P t :=
  each_push_iff.trans (and_iff_right h)

theorem each_set (h : Each P cells) (hi : cells[i]? = some (some o)) :
    Each P (cells.set i (some t)) ↔ P t := by
  refine ⟨fun hall => hall t (List.mem_set (List.getElem?_eq_some_iff.mp hi).1 _), ?_⟩
  intro ht u hu
  rcases List.mem_or_eq_of_mem_set hu with hmem | heq
  · exact h u hmem
  · obtain rfl : u = t := Option.some.inj heq
    exact ht

/-- A move changes two tables. -/
theorem each_set_set {j : Nat} {left : TableObject} (h : Each P cells)
    (hi : cells[i]? = some (some t)) (hj : cells[j]? = some (some o)) (hne : i ≠ j)
    (t' : TableObject) :
    Each P ((cells.set j (some left)).set i (some t')) ↔ P left ∧ P t' := by
  have hi' : (cells.set j (some left))[i]? = some (some t) :=
    (List.getElem?_set_ne (Ne.symm hne)).trans hi
  constructor
  · intro hall
    have hleft : ((cells.set j (some left)).set i (some t'))[j]? = some (some left) := by
      rw [List.getElem?_set_ne hne]
      exact List.getElem?_set_self (List.getElem?_eq_some_iff.mp hj).1
    exact ⟨hall left (List.mem_of_getElem? hleft),
      hall t' (List.mem_set (List.getElem?_eq_some_iff.mp hi').1 _)⟩
  · rintro ⟨hleft, ht⟩
    exact (each_set ((each_set h hj).mpr hleft) hi').mpr ht

theorem each_destroy (h : Each P cells) : Each P (cells.set i none) := by
  intro u hu
  rcases List.mem_or_eq_of_mem_set hu with hmem | heq
  · exact h u hmem
  · cases heq

theorem vector_of_cell (hi : cells[i]? = some (some t)) :
    (cells.map (Option.map TableObject.cache_))[i]? = some (some t.cache_) := by
  rw [List.getElem?_map, hi]
  rfl

end Cells

/-- What a step does, branch by branch. -/
inductive Does (s : Tables) : Action → Tables → Prop where
  | construct {args : List TableEntry} (hargs : args.length < 2 ^ 31) :
      Does s (.construct args)
        ⟨s.cells ++ [some (TableObject.make args s.memory).1],
          (TableObject.make args s.memory).2⟩
  | copyConstruct {other : Nat} {o : TableObject} (ho : s.cells[other]? = some (some o)) :
      Does s (.copyConstruct other)
        ⟨s.cells ++ [some (o.copyConstruct s.memory).1], (o.copyConstruct s.memory).2⟩
  | moveConstruct {other : Nat} {o : TableObject} (ho : s.cells[other]? = some (some o)) :
      Does s (.moveConstruct other)
        ⟨s.cells.set other (some ⟨Vec.empty, o.value_⟩) ++
          [some ⟨o.cache_, TableObject.viewOf o.cache_⟩], s.memory⟩
  | copyAssign {target other : Nat} {t o : TableObject}
      (ht : s.cells[target]? = some (some t)) (ho : s.cells[other]? = some (some o))
      (hne : target ≠ other) :
      Does s (.copyAssign target other)
        ⟨s.cells.set target (some (t.copyAssign o s.memory).1), (t.copyAssign o s.memory).2⟩
  | selfCopyAssign {target : Nat} {t : TableObject} (ht : s.cells[target]? = some (some t)) :
      Does s (.copyAssign target target)
        ⟨s.cells.set target (some ⟨t.cache_, TableObject.viewOf t.cache_⟩), s.memory⟩
  | moveAssign {target other : Nat} {t o : TableObject}
      (ht : s.cells[target]? = some (some t)) (ho : s.cells[other]? = some (some o))
      (hne : target ≠ other) :
      Does s (.moveAssign target other)
        ⟨(s.cells.set other (some ⟨Vec.empty, o.value_⟩)).set target
          (some ⟨o.cache_, TableObject.viewOf o.cache_⟩), t.destroy s.memory⟩
  | selfMoveAssign {target : Nat} {t : TableObject} (ht : s.cells[target]? = some (some t)) :
      Does s (.moveAssign target target)
        ⟨s.cells.set target (some ⟨Vec.empty, TableObject.viewOf Vec.empty⟩), t.destroy s.memory⟩
  | destroy {i : Nat} {t : TableObject} (ht : s.cells[i]? = some (some t)) :
      Does s (.destroy i) ⟨s.cells.set i none, t.destroy s.memory⟩

variable {s s' : Tables} {a : Action}

-- numbers of entries are compared, never computed
attribute [local irreducible] toInt

theorem does_of_step (h : step a s = some s') : Does s a s' := by
  cases a with
  | construct args =>
      simp only [step] at h
      split at h
      · next hargs =>
          cases h
          exact .construct hargs
      · cases h
  | copyConstruct other =>
      cases ho : s.live other with
      | none => simp [step, ho] at h
      | some o =>
          simp only [step, ho] at h
          cases h
          exact .copyConstruct (live_iff.mp ho)
  | moveConstruct other =>
      cases ho : s.live other with
      | none => simp [step, ho] at h
      | some o =>
          simp only [step, ho, TableObject.moveConstruct_eq] at h
          cases h
          exact .moveConstruct (live_iff.mp ho)
  | copyAssign target other =>
      cases ht : s.live target with
      | none => simp [step, ht] at h
      | some t =>
          cases ho : s.live other with
          | none => simp [step, ho] at h
          | some o =>
              simp only [step, ht, ho] at h
              split at h
              · next heq =>
                  subst heq
                  cases h
                  exact .selfCopyAssign (live_iff.mp ht)
              · next hne =>
                  cases h
                  exact .copyAssign (live_iff.mp ht) (live_iff.mp ho) hne
  | moveAssign target other =>
      cases ht : s.live target with
      | none => simp [step, ht] at h
      | some t =>
          cases ho : s.live other with
          | none => simp [step, ho] at h
          | some o =>
              simp only [step, ht, ho, TableObject.moveAssign_eq,
                TableObject.selfMoveAssign_eq] at h
              split at h
              · next heq =>
                  subst heq
                  cases h
                  exact .selfMoveAssign (live_iff.mp ht)
              · next hne =>
                  cases h
                  exact .moveAssign (live_iff.mp ht) (live_iff.mp ho) hne
  | destroy i =>
      cases ht : s.live i with
      | none => simp [step, ht] at h
      | some t =>
          simp only [step, ht] at h
          cases h
          exact .destroy (live_iff.mp ht)

/-- The vectors after a step, by the operation on vectors that the step is made of. -/
theorem sound_step (hs : Vectors.Sound Block.entries s.vectors) (h : Does s a s') :
    Vectors.Sound Block.entries s'.vectors := by
  cases h with
  | @construct args _ =>
      have hmake := hs.make (args.map TableEntry.toRaw)
      simpa [vectors, TableObject.make] using hmake
  | @copyConstruct _ o _ =>
      have hmake := hs.make o.cache_.elems
      simpa [vectors, TableObject.copyConstruct, Vec.copyConstruct] using hmake
  | moveConstruct ho =>
      have hmove := hs.moveConstruct (vector_of_cell ho)
      simpa [vectors, List.map_set] using hmove
  | @copyAssign _ _ _ o ht =>
      have hcopy := hs.copyAssign (vector_of_cell ht) o.cache_
      simpa [vectors, TableObject.copyAssign, List.map_set] using hcopy
  | @selfCopyAssign target t ht =>
      obtain ⟨hlt, hget⟩ := List.getElem?_eq_some_iff.mp (vector_of_cell ht)
      have hsame : (s.cells.map (Option.map TableObject.cache_)).set target (some t.cache_) =
          s.cells.map (Option.map TableObject.cache_) := by
        rw [← hget, List.set_getElem_self]
      simpa [vectors, List.map_set, hsame] using hs
  | moveAssign ht ho hne =>
      have hmove := hs.moveAssign (vector_of_cell ht) (vector_of_cell ho) hne
      simpa [vectors, TableObject.destroy, List.map_set] using hmove
  | selfMoveAssign ht =>
      have hclear := hs.clear (vector_of_cell ht)
      simpa [vectors, TableObject.destroy, List.map_set] using hclear
  | destroy ht =>
      have hdestroy := hs.destroy (vector_of_cell ht)
      simpa [vectors, TableObject.destroy, List.map_set] using hdestroy

theorem fits_step (hs : WellFormed s) (h : Does s a s') : Each TableObject.Fits s'.cells := by
  cases h with
  | @construct args hargs =>
      refine (each_push hs.fits).mpr ?_
      rwa [TableObject.Fits, TableObject.make_elems, List.length_map]
  | copyConstruct ho =>
      refine (each_push hs.fits).mpr ?_
      have hfits := hs.fits _ (List.mem_of_getElem? ho)
      exact hfits.of_elems (TableObject.copyConstruct_elems _ _)
  | @moveConstruct other o ho =>
      have hset := (each_set hs.fits ho).mpr (TableObject.fits_empty o.value_)
      have hfits := hs.fits o (List.mem_of_getElem? ho)
      exact (each_push hset).mpr (hfits.of_elems rfl)
  | @copyAssign _ _ t o ht ho =>
      refine (each_set hs.fits ht).mpr ?_
      obtain ⟨helems, -⟩ := Vec.copyAssign_spec (hs.sound.holds _ _ (vector_of_cell ht)) o.cache_
      have hfits := hs.fits _ (List.mem_of_getElem? ho)
      exact hfits.of_elems helems
  | @selfCopyAssign _ t ht =>
      have hfits := hs.fits t (List.mem_of_getElem? ht)
      exact (each_set hs.fits ht).mpr (hfits.of_elems rfl)
  | @moveAssign _ _ t o ht ho hne =>
      have hfits := hs.fits o (List.mem_of_getElem? ho)
      exact (each_set_set hs.fits ht ho hne _).mpr
        ⟨TableObject.fits_empty o.value_, hfits.of_elems rfl⟩
  | selfMoveAssign ht =>
      exact (each_set hs.fits ht).mpr (TableObject.fits_empty (TableObject.viewOf Vec.empty))
  | destroy _ => exact each_destroy hs.fits

theorem wellFormed_step (hs : WellFormed s) (h : step a s = some s') : WellFormed s' :=
  ⟨sound_step hs.sound (does_of_step h), fits_step hs (does_of_step h)⟩

/-! ## The two views -/

/-- A table whose `value_` was computed from its vector. -/
theorem viewsAgree_of_view {t : TableObject} (hfits : t.Fits)
    (hview : t.value_ = TableObject.viewOf t.cache_) : t.ViewsAgree := by
  unfold TableObject.ViewsAgree
  rw [hview]
  exact ⟨toInt_of_lt hfits, rfl⟩

/-- What a move leaves behind: the vector is empty, and `value_` is as it was. -/
theorem viewsAgree_left_iff {o : TableObject} {m : Memory} (ho : o.ViewsAgree)
    (hholds : o.cache_.Holds Block.entries m) :
    TableObject.ViewsAgree ⟨Vec.empty, o.value_⟩ ↔ o.cache_.data = none := by
  obtain ⟨hcount, hentries⟩ := ho
  constructor
  · rintro ⟨-, hnull⟩
    exact hentries.symm.trans hnull
  · intro hnull
    obtain ⟨helems, -⟩ := hholds.null hnull
    refine ⟨?_, hentries.trans hnull⟩
    show o.value_.num_entries = 0
    rw [hcount, helems]
    rfl

/-- One step keeps the two views of all tables in step exactly if it moves no buffer from one
table to another. -/
theorem agree_step_iff (hs : WellFormed s) (hagree : Each TableObject.ViewsAgree s.cells)
    (h : step a s = some s') : Each TableObject.ViewsAgree s'.cells ↔ BuffersStay a s := by
  have hfits := (wellFormed_step hs h).fits
  cases does_of_step h with
  | @construct args hargs =>
      refine iff_of_true ((each_push hagree).mpr ⟨?_, rfl⟩) trivial
      rw [TableObject.make_elems, List.length_map, TableObject.make_count]
  | @copyConstruct _ o ho =>
      have hmade := hfits _ List.mem_concat_self
      refine iff_of_true ((each_push hagree).mpr ?_) trivial
      exact viewsAgree_of_view hmade (TableObject.copyConstruct_view o s.memory)
  | @moveConstruct other o ho =>
      have hmade := hfits _ List.mem_concat_self
      have hleft := viewsAgree_left_iff (hagree o (List.mem_of_getElem? ho))
        (hs.sound.holds _ _ (vector_of_cell ho))
      have hstays : BuffersStay (.moveConstruct other) s ↔ o.cache_.data = none :=
        forall_live_iff ho
      rw [hstays, ← hleft, each_push_iff, each_set hagree ho]
      exact and_iff_left (viewsAgree_of_view hmade rfl)
  | @copyAssign _ _ t o ht ho hne =>
      have hmade := hfits _ (List.mem_set (List.getElem?_eq_some_iff.mp ht).1 _)
      refine iff_of_true ((each_set hagree ht).mpr ?_) trivial
      exact viewsAgree_of_view hmade (TableObject.copyAssign_view t o s.memory)
  | @selfCopyAssign _ t ht =>
      have hmade := hfits _ (List.mem_set (List.getElem?_eq_some_iff.mp ht).1 _)
      exact iff_of_true ((each_set hagree ht).mpr (viewsAgree_of_view hmade rfl)) trivial
  | @moveAssign target other t o ht ho hne =>
      have hmade := hs.fits o (List.mem_of_getElem? ho)
      have hleft := viewsAgree_left_iff (hagree o (List.mem_of_getElem? ho))
        (hs.sound.holds _ _ (vector_of_cell ho))
      have hstays : BuffersStay (.moveAssign target other) s ↔ o.cache_.data = none :=
        ⟨fun h => (forall_live_iff ho).mp (h hne), fun h _ => (forall_live_iff ho).mpr h⟩
      rw [hstays, ← hleft, each_set_set hagree ht ho hne]
      exact and_iff_left (viewsAgree_of_view (hmade.of_elems rfl) rfl)
  | @selfMoveAssign _ t ht =>
      have hmade := hfits _ (List.mem_set (List.getElem?_eq_some_iff.mp ht).1 _)
      refine iff_of_true ((each_set hagree ht).mpr ?_) (fun hne => absurd rfl hne)
      exact viewsAgree_of_view hmade rfl
  | destroy _ => exact iff_of_true (each_destroy hagree) trivial

/-- What a table exposes whose views agree. -/
theorem exposed_of_viewsAgree {t : TableObject} {m : Memory} (ht : t.ViewsAgree)
    (hholds : t.cache_.Holds Block.entries m) : t.exposed m = some t.cache_.elems := by
  obtain ⟨hcount, hentries⟩ := ht
  unfold TableObject.exposed
  rw [hentries, hcount]
  cases hdata : t.cache_.data with
  | none =>
      obtain ⟨helems, -⟩ := hholds.null hdata
      rw [helems]
      rfl
  | some a =>
      have hblock : Block.asEntries (.entries t.cache_.elems) = some t.cache_.elems := rfl
      have hread := readSeq_of_read (hholds.buffer a hdata) hblock (Nat.le_refl _)
      rwa [List.take_length] at hread

/-- All that is claimed of the tables follows from the two views. -/
theorem inStep_iff_agree (hs : WellFormed s) :
    InStep s ↔ Each TableObject.ViewsAgree s.cells := by
  constructor
  · intro h t ht
    obtain ⟨i, hi⟩ := List.mem_iff_getElem?.mp ht
    exact h.agree i t (live_iff.mpr hi)
  · intro h
    have hlive (i : Nat) (t : TableObject) (hi : s.live i = some t) : t.ViewsAgree :=
      h t (List.mem_of_getElem? (live_iff.mp hi))
    have hholds (i : Nat) (t : TableObject) (hi : s.live i = some t) :
        t.cache_.Holds Block.entries s.memory :=
      hs.sound.holds i _ (vector_of_cell (live_iff.mp hi))
    refine ⟨hlive, ?_, fun i t hi => exposed_of_viewsAgree (hlive i t hi) (hholds i t hi)⟩
    intro i j t u a hi hj hne ht
    rw [(hlive i t hi).2] at ht
    rw [(hlive j u hj).2]
    exact hs.sound.apart (vector_of_cell (live_iff.mp hi)) (vector_of_cell (live_iff.mp hj)) hne ht

theorem inStep_iff (hs : WellFormed s) (hstep : InStep s) (h : step a s = some s') :
    InStep s' ↔ BuffersStay a s := by
  rw [inStep_iff_agree (wellFormed_step hs h)]
  exact agree_step_iff hs ((inStep_iff_agree hs).mp hstep) h

/-- Two tables with the same entries, each in step, expose the same. -/
theorem exposesSame_of_elems {i j : Nat} {o t : TableObject} (hstep : InStep s)
    (hstep' : InStep s') (ho : s.cells[i]? = some (some o)) (ht : s'.cells[j]? = some (some t))
    (helems : t.cache_.elems = o.cache_.elems) : ExposesSame s s' i j := by
  refine ⟨o, t, live_iff.mpr ho, live_iff.mpr ht, ?_⟩
  rw [hstep.readable i o (live_iff.mpr ho), hstep'.readable j t (live_iff.mpr ht), helems]

/-- A copy between two states that are in step exposes what its source did. -/
theorem copiesEntries_of_inStep (hs : WellFormed s) (hstep : InStep s) (hstep' : InStep s')
    (h : step a s = some s') : CopiesEntries a s := by
  intro s'' h'
  obtain rfl : s' = s'' := Option.some.inj (h.symm.trans h')
  cases does_of_step h with
  | @copyConstruct _ o ho =>
      exact exposesSame_of_elems hstep hstep' ho List.getElem?_concat_length
        (TableObject.copyConstruct_elems o s.memory)
  | @copyAssign _ _ t o ht ho hne =>
      obtain ⟨helems, -⟩ := Vec.copyAssign_spec (hs.sound.holds _ _ (vector_of_cell ht)) o.cache_
      have hlt := (List.getElem?_eq_some_iff.mp ht).1
      exact exposesSame_of_elems hstep hstep' ho (List.getElem?_set_self hlt) helems
  | @selfCopyAssign _ t ht =>
      have hlt := (List.getElem?_eq_some_iff.mp ht).1
      exact exposesSame_of_elems hstep hstep' ht (List.getElem?_set_self hlt) rfl
  | construct _ | moveConstruct _ | moveAssign _ _ _ | selfMoveAssign _ | destroy _ => trivial

theorem wellFormed_initial (m : Memory) : WellFormed (initial m) :=
  ⟨Vectors.sound_nil m, (fun _ h => nomatch h)⟩

theorem inStep_initial (m : Memory) : InStep (initial m) :=
  (inStep_iff_agree (wellFormed_initial m)).mpr (fun _ h => nomatch h)

/-- In every run, the tables are in step in every state and copies expose what their sources
do, if and only if no table that has a buffer is moved into another one. -/
theorem views_agree_iff (m : Memory) (as : List Action) :
    (Visits step InStep (initial m) as ∧ Along step CopiesEntries (initial m) as) ↔
      Along step BuffersStay (initial m) as := by
  have hruns : Visits step InStep (initial m) as ↔ Along step BuffersStay (initial m) as :=
    visits_iff_along wellFormed_step inStep_iff (wellFormed_initial m) (inStep_initial m)
  rw [← hruns]
  refine and_iff_left_of_imp fun h => ?_
  have hwell : Visits step WellFormed (initial m) as :=
    visits_of_step wellFormed_step (wellFormed_initial m)
  exact along_of_visits
    (fun hs hs' h => copiesEntries_of_inStep hs.1 hs.2 hs'.2 h) (visits_and hwell h)

/-- A table with one entry is moved into a second one: it says to have one entry, at an
address that is the other table's, and has none. -/
theorem moved_from_exposes_other :
    ¬ Visits step InStep (initial Storage.empty)
        [.construct [⟨⟨1, 7⟩, .ofInt8 1⟩], .moveConstruct 0] := by
  rw [visits_iff_along wellFormed_step inStep_iff (wellFormed_initial _) (inStep_initial _)]
  intro h
  have hmove := ((h _ rfl).2 _ rfl).1 _ rfl
  cases hmove

end Tables

end RmqCxx
