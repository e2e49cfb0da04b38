/-
# `RmqCxx.Cpp.Moves` — ownership by a flag, under moves

A class that owns a resource through a plain copy of it and a flag: a move copies
the resource, clears the flag of the object moved to and sets that of the object
moved from, which keeps its stale copy.  `FlagOwner` is the interface such a class
has, with what its operations do to copy and flag as laws; the machine runs any
sequence of constructions, moves, assignments and destructions on any number of
objects.

Two questions, each answered by the exact condition on the moves of a run:

* `released_once_iff`: no resource is disposed of twice if and only if no move is
  made from a stale copy of a resource that is still owned, or was disposed of;
* `nothing_lost_iff`: no resource is lost if and only if no assignment replaces
  the last owner of one.

Both follow from what one step does to the weight of a resource.
-/
import RmqCxx.Cpp.Ownership
import RmqCxx.Cpp.Runs

namespace Cpp

open Ownership

/-- A class whose objects own a resource unless their flag says "moved". -/
structure FlagOwner (O R : Type) where
  resource : O → R
  moved : O → Bool
  /-- The object constructed, and what is left of the other one. -/
  moveConstruct : O → O × O
  assignable : Bool
  /-- The object assigned to, and what is left of the other one. -/
  moveAssign : O → O × O
  selfAssign : O → O
  constructed (o : O) :
    resource (moveConstruct o).1 = resource o ∧ moved (moveConstruct o).1 = false
  construct_left (o : O) :
    resource (moveConstruct o).2 = resource o ∧ moved (moveConstruct o).2 = true
  assigned (o : O) : resource (moveAssign o).1 = resource o ∧ moved (moveAssign o).1 = false
  assign_left (o : O) : resource (moveAssign o).2 = resource o ∧ moved (moveAssign o).2 = true
  self_assigned (o : O) :
    resource (selfAssign o) = resource o ∧ moved (selfAssign o) = true

namespace FlagOwner

variable {O R : Type} [DecidableEq R] (K : FlagOwner O R)

/-- What the destructor disposes of. -/
def holds (o : O) : Option R := if K.moved o then none else some (K.resource o)

/-- The objects, what was disposed of, and the resources that were ever put into an
object. -/
structure State (O R : Type) extends Ledger O R where
  seen : List R

def State.initial : State O R := ⟨⟨[], []⟩, []⟩

inductive Action (O : Type) where
  | construct (o : O)
  | moveConstruct (source : Nat)
  | moveAssign (target source : Nat)
  | destroy (i : Nat)

/-- One action.  An object is constructed around a fresh resource, and only live
objects take part in the others. -/
def step (a : Action O) (s : State O R) : Option (State O R) :=
  match a with
  | .construct o =>
      if K.resource o ∉ s.seen ∧ K.moved o = false then
        some { s with cells := s.cells ++ [some o], seen := s.seen ++ [K.resource o] }
      else none
  | .moveConstruct i =>
      match s.cells[i]? with
      | some (some o) =>
          some { s with
            cells := s.cells.set i (some (K.moveConstruct o).2) ++ [some (K.moveConstruct o).1] }
      | _ => none
  | .moveAssign i j =>
      match K.assignable, s.cells[i]?, s.cells[j]? with
      | true, some (some o), some (some o') =>
          if i = j then some { s with cells := s.cells.set i (some (K.selfAssign o)) }
          else some { s with
            cells := (s.cells.set j (some (K.moveAssign o').2)).set i
              (some (K.moveAssign o').1) }
      | _, _, _ => none
  | .destroy i =>
      match s.cells[i]? with
      | some (some o) =>
          some { s with
            cells := s.cells.set i none
            released := s.released ++ (K.holds o).toList }
      | _ => none

/-! ## The two properties and their conditions -/

/-- One owner at most, none of what was disposed of, and nothing disposed of twice. -/
def ReleasedOnce (s : State O R) : Prop :=
  ∀ r, owners K.holds r s.cells ≤ 1 ∧ (r ∈ s.released → owners K.holds r s.cells = 0) ∧
    s.released.count r ≤ 1

/-- If all objects are destroyed now, every resource has been disposed of. -/
def NothingLost (s : State O R) : Prop :=
  ∀ r ∈ s.seen, r ∈ s.released ++ s.cells.filterMap (fun c => c.bind K.holds)

/-- The source of a move owns its resource; or it has a stale copy, and the
resource was not disposed of and nobody owns it but perhaps the target. -/
def SourceMayBeMoved (a : Action O) (s : State O R) : Prop :=
  match a with
  | .moveConstruct i =>
      ∀ o, s.cells[i]? = some (some o) → K.moved o = true →
        K.resource o ∉ s.released ∧ owners K.holds (K.resource o) s.cells = 0
  | .moveAssign i j =>
      i ≠ j → ∀ o, s.cells[j]? = some (some o) → K.moved o = true →
        K.resource o ∉ s.released ∧ owners K.holds (K.resource o) (s.cells.set i none) = 0
  | .construct _ | .destroy _ => True

/-- The target of an assignment owns nothing; or what it owns has another owner or
was disposed of, or is what the source has a stale copy of. -/
def TargetMayBeReplaced (a : Action O) (s : State O R) : Prop :=
  match a with
  | .moveAssign i j =>
      ∀ o o', s.cells[i]? = some (some o) → s.cells[j]? = some (some o') → K.moved o = false →
        K.resource o ∈ s.released ∨ 0 < owners K.holds (K.resource o) (s.cells.set i none) ∨
          (i ≠ j ∧ K.moved o' = true ∧ K.resource o' = K.resource o)
  | .construct _ | .moveConstruct _ | .destroy _ => True

/-! ## What one step does to a weight -/

/-- How often `r` has an owner or was disposed of. -/
def weightOf (r : R) (s : State O R) : Nat := weight K.holds r s.toLedger

/-- The same without the object at `i`. -/
def weightWithout (i : Nat) (r : R) (s : State O R) : Nat :=
  weight K.holds r ⟨s.cells.set i none, s.released⟩

/-- 1 if `o` has a stale copy of `r`: a move from it makes one more owner. -/
def stale (r : R) (o : O) : Nat := if K.moved o = true ∧ K.resource o = r then 1 else 0

variable {K} {s t : State O R} {r : R}

theorem stake_of_moved {o : O} (h : K.moved o = true) : stake K.holds r o = 0 :=
  stake_of_ne (by simp [holds, h])

theorem stake_of_owner {o : O} (h : K.moved o = false) :
    stake K.holds r o = if K.resource o = r then 1 else 0 := by
  simp [stake, holds, h]

/-- An object with `r` owns it or has a stale copy. -/
theorem stake_add_stale (o : O) :
    stake K.holds r o + K.stale r o = if K.resource o = r then 1 else 0 := by
  cases hm : K.moved o with
  | true => rw [stake_of_moved hm]; simp [stale, hm]
  | false => rw [stake_of_owner hm]; simp [stale, hm]

omit [DecidableEq R] in
theorem resource_of_holds {o : O} (h : K.holds o = some r) : K.resource o = r := by
  unfold holds at h
  split at h
  · cases h
  · exact Option.some.inj h

theorem weightWithout_add_stake {i : Nat} {o : O} (hi : s.cells[i]? = some (some o)) :
    K.weightWithout i r s + stake K.holds r o = K.weightOf r s := by
  have h := owners_destroy K.holds r hi
  simp only [weightOf, weightWithout, weight]
  omega

theorem weight_construct {o : O} (h : K.step (.construct o) s = some t) :
    K.resource o ∉ s.seen ∧ t.seen = s.seen ++ [K.resource o] ∧
      ∀ r, K.weightOf r t = K.weightOf r s + if K.resource o = r then 1 else 0 := by
  simp only [step] at h
  split at h
  · next ho =>
      cases h
      refine ⟨ho.1, rfl, fun r => ?_⟩
      have hpush := weight_push K.holds r (l := s.toLedger) o
      rw [stake_of_owner ho.2] at hpush
      exact hpush
  · cases h

theorem weight_moveConstruct {i : Nat} (h : K.step (.moveConstruct i) s = some t) :
    t.seen = s.seen ∧ ∃ o, s.cells[i]? = some (some o) ∧
      ∀ r, K.weightOf r t = K.weightOf r s + K.stale r o := by
  simp only [step] at h
  split at h
  · next o hi =>
      cases h
      refine ⟨rfl, o, hi, fun r => ?_⟩
      have hset := owners_update K.holds r (K.moveConstruct o).2 hi
      rw [stake_of_moved (K.construct_left o).2] at hset
      have hnew := stake_of_owner (r := r) (K.constructed o).2
      rw [(K.constructed o).1] at hnew
      have hstake := stake_add_stale (K := K) (r := r) o
      simp only [weightOf, weight, owners_push]
      omega
  · cases h

/-- An assignment ends what its target was.  A source other than the target hands
on what it owned, or makes an owner of a stale copy; the target itself as the
source is an owner no more. -/
theorem weight_moveAssign {i j : Nat} (h : K.step (.moveAssign i j) s = some t) :
    t.seen = s.seen ∧ ∃ o o', s.cells[i]? = some (some o) ∧ s.cells[j]? = some (some o') ∧
      ∀ r, K.weightOf r t = K.weightWithout i r s + if i ≠ j then K.stale r o' else 0 := by
  simp only [step] at h
  split at h
  · next o o' _ hi hj =>
      split at h
      · next hij =>
          cases h
          refine ⟨rfl, o, o', hi, hj, fun r => ?_⟩
          have hset := owners_update K.holds r (K.selfAssign o) hi
          rw [stake_of_moved (K.self_assigned o).2] at hset
          have hout := owners_destroy K.holds r hi
          rw [if_neg (not_not_intro hij)]
          simp only [weightOf, weightWithout, weight]
          omega
      · next hij =>
          cases h
          refine ⟨rfl, o, o', hi, hj, fun r => ?_⟩
          have hleft := owners_update K.holds r (K.moveAssign o').2 hj
          rw [stake_of_moved (K.assign_left o').2] at hleft
          have hi' : (s.cells.set j (some (K.moveAssign o').2))[i]? = some (some o) := by
            rw [List.getElem?_set_ne (Ne.symm hij), hi]
          have hnew := owners_update K.holds r (K.moveAssign o').1 hi'
          rw [stake_of_owner (K.assigned o').2, (K.assigned o').1,
            ← stake_add_stale (K := K) o'] at hnew
          have hout := owners_destroy K.holds r hi
          rw [if_pos hij]
          simp only [weightOf, weightWithout, weight]
          omega
  · cases h

theorem weight_destroyed {i : Nat} (h : K.step (.destroy i) s = some t) :
    t.seen = s.seen ∧ ∀ r, K.weightOf r t = K.weightOf r s := by
  simp only [step] at h
  split at h
  · next o hi =>
      cases h
      exact ⟨rfl, fun r => weight_destroy K.holds r hi⟩
  · cases h

/-! ## Resources are known -/

/-- All resources in objects, stale copies included, and all that were disposed of
were put into an object before. -/
def Known (K : FlagOwner O R) (s : State O R) : Prop :=
  (∀ o, some o ∈ s.cells → K.resource o ∈ s.seen) ∧ ∀ r ∈ s.released, r ∈ s.seen

omit [DecidableEq R] in
theorem known_initial : K.Known .initial :=
  ⟨(fun _ h => nomatch h), (fun _ h => nomatch h)⟩

omit [DecidableEq R] in
/-- Putting in place an object with a known resource. -/
theorem Known.set {i : Nat} {c : Option O} (hs : K.Known s)
    (hc : ∀ o, c = some o → K.resource o ∈ s.seen) :
    ∀ o, some o ∈ s.cells.set i c → K.resource o ∈ s.seen := by
  intro o ho
  rcases List.mem_or_eq_of_mem_set ho with h | h
  · exact hs.1 o h
  · exact hc o h.symm

theorem known_step {a : Action O} (hs : K.Known s) (h : K.step a s = some t) : K.Known t := by
  cases a with
  | construct o =>
      simp only [step] at h
      split at h
      · next ho =>
          cases h
          refine ⟨fun o' ho' => ?_, fun r hr => List.mem_append_left _ (hs.2 r hr)⟩
          rcases List.mem_append.mp ho' with ho' | ho'
          · exact List.mem_append_left _ (hs.1 o' ho')
          · obtain rfl : o' = o := Option.some.inj (List.mem_singleton.mp ho')
            exact List.mem_append_right _ (List.mem_singleton_self _)
      · cases h
  | moveConstruct i =>
      simp only [step] at h
      split at h
      · next o hi =>
          cases h
          have hmem : K.resource o ∈ s.seen := hs.1 o (List.mem_of_getElem? hi)
          refine ⟨fun o' ho' => ?_, hs.2⟩
          rcases List.mem_append.mp ho' with ho' | ho'
          · refine hs.set (fun o'' ho'' => ?_) o' ho'
            cases ho''
            exact (K.construct_left o).1 ▸ hmem
          · obtain rfl : o' = _ := Option.some.inj (List.mem_singleton.mp ho')
            exact (K.constructed o).1 ▸ hmem
      · cases h
  | moveAssign i j =>
      simp only [step] at h
      split at h
      · next o o' _ hi hj =>
          have hmem : K.resource o ∈ s.seen := hs.1 o (List.mem_of_getElem? hi)
          have hmem' : K.resource o' ∈ s.seen := hs.1 o' (List.mem_of_getElem? hj)
          split at h
          · cases h
            refine ⟨hs.set (fun o'' ho'' => ?_), hs.2⟩
            cases ho''
            exact (K.self_assigned o).1 ▸ hmem
          · cases h
            have hleft : ∀ o'', some o'' ∈ s.cells.set j (some (K.moveAssign o').2) →
                K.resource o'' ∈ s.seen := hs.set fun o'' ho'' => by
              cases ho''
              exact (K.assign_left o').1 ▸ hmem'
            refine ⟨fun o'' ho'' => ?_, hs.2⟩
            rcases List.mem_or_eq_of_mem_set ho'' with h | h
            · exact hleft o'' h
            · cases h
              exact (K.assigned o').1 ▸ hmem'
      · cases h
  | destroy i =>
      simp only [step] at h
      split at h
      · next o hi =>
          cases h
          refine ⟨hs.set (fun _ h => nomatch h), fun r hr => ?_⟩
          rcases List.mem_append.mp hr with hr | hr
          · exact hs.2 r hr
          · rw [Option.mem_toList] at hr
            exact resource_of_holds hr ▸ hs.1 o (List.mem_of_getElem? hi)
      · cases h

/-- A fresh resource has no owner and was not disposed of. -/
theorem weight_fresh (hs : K.Known s) (hr : r ∉ s.seen) : K.weightOf r s = 0 := by
  have howners : owners K.holds r s.cells = 0 := by
    by_contra hne
    obtain ⟨i, o, hi, ho⟩ := (owners_pos_iff K.holds r).mp (Nat.pos_of_ne_zero hne)
    exact hr (resource_of_holds ho ▸ hs.1 o (List.mem_of_getElem? hi))
  have hcount : s.released.count r = 0 := List.count_eq_zero.mpr fun h => hr (hs.2 r h)
  rw [weightOf, weight, howners, hcount]

/-! ## Nothing is released twice -/

theorem releasedOnce_iff : K.ReleasedOnce s ↔ ∀ r, K.weightOf r s ≤ 1 :=
  forall_congr' fun r => (weight_le_one_iff K.holds r).symm

/-- No weight: not disposed of, and no owner. -/
theorem weight_eq_zero_iff {l : Ledger O R} :
    weight K.holds r l = 0 ↔ r ∉ l.released ∧ owners K.holds r l.cells = 0 := by
  rw [weight, Nat.add_eq_zero_iff, List.count_eq_zero, and_comm]

/-- A stale copy may become an owner if its resource has no weight. -/
theorem le_one_iff_of_stale {W : R → Nat} (hle : ∀ r, W r ≤ 1) (o : O) :
    (∀ r, W r + K.stale r o ≤ 1) ↔ (K.moved o = true → W (K.resource o) = 0) := by
  constructor
  · intro h hm
    have hr := h (K.resource o)
    rw [stale, if_pos ⟨hm, rfl⟩] at hr
    omega
  · intro h r
    have hr := hle r
    unfold stale
    split
    · next hs =>
        have hzero := h hs.1
        rw [hs.2] at hzero
        omega
    · omega

/-- The exact condition under which a step keeps "nothing is released twice". -/
theorem releasedOnce_step {a : Action O} (hk : K.Known s) (hs : K.ReleasedOnce s)
    (h : K.step a s = some t) : K.ReleasedOnce t ↔ K.SourceMayBeMoved a s := by
  rw [releasedOnce_iff] at hs ⊢
  cases a with
  | construct o =>
      refine iff_of_true (fun r => ?_) trivial
      obtain ⟨hfresh, -, hw⟩ := weight_construct h
      have hle := hs r
      rw [hw r]
      split
      · next heq =>
          have hzero := weight_fresh hk (heq ▸ hfresh)
          omega
      · omega
  | moveConstruct i =>
      obtain ⟨-, o, hi, hw⟩ := weight_moveConstruct h
      simp only [hw]
      rw [le_one_iff_of_stale hs]
      constructor
      · intro hzero o' hi' hm
        cases hi.symm.trans hi'
        exact weight_eq_zero_iff.mp (hzero hm)
      · intro hsrc hm
        exact weight_eq_zero_iff.mpr (hsrc o hi hm)
  | moveAssign i j =>
      obtain ⟨-, o, o', hi, hj, hw⟩ := weight_moveAssign h
      have hle r : K.weightWithout i r s ≤ 1 := by
        have hout := weightWithout_add_stake (K := K) (r := r) hi
        have hr := hs r
        omega
      by_cases hij : i = j
      · refine iff_of_true (fun r => ?_) (fun hne => absurd hij hne)
        rw [hw, if_neg (not_not_intro hij)]
        exact hle r
      · simp only [hw, if_pos (show i ≠ j from hij)]
        rw [le_one_iff_of_stale hle]
        constructor
        · intro hzero _ o'' hj' hm
          cases hj.symm.trans hj'
          exact weight_eq_zero_iff.mp (hzero hm)
        · intro hsrc hm
          exact weight_eq_zero_iff.mpr (hsrc hij o' hj hm)
  | destroy i =>
      refine iff_of_true (fun r => ?_) trivial
      rw [(weight_destroyed h).2 r]
      exact hs r

/-- In every run, nothing is ever released twice if and only if every source of a
move may be moved. -/
theorem released_once_iff {as : List (Action O)} :
    Visits K.step K.ReleasedOnce .initial as ↔ Along K.step K.SourceMayBeMoved .initial as := by
  refine visits_iff_along (J := K.Known) known_step releasedOnce_step known_initial ?_
  intro r
  exact ⟨Nat.zero_le _, (fun h => nomatch h), Nat.zero_le _⟩

/-! ## Nothing is lost -/

theorem weight_pos_iff {l : Ledger O R} :
    0 < weight K.holds r l ↔ r ∈ l.released ∨ 0 < owners K.holds r l.cells := by
  rw [← List.count_pos_iff, weight]
  omega

theorem nothingLost_iff : K.NothingLost s ↔ ∀ r ∈ s.seen, 0 < K.weightOf r s := by
  refine forall₂_congr fun r _ => ?_
  rw [List.mem_append, weightOf, weight_pos_iff, owners_pos_iff, List.mem_filterMap]
  refine or_congr_right ⟨?_, ?_⟩
  · rintro ⟨c, hc, hr⟩
    obtain ⟨o, rfl, ho⟩ := Option.bind_eq_some_iff.mp hr
    obtain ⟨i, hi⟩ := List.mem_iff_getElem?.mp hc
    exact ⟨i, o, hi, ho⟩
  · rintro ⟨i, o, hi, ho⟩
    exact ⟨some o, List.mem_of_getElem? hi, ho⟩

/-- The exact condition under which a step loses nothing. -/
theorem nothingLost_step {a : Action O} (hk : K.Known s) (hs : K.NothingLost s)
    (h : K.step a s = some t) : K.NothingLost t ↔ K.TargetMayBeReplaced a s := by
  rw [nothingLost_iff] at hs ⊢
  cases a with
  | construct o =>
      obtain ⟨-, hseen, hw⟩ := weight_construct h
      refine iff_of_true (fun r hr => ?_) trivial
      rw [hseen] at hr
      rw [hw r]
      rcases List.mem_append.mp hr with hr | hr
      · exact Nat.add_pos_left (hs r hr) _
      · rw [if_pos (List.mem_singleton.mp hr).symm]
        exact Nat.succ_pos _
  | moveConstruct i =>
      obtain ⟨hseen, o, -, hw⟩ := weight_moveConstruct h
      refine iff_of_true (fun r hr => ?_) trivial
      rw [hseen] at hr
      rw [hw r]
      exact Nat.add_pos_left (hs r hr) _
  | moveAssign i j =>
      obtain ⟨hseen, o, o', hi, hj, hw⟩ := weight_moveAssign h
      simp only [hseen, hw]
      have hout r := weightWithout_add_stake (K := K) (r := r) hi
      constructor
      · intro hpos o₁ o₁' hi₁ hj₁ hm
        cases hi.symm.trans hi₁
        cases hj.symm.trans hj₁
        have hr := hpos _ (hk.1 o (List.mem_of_getElem? hi))
        rw [← or_assoc, ← weight_pos_iff (l := ⟨s.cells.set i none, s.released⟩)]
        show 0 < K.weightWithout i (K.resource o) s ∨ _
        split at hr
        · next hij =>
            unfold stale at hr
            split at hr
            · next hstale => exact .inr ⟨hij, hstale⟩
            · exact .inl hr
        · exact .inl hr
      · intro hmay r hr
        have hpos := hs r hr
        have hor := hout r
        cases hm : K.moved o with
        | true =>
            rw [stake_of_moved hm] at hor
            omega
        | false =>
            rw [stake_of_owner hm] at hor
            split at hor
            · next heq =>
                -- the only resource whose owner goes
                have hcond := hmay o o' hi hj hm
                rw [← or_assoc, ← weight_pos_iff (l := ⟨s.cells.set i none, s.released⟩),
                  heq] at hcond
                rcases hcond with hleft | ⟨hij, hstale⟩
                · exact Nat.add_pos_left hleft _
                · rw [if_pos hij, stale, if_pos hstale]
                  exact Nat.succ_pos _
            · omega
  | destroy i =>
      obtain ⟨hseen, hw⟩ := weight_destroyed h
      refine iff_of_true (fun r hr => ?_) trivial
      rw [hseen] at hr
      rw [hw r]
      exact hs r hr

/-- In every run, nothing is ever lost if and only if every target of an assignment
may be replaced. -/
theorem nothing_lost_iff {as : List (Action O)} :
    Visits K.step K.NothingLost .initial as ↔ Along K.step K.TargetMayBeReplaced .initial as :=
  visits_iff_along (J := K.Known) known_step nothingLost_step known_initial
    (fun _ hr => nomatch hr)

end FlagOwner
end Cpp
