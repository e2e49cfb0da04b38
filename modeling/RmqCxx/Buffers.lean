/-
# `RmqCxx.Buffers` — who frees the buffers of deliveries and returned messages

The library allocates buffers for each structure it fills.  When it answers normally they
are left to the caller, and are freed with the structure; otherwise it has freed them itself,
and may have left the pointers in the structure.  `~Envelope` and `~Message` look at `moved_`
only: they pass the structure to its `amqp_destroy_*` function however it was filled.

Every structure of a run is disposed of once or owned by one kept object (`account_step`), so
what is freed twice is what the library freed and left a pointer to (`freedOnce_iff_clean`).
`buffers_freed_once_iff` is about all buffers, in every state of every run.
-/
import Mathlib.Data.List.FinRange
import Mathlib.Data.List.Perm.Basic
import RmqCxx.Arrivals
import RmqCxx.ConsumeAccounts
import RmqCxx.Programs

namespace RmqCxx

open Cpp Code

/-! ## Fills -/

/-- The buffers that the library allocates for a structure, by number, and the pointers to
them that it leaves there when it has freed them itself. -/
structure Filling where
  allocated : Nat
  dangling : List (Fin allocated)

/-- What is allocated in the calls of `amqp_consume_message` and `amqp_read_message`, by the
number of the call. -/
structure Fillings where
  delivery : Nat → Filling
  content : Nat → Filling

/-- A structure that was filled, with the type of the reply. -/
structure Fill extends Filling where
  struct : Structure
  replyType : ResponseType

namespace Fill

/-- The buffers that the structure has pointers to. -/
def pointers (f : Fill) : List (Fin f.allocated) :=
  if f.replyType = .normal then List.finRange f.allocated else f.dangling

/-- How often the library itself has freed each of the buffers. -/
def libraryFrees (f : Fill) : Nat := if f.replyType = .normal then 0 else 1

/-- The structure has no pointers to buffers that the library has freed. -/
def Clean (f : Fill) : Prop := f.replyType ≠ .normal → f.dangling = []

end Fill

/-! ## Frees -/

/-- The kept objects that own the structure. -/
def Holdings.owners (v : Holdings) (s : Structure) : Nat :=
  v.kept.countP fun k => k.owned = some s

namespace Fill

/-- How often the buffer was freed: by the library, and with its structure. -/
def frees (f : Fill) (v : Holdings) (b : Fin f.allocated) : Nat :=
  f.libraryFrees + v.disposed.count f.struct * f.pointers.count b

/-- How often it will be, by the objects that own the structure. -/
def due (f : Fill) (v : Holdings) (b : Fin f.allocated) : Nat :=
  v.owners f.struct * f.pointers.count b

/-- Every buffer was freed once, or is going to be. -/
def FreedOnce (f : Fill) (v : Holdings) : Prop := ∀ b, f.frees v b + f.due v b = 1

end Fill

/-! ## Programs that count buffers -/

/-- A program, with the structures that were filled so far. -/
structure Buffered where
  program : Program
  fills : List Fill

section Step

variable [Library] (F : Fillings)

instance (tv : Option Timeval) (w : World) : Decidable (FrameTaken tv w) :=
  inferInstanceAs (Decidable (_ ∧ _))

/-- A returned message has arrived, and its content is read. -/
def readsContent (tv : Option Timeval) (w : World) : Bool :=
  decide (FrameTaken tv w) &&
    match (frameAnswer tv w).payload with
    | .method (.basicReturn _) => true
    | _ => false

/-- The fills of a call of `consumeImpl` from `w`. -/
def World.fills (w : World) (tv : Option Timeval) : List Fill :=
  let envelope : Fill :=
    { F.delivery (w.calls + 1) with
      struct := .envelope w.nextIdent
      replyType := (deliveryAnswer w).reply.replyType }
  let message : Fill :=
    { F.content (w.calls + 3 + tv.toList.length) with
      struct := .message (w.nextIdent + 1)
      replyType := (contentAnswer tv w).reply.replyType }
  if readsContent tv w then [envelope, message] else [envelope]

namespace Buffered

def initial : Buffered := ⟨.initial, []⟩

/-- What the step fills. -/
def filled (a : Program.Action) (p : Program) : List Fill :=
  match a with
  | .consume _ tv _ => p.world.fills F tv
  | .operate _ | .dropKept _ | .dropCaught _ => []

def step (a : Program.Action) (s : Buffered) : Option Buffered :=
  (Program.step a s.program).map fun p => ⟨p, s.fills ++ filled F a s.program⟩

/-- Every buffer of every fill was freed once, or is going to be. -/
def FreedOnce (s : Buffered) : Prop := ∀ f ∈ s.fills, f.FreedOnce s.program.world.holdings

/-- The step leaves no pointers to freed buffers. -/
def FillsCleanly (a : Program.Action) (s : Buffered) : Prop := ∀ f ∈ filled F a s.program, f.Clean

end Buffered

end Step

/-! ## The account of a structure -/

namespace Holdings

variable {v : Holdings} {s t : Structure} {k : Kept}

/-- How often the structure was disposed of, and will be by its owners. -/
def account (v : Holdings) (s : Structure) : Nat := v.disposed.count s + v.owners s

theorem account_disposing : (v.disposing t).account s = v.account s + [t].count s := by
  show (v.disposed ++ [t]).count s + v.owners s = _
  rw [List.count_append, account]
  omega

theorem owners_keep (hk : k.owned = some k.struct) :
    ({ v with kept := v.kept ++ [k] } : Holdings).owners s = v.owners s + [k.struct].count s := by
  show (v.kept ++ [k]).countP _ = _
  rw [List.countP_append, owners, List.countP_singleton, List.count_singleton, hk]
  simp

/-- An object that was handed to a callback is kept, or disposes of its structure. -/
theorem account_handedOn {keeps intact : Bool} (hk : k.owned = some k.struct) :
    (v.handedOn keeps k intact).account s = v.account s + [k.struct].count s := by
  cases keeps with
  | true =>
      show v.disposed.count s + ({ v with kept := v.kept ++ [k] } : Holdings).owners s = _
      rw [owners_keep hk, account]
      omega
  | false => exact account_disposing

/-- A kept object that ends disposes of its structure. -/
theorem account_takeOut {i : Nat} (ends : List Bool) (hi : v.kept[i]? = some k)
    (hk : k.owned = some k.struct) :
    (({ v with kept := v.kept.eraseIdx i, ends := ends } : Holdings).disposing k.struct).account s =
      v.account s := by
  obtain ⟨hlt, hget⟩ := List.getElem?_eq_some_iff.mp hi
  have hperm := (List.getElem_cons_eraseIdx_perm hlt).countP_eq fun k => decide (k.owned = some s)
  rw [hget, List.countP_cons, hk] at hperm
  rw [account_disposing]
  show v.disposed.count s + (v.kept.eraseIdx i).countP _ + _ = v.disposed.count s + v.kept.countP _
  rw [← hperm, List.count_singleton]
  simp only [decide_eq_true_eq, Option.some.injEq, beq_iff_eq]
  omega

theorem count_envelope_message (n first : Nat) :
    n + [Structure.message (first + 1)].count s + [Structure.envelope first].count s =
      n + [Structure.envelope first, .message (first + 1)].count s := by
  show _ = n + ([Structure.envelope first] ++ [Structure.message (first + 1)]).count s
  rw [List.count_append]
  omega

theorem settled_nextIdent {cbs : Callbacks} {memory : AmqpEnvelope} {intact : Bool} {item : Item} :
    (v.settled cbs memory intact item).nextIdent = v.nextIdent := by
  cases item with
  | nothing | acknowledge _ | failed _ | unreadable _ _ => rfl
  | envelope => exact handedOn_nextIdent
  | returned r => exact handedOn_nextIdent

/-- What a call settles: the structures that it created, once each. -/
theorem account_settled {cbs : Callbacks} {contents : EnvelopeContents} {intact : Bool}
    {item : Item} {h : Handle} {first : Nat} {w : World} (hfits : item.Fits h first w) :
    (v.settled cbs (contents.fill first) intact item).account s =
      v.account s + (item.created first).count s := by
  cases item with
  | nothing | acknowledge _ | failed _ => exact account_disposing
  | envelope => exact account_handedOn (fits_envelope contents first).owns
  | returned r =>
      obtain ⟨channel, hmethod⟩ := hfits.method
      obtain ⟨-, ⟨message, hmessage⟩, -⟩ := hfits
      have howns := (fits_returned hmessage fun s hs => ⟨_, hmethod s hs⟩).owns
      have hstruct : (Kept.returned r).struct = .message (first + 1) := by
        rw [Kept.struct, hmessage]
        rfl
      refine account_disposing.trans ?_
      rw [account_handedOn howns, hstruct]
      exact count_envelope_message _ _
  | unreadable message e =>
      obtain ⟨-, ⟨contents', rfl⟩, -⟩ := hfits
      refine account_disposing.trans ?_
      rw [account_disposing]
      exact count_envelope_message _ _

end Holdings

/-! ## The accounts of a run -/

/-- Structures that were not created yet have no account, and those that were filled one of
one. -/
structure Holdings.Accounted (v : Holdings) (fills : List Fill) : Prop where
  fresh (s : Structure) : v.nextIdent ≤ s.ident → v.account s = 0
  once (f : Fill) : f ∈ fills → v.account f.struct = 1

namespace Holdings.Accounted

variable {v v' : Holdings} {fills : List Fill}

theorem of_account (h : v.Accounted fills) (haccount : ∀ s, v'.account s = v.account s)
    (hident : v.nextIdent ≤ v'.nextIdent) : v'.Accounted fills :=
  ⟨fun s hs => (haccount s).trans (h.fresh s (Nat.le_trans hident hs)),
    fun f hf => (haccount f.struct).trans (h.once f hf)⟩

/-- Structures that are created and filled. -/
theorem create (h : v.Accounted fills) {structs : List Structure} {filled : List Fill}
    (hfilled : filled.map Fill.struct = structs) (hnodup : structs.Nodup)
    (hnew : ∀ s ∈ structs, v.nextIdent ≤ s.ident ∧ s.ident < v'.nextIdent)
    (haccount : ∀ s, v'.account s = v.account s + structs.count s)
    (hident : v.nextIdent ≤ v'.nextIdent) : v'.Accounted (fills ++ filled) := by
  constructor
  · intro s hs
    have hcount : structs.count s = 0 :=
      List.count_eq_zero.mpr fun hmem => Nat.not_lt.mpr hs (hnew s hmem).2
    rw [haccount, hcount, h.fresh s (Nat.le_trans hident hs)]
  · intro f hf
    rw [haccount]
    rcases List.mem_append.mp hf with hf | hf
    · have hone := h.once f hf
      have hcount : structs.count f.struct = 0 := by
        refine List.count_eq_zero.mpr fun hmem => ?_
        rw [h.fresh f.struct (hnew _ hmem).1] at hone
        cases hone
      rw [hone, hcount]
    · have hmem : f.struct ∈ structs := hfilled ▸ List.mem_map_of_mem hf
      rw [h.fresh f.struct (hnew _ hmem).1, List.count_eq_one_of_mem hnodup hmem]

end Holdings.Accounted

/-- The structures of a call are different, and were not there before it. -/
theorem created_spec {item : Item} {h : Handle} {first : Nat} {w : World}
    (hfits : item.Fits h first w) :
    (item.created first).Nodup ∧
      ∀ s ∈ item.created first, first ≤ s.ident ∧ s.ident < w.nextIdent := by
  have hone (hident : w.nextIdent = first + 1) : [Structure.envelope first].Nodup ∧
      ∀ s ∈ [Structure.envelope first], first ≤ s.ident ∧ s.ident < w.nextIdent := by
    refine ⟨List.nodup_singleton _, fun s hs => ?_⟩
    rw [List.mem_singleton.mp hs, hident]
    exact ⟨Nat.le_refl _, Nat.lt_succ_self _⟩
  have htwo (hident : w.nextIdent = first + 2) :
      [Structure.envelope first, .message (first + 1)].Nodup ∧
        ∀ s ∈ [Structure.envelope first, .message (first + 1)],
          first ≤ s.ident ∧ s.ident < w.nextIdent := by
    refine ⟨by simp, fun s hs => ?_⟩
    rcases List.mem_pair.mp hs with rfl | rfl <;> simp only [Structure.ident] <;> omega
  cases item with
  | nothing | envelope | acknowledge _ => exact hone hfits
  | failed e => exact hone hfits.1
  | returned r | unreadable _ _ => exact htwo hfits.1

section Accounts

variable [Library] {F : Fillings} {self : Connection} {tv : Option Timeval} {w w' : World}
  {item : Item}

theorem readsContent_iff :
    readsContent tv w = true ↔ FrameTaken tv w ∧
      ∃ decoded, (frameAnswer tv w).payload = .method (.basicReturn decoded) := by
  rw [readsContent, Bool.and_eq_true, decide_eq_true_iff]
  refine and_congr_right fun _ => ?_
  split
  · next decoded hpayload => exact iff_of_true rfl ⟨decoded, hpayload⟩
  · next hother => exact iff_of_false (by nofun) fun ⟨decoded, hpayload⟩ => hother decoded hpayload

/-- The structures that are filled are the ones that are created. -/
theorem fills_structs (h : Receives self tv w item) :
    (w.fills F tv).map Fill.struct = item.created w.nextIdent := by
  have hboth (h : readsContent tv w = true) : (w.fills F tv).map Fill.struct =
      [.envelope w.nextIdent, .message (w.nextIdent + 1)] := by
    rw [World.fills, if_pos h]
    rfl
  have hone (h : ¬ (FrameTaken tv w ∧
      ∃ decoded, (frameAnswer tv w).payload = .method (.basicReturn decoded))) :
      (w.fills F tv).map Fill.struct = [.envelope w.nextIdent] := by
    rw [World.fills, if_neg fun hreads => h (readsContent_iff.mp hreads)]
    rfl
  cases h with
  | returned htaken hpayload _ | unreadable htaken hpayload _ =>
      exact hboth (readsContent_iff.mpr ⟨htaken, _, hpayload⟩)
  | delivery htype _ | channelZero htype _ =>
      exact hone fun ⟨⟨harrived, _⟩, _⟩ => nomatch htype.symm.trans harrived.1
  | firstTimeout _ herror | socketError _ herror =>
      exact hone fun ⟨⟨harrived, _⟩, _⟩ => nomatch herror.symm.trans harrived.2
  | otherError _ herror _ _ _ => exact hone fun ⟨⟨harrived, _⟩, _⟩ => herror harrived.2
  | otherReply _ hlibrary _ => exact hone fun ⟨⟨harrived, _⟩, _⟩ => hlibrary harrived.1
  | secondTimeout _ hstatus => exact hone fun ⟨⟨_, hok⟩, _⟩ => nomatch hstatus.symm.trans hok
  | otherStatus _ hstatus _ _ => exact hone fun ⟨⟨_, hok⟩, _⟩ => hstatus hok
  | otherFrame _ hpayload _ | otherMethod _ hpayload _ | acknowledge _ hpayload
  | channelClose _ hpayload | connectionClose _ hpayload =>
      exact hone fun ⟨_, _, hreturn⟩ => nomatch hpayload.symm.trans hreturn

end Accounts

/-! ## One step -/

section Fills

variable {f : Fill} {v : Holdings}

/-- With an account of one, what matters is whether the fill was clean. -/
theorem freedOnce_iff_clean (haccount : v.account f.struct = 1) : f.FreedOnce v ↔ f.Clean := by
  have hsum (b : Fin f.allocated) :
      f.frees v b + f.due v b = f.libraryFrees + f.pointers.count b := by
    rw [Fill.frees, Fill.due, Nat.add_assoc, ← Nat.add_mul, ← Holdings.account, haccount,
      Nat.one_mul]
  rw [Fill.FreedOnce, forall_congr' fun b => by rw [hsum b]]
  by_cases hnormal : f.replyType = .normal
  · refine iff_of_true (fun b => ?_) fun hother => absurd hnormal hother
    rw [Fill.libraryFrees, if_pos hnormal, Fill.pointers, if_pos hnormal, Nat.zero_add]
    exact List.count_eq_one_of_mem (List.nodup_finRange _) (List.mem_finRange b)
  · rw [Fill.libraryFrees, if_neg hnormal, Fill.pointers, if_neg hnormal]
    have hcount (b : Fin f.allocated) : 1 + f.dangling.count b = 1 ↔ b ∉ f.dangling := by
      rw [← List.count_eq_zero]
      omega
    rw [forall_congr' hcount, ← List.eq_nil_iff_forall_not_mem]
    exact ⟨fun h _ => h, fun h => h hnormal⟩

end Fills

section Steps

variable [Library] {F : Fillings} {s s' : Buffered} {a : Program.Action}

/-- Every step keeps the accounts, and opens those of what it fills. -/
theorem account_step (htidy : s.program.world.holdings.Tidy)
    (haccounted : s.program.world.holdings.Accounted s.fills)
    (hstep : Buffered.step F a s = some s') :
    s'.program.world.holdings.Accounted s'.fills := by
  obtain ⟨p', hp, rfl⟩ := Option.map_eq_some_iff.mp hstep
  cases a with
  | operate op =>
      obtain ⟨w', hop, rfl⟩ := Option.map_eq_some_iff.mp hp
      have hsame := (step_recycles hop).same
      show w'.holdings.Accounted (s.fills ++ [])
      rw [hsame, List.append_nil]
      exact haccounted.of_account (fun _ => rfl) (Nat.le_refl _)
  | consume self tv cbs =>
      obtain ⟨contents, item, w₁, w₂, o, hwaits, hfits, hreceive, hd, rfl⟩ := consume_step hp
      obtain ⟨intact, hsettled⟩ := dispatched_holdings hd
      obtain ⟨item', w', hreceive', hreceives⟩ := receive_receives self tv s.program.world
      obtain ⟨hnodup, hnew⟩ := created_spec hfits
      rw [hreceive] at hreceive'
      obtain rfl : item = item' := by
        have hret := (Prod.mk.inj hreceive').1
        exact (Prod.mk.inj (Outcome.ret.inj hret)).2
      have hident : (w₂.released self.connection_).holdings.nextIdent = w₁.nextIdent := by
        rw [holdings_released]
        show w₂.holdings.nextIdent = _
        rw [hsettled, Holdings.settled_nextIdent]
        rfl
      refine haccounted.create (fills_structs hreceives) hnodup (fun t ht => ?_) (fun t => ?_) ?_
      · rw [hident]
        exact hnew t ht
      · rw [holdings_released]
        show w₂.holdings.account t = _
        rw [hsettled, Holdings.account_settled hfits]
        show w₁.holdings.account t + _ = _
        rw [waits_holdings hwaits]
        rfl
      · rw [hident]
        exact hwaits.created
  | dropKept i =>
      obtain ⟨k, hk, -, -, hdropped⟩ := dropKept_step htidy hp
      show p'.world.holdings.Accounted (s.fills ++ [])
      rw [hdropped, List.append_nil]
      have howns := (htidy.fits k (List.mem_of_getElem? hk)).owns
      exact haccounted.of_account (fun _ => Holdings.account_takeOut _ hk howns) (Nat.le_refl _)
  | dropCaught i =>
      obtain ⟨e, -, rfl⟩ := Option.map_eq_some_iff.mp hp
      show s.program.world.holdings.Accounted (s.fills ++ [])
      rwa [List.append_nil]

omit [Library] in
theorem initial_accounted : Buffered.initial.program.world.holdings.Accounted [] :=
  ⟨fun _ _ => rfl, fun _ hf => nomatch hf⟩

/-- Buffers are freed once exactly in the runs whose steps leave no pointers to freed ones. -/
theorem buffers_freed_once_iff (F : Fillings) (as : List Program.Action) :
    Visits (Buffered.step F) Buffered.FreedOnce .initial as ↔
      Along (Buffered.step F) (Buffered.FillsCleanly F) .initial as := by
  have hkept {a : Program.Action} {s s' : Buffered}
      (h : s.program.world.holdings.Tidy ∧ s.program.world.holdings.Accounted s.fills)
      (hstep : Buffered.step F a s = some s') :
      s'.program.world.holdings.Tidy ∧ s'.program.world.holdings.Accounted s'.fills := by
    have haccounted := account_step h.1 h.2 hstep
    obtain ⟨p', hp, rfl⟩ := Option.map_eq_some_iff.mp hstep
    exact ⟨step_tidy h.1 hp, haccounted⟩
  refine visits_iff_along hkept (fun {a s s'} h hfreed hstep => ?_)
    ⟨initial_tidy, initial_accounted⟩ (fun _ hf => nomatch hf)
  have haccounted := (hkept h hstep).2
  obtain ⟨p', hp, rfl⟩ := Option.map_eq_some_iff.mp hstep
  constructor
  · intro hfreed' f hf
    have hmem := List.mem_append_right s.fills hf
    exact (freedOnce_iff_clean (haccounted.once f hmem)).mp (hfreed' f hmem)
  · intro hclean f hf
    refine (freedOnce_iff_clean (haccounted.once f hf)).mpr ?_
    rcases List.mem_append.mp hf with hf | hf
    · exact (freedOnce_iff_clean (h.2.once f hf)).mp (hfreed f hf)
    · exact hclean f hf

end Steps

/-! ## A delivery that fails half-way -/

/-- The socket fails between the header and the body of a delivery. -/
@[reducible] def failsHalfway : Library :=
  { allSucceed with
    consumeMessage := fun _ =>
      ⟨⟨.libraryException, 0, none, .socketError⟩, ⟨1, "", 0, false, "", "", ⟨[], ""⟩⟩, []⟩ }

/-- One buffer, freed with its pointer left in the structure. -/
def oneDangling : Fillings := ⟨fun _ => ⟨1, [0]⟩, fun _ => ⟨0, []⟩⟩

/-- Callbacks that look at their object and keep nothing. -/
def keepNothing : Callbacks where
  envelope := .constRef [] none
  returned := .constRef [] none
  acknowledgeOps := []
  acknowledgeExit := none

/-- `~Envelope` frees the buffer that the library has freed. -/
theorem delivery_freed_twice :
    ¬ Visits (@Buffered.step failsHalfway oneDangling) Buffered.FreedOnce .initial
      [.consume ⟨some 1, "Connection(1): "⟩ none keepNothing] := by
  intro h
  have honce : 2 = 1 := h.2 _ rfl _ (List.mem_singleton_self _) ⟨0, Nat.one_pos⟩
  cases honce

end RmqCxx
