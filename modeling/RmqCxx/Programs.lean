/-
# `RmqCxx.Programs` — programs that operate, consume and keep what they are given

A program runs operations and consume calls, catches what is thrown, keeps objects
that callbacks moved on, and drops kept objects and caught exceptions when it likes.
What a step does to the memory of all these objects is in the `Holdings` of the
world: operations change them by releases only, and a consume call settles the two
structures it creates (`dispatched_holdings`).  It follows that the kept objects of
a run own different structures, and none that was freed (`Holdings.Tidy`).
-/
import RmqCxx.ConsumeRuns
import RmqCxx.Releases

namespace RmqCxx

open Cpp Code

/-! ## Kept objects -/

namespace Kept

def strings : Kept → List Bytes
  | envelope e => e.memory_.strings
  | returned r => r.strings

def destroy : Kept → Code World Exc Unit
  | envelope e => Envelope.destroy e
  | returned r => ReturnedMessage.destroy r

end Kept

/-- An object that owns its structure, and whose byte strings are in the memory of that
structure or in pools. -/
structure Kept.Fits (k : Kept) : Prop where
  owns : k.owned = some k.struct
  strings (s : Bytes) (ident : Nat) : s ∈ k.strings → s.mem = .own ident → ident = k.struct.ident

/-! ## Programs -/

structure Program where
  world : World
  /-- The exceptions of consume calls that were caught and are still alive. -/
  caught : List Exc

inductive Program.Action where
  | operate (op : Operation)
  | consume (self : Connection) (tv : Option Timeval) (cbs : Callbacks)
  /-- The end of the `i`-th kept object. -/
  | dropKept (i : Nat)
  | dropCaught (i : Nat)

def Program.initial : Program := ⟨.initial, []⟩

/-- The exception that leaves a call, if one does. -/
def thrownBy : Outcome Exc Bool → List Exc
  | .thrown e => [e]
  | _ => []

/-- The world before the destructor of a kept object: it is not kept any more, and the
end of its life is noted. -/
def World.takeOut (w : World) (i : Nat) (k : Kept) : World :=
  { w.tell (.lifeEnds (w.intact k.strings)) with kept := w.kept.eraseIdx i }

section Step

variable [Library]

/-- A consume call; the program goes on with its exception caught. -/
def Program.consume (self : Connection) (tv : Option Timeval) (cbs : Callbacks) (p : Program) :
    Option Program :=
  match (self.consumeWith tv cbs).run p.world with
  | (.terminate, _) => none
  | (o, w) => some ⟨w, p.caught ++ thrownBy o⟩

/-- One step; `none` when the program ends, or has no such object. -/
def Program.step : Program.Action → Program → Option Program
  | .operate op, p => (op.step p.world).map fun w => { p with world := w }
  | .consume self tv cbs, p => p.consume self tv cbs
  | .dropKept i, p =>
      p.world.kept[i]?.map fun k => { p with world := (k.destroy.run (p.world.takeOut i k)).2 }
  | .dropCaught i, p => p.caught[i]?.map fun _ => { p with caught := p.caught.eraseIdx i }

end Step

/-! ## What a consume call settles -/

namespace Holdings

/-- After the structure `s` was disposed of. -/
def disposing (v : Holdings) (s : Structure) : Holdings :=
  { v with freed := fun i => if i = s.ident then true else v.freed i
           disposed := v.disposed ++ [s] }

/-- After the object `k` was handed to a callback: it is kept on, or its life ended. -/
def handedOn (v : Holdings) (keeps : Bool) (k : Kept) (intact : Bool) : Holdings :=
  if keeps then { v with kept := v.kept ++ [k] }
  else { v with ends := v.ends ++ [intact] }.disposing k.struct

/-- After the scope of the local envelope. -/
def settled (v : Holdings) (cbs : Callbacks) (memory : AmqpEnvelope) (intact : Bool) :
    Item → Holdings
  | .nothing | .acknowledge _ | .failed _ => v.disposing (.envelope memory.ident)
  | .envelope => v.handedOn cbs.envelope.keeps (.envelope (AMQPStruct.make memory)) intact
  | .returned r =>
      (v.handedOn cbs.returned.keeps (.returned r) intact).disposing (.envelope memory.ident)
  | .unreadable message _ =>
      (v.disposing (.message message.memory_.ident)).disposing (.envelope memory.ident)

section Lemmas

variable {v : Holdings} {keeps intact : Bool} {k : Kept}

@[simp] theorem handedOn_kept :
    (v.handedOn keeps k intact).kept = v.kept ++ if keeps then [k] else [] := by
  cases keeps with
  | true => rfl
  | false => exact (List.append_nil _).symm

@[simp] theorem handedOn_nextIdent : (v.handedOn keeps k intact).nextIdent = v.nextIdent := by
  cases keeps <;> rfl

end Lemmas

end Holdings

/-- From `w` to `w'` nothing happened to memory but that pools were recycled. -/
structure World.Recycles (w w' : World) : Prop where
  same : w'.holdings = { w.holdings with recycled := w'.holdings.recycled }
  grows (h : Handle) (channel : ChannelId) :
    w.holdings.recycled h channel ≤ w'.holdings.recycled h channel

namespace World.Recycles

theorem rfl' (w : World) : w.Recycles w := ⟨rfl, fun _ _ => Nat.le_refl _⟩

theorem trans {u v w : World} (huv : u.Recycles v) (hvw : v.Recycles w) : u.Recycles w := by
  refine ⟨?_, fun h channel => Nat.le_trans (huv.grows h channel) (hvw.grows h channel)⟩
  rw [hvw.same, huv.same]

end World.Recycles

section Recycles

variable [Library] {w w' : World}

theorem step_recycles {op : Operation} (hstep : op.step w = some w') : w.Recycles w' := by
  have hholdings := step_holdings hstep
  cases hr : op.release w with
  | none =>
      rw [hr] at hholdings
      have hsame : w'.holdings = w.holdings := hholdings
      exact ⟨by rw [hsame], fun h channel => Nat.le_of_eq (by rw [hsame])⟩
  | some r =>
      rw [hr] at hholdings
      have hreleased : w'.holdings = w.holdings.released r := hholdings
      refine ⟨by rw [hreleased]; rfl, fun h channel => ?_⟩
      rw [hreleased]
      exact r.le_recycle _ h channel

theorem runOps_recycles {ops : List Operation} (hops : runOps ops w = some w') :
    w.Recycles w' := by
  induction ops generalizing w with
  | nil =>
      cases hops
      exact .rfl' _
  | cons op ops ih =>
      obtain ⟨w₁, hstep, hrest⟩ := Option.bind_eq_some_iff.mp hops
      exact (step_recycles hstep).trans (ih hrest)

end Recycles

/-! ### The scope of a call -/

section Dispatch

variable {w w' : World}

/-- A structure is disposed of, by the entry `e` of the log. -/
theorem holdings_disposing {e : Event} {s : Structure} (hdisposed : e.disposed = some s)
    (hend : e.lifeEnd = none) (w : World) :
    ({ w.tell e with freed := fun i => if i = s.ident then true else w.freed i } : World).holdings =
      w.holdings.disposing s := by
  unfold World.holdings Holdings.disposing
  simp [World.tell, List.filterMap_append, hdisposed, hend]

theorem holdings_envelopeDestroyed (w : World) (ident : Nat) :
    (w.envelopeDestroyed ident).holdings = w.holdings.disposing (.envelope ident) :=
  holdings_disposing (e := .destroyEnvelope ident) rfl rfl w

theorem holdings_messageDestroyed (w : World) (ident : Nat) :
    (w.messageDestroyed ident).holdings = w.holdings.disposing (.message ident) :=
  holdings_disposing (e := .destroyMessage ident) rfl rfl w

theorem holdings_lifeEnds (w : World) (intact : Bool) :
    (w.tell (.lifeEnds intact)).holdings =
      { w.holdings with ends := w.holdings.ends ++ [intact] } := by
  unfold World.holdings
  rw [World.tell_log, List.filterMap_append, List.filterMap_append]
  simp only [List.filterMap_cons, List.filterMap_nil, Event.lifeEnd, Event.disposed,
    List.append_nil]
  rfl

/-- Moving an object keeps it, and does nothing else. -/
theorem moveOn_holdings {O : Type} (script : Script) (P : Passed O) (o : O) (w : World) :
    (script.moveOn P o w).holdings = { w.holdings with kept := (script.moveOn P o w).kept } := by
  rw [Script.moveOn]
  split <;> rfl

variable [Library]

/-- What a script leaves of the object it is given: in the world `wa` after the last
operation, which only recycled pools, it is kept or its life ends. -/
theorem final_holdings {O : Type} {P : Passed O} {script : Script} {o : O}
    (hdisposed : ∀ u, (P.disposed o u).holdings = u.holdings.disposing (P.keep o).struct)
    (hfinal : script.final P o w = some w') :
    ∃ wb wa, runOps script.before w = some wb ∧
      runOps script.after (script.moveOn P o wb) = some wa ∧
      wa.holdings.recycled = w'.holdings.recycled ∧
      w'.holdings = { w.holdings with recycled := wa.holdings.recycled }.handedOn script.keeps
        (P.keep o) (wa.intact (P.strings o)) := by
  obtain ⟨wb, hbefore, hrest⟩ := Option.bind_eq_some_iff.mp hfinal
  obtain ⟨wa, hafter, hend⟩ := Option.map_eq_some_iff.mp hrest
  have hb := (runOps_recycles hbefore).same
  have ha := (runOps_recycles hafter).same
  unfold Script.moveOn at ha
  unfold Script.endLife at hend
  unfold Holdings.handedOn
  cases hk : script.keeps with
  | true =>
      rw [hk, if_pos rfl] at ha hend
      subst hend
      refine ⟨wb, wa, hbefore, hafter, rfl, ?_⟩
      have hmoved : World.holdings { wb with kept := wb.kept ++ [P.keep o] } =
          { wb.holdings with kept := wb.kept ++ [P.keep o] } := rfl
      have hkept : wb.kept = w.kept := congrArg Holdings.kept hb
      rw [hmoved, hb, hkept] at ha
      exact ha
  | false =>
      rw [hk, if_neg (by nofun)] at ha hend
      have hw' : w'.holdings = Holdings.disposing
          { { w.holdings with recycled := wa.holdings.recycled } with
            ends := w.holdings.ends ++ [wa.intact (P.strings o)] } (P.keep o).struct := by
        rw [← hend, hdisposed, holdings_lifeEnds, ha, hb]
      refine ⟨wb, wa, hbefore, hafter, ?_, hw'⟩
      rw [hw']
      rfl

/-- A call settles the structures it created, and recycles pools. -/
theorem dispatched_holdings {cbs : Callbacks} {memory : AmqpEnvelope} {item : Item}
    {o : Outcome Exc Bool} (hd : cbs.dispatched memory item w = some (o, w')) :
    ∃ intact, w'.holdings =
      { w.holdings with recycled := w'.holdings.recycled }.settled cbs memory intact item := by
  cases item with
  | nothing =>
      cases hd
      exact ⟨true, holdings_envelopeDestroyed _ _⟩
  | failed e =>
      cases hd
      exact ⟨true, holdings_envelopeDestroyed _ _⟩
  | unreadable message e =>
      cases hd
      refine ⟨true, ?_⟩
      rw [holdings_envelopeDestroyed, holdings_messageDestroyed]
      rfl
  | acknowledge decoded =>
      obtain ⟨wa, hops, hw⟩ := Option.map_eq_some_iff.mp hd
      cases hw
      refine ⟨true, ?_⟩
      rw [holdings_envelopeDestroyed, (runOps_recycles hops).same]
      rfl
  | envelope =>
      obtain ⟨wa, hfinal, hw⟩ := Option.map_eq_some_iff.mp hd
      cases hw
      obtain ⟨wb, wa, -, -, hrecycled, hw⟩ :=
        final_holdings (fun u => holdings_envelopeDestroyed u memory.ident) hfinal
      rw [hrecycled] at hw
      exact ⟨_, hw⟩
  | returned r =>
      obtain ⟨w₂, hfinal, hw⟩ := Option.map_eq_some_iff.mp hd
      cases hw
      obtain ⟨wb, wa, -, -, hrecycled, hw⟩ :=
        final_holdings (fun u => holdings_messageDestroyed u r.message_.memory_.ident) hfinal
      rw [hrecycled] at hw
      exact ⟨_, (holdings_envelopeDestroyed _ _).trans
        (congrArg (Holdings.disposing · (.envelope memory.ident)) hw)⟩

/-- And what else it does to pools is to recycle them. -/
theorem dispatched_grows {cbs : Callbacks} {memory : AmqpEnvelope} {item : Item}
    {o : Outcome Exc Bool} (hd : cbs.dispatched memory item w = some (o, w')) (h : Handle)
    (channel : ChannelId) : w.holdings.recycled h channel ≤ w'.holdings.recycled h channel := by
  have hfinal {O : Type} {P : Passed O} {script : Script} {v : O} {w₂ : World}
      (hdisposed : ∀ u, (P.disposed v u).holdings = u.holdings.disposing (P.keep v).struct)
      (hw₂ : script.final P v w = some w₂) :
      w.holdings.recycled h channel ≤ w₂.holdings.recycled h channel := by
    obtain ⟨wb, wa, hbefore, hafter, hrecycled, -⟩ := final_holdings hdisposed hw₂
    have hmoved : (script.moveOn P v wb).holdings.recycled = wb.holdings.recycled := by
      rw [moveOn_holdings]
    have hle := (runOps_recycles hbefore).grows h channel
    have hle' := (runOps_recycles hafter).grows h channel
    rw [hmoved, hrecycled] at hle'
    exact Nat.le_trans hle hle'
  cases item with
  | nothing | failed _ | unreadable _ _ =>
      cases hd
      exact Nat.le_refl _
  | acknowledge decoded =>
      obtain ⟨wa, hops, hw⟩ := Option.map_eq_some_iff.mp hd
      cases hw
      exact (runOps_recycles hops).grows h channel
  | envelope =>
      obtain ⟨wa, hw₂, hw⟩ := Option.map_eq_some_iff.mp hd
      cases hw
      exact hfinal (fun u => holdings_envelopeDestroyed u memory.ident) hw₂
  | returned r =>
      obtain ⟨w₂, hw₂, hw⟩ := Option.map_eq_some_iff.mp hd
      cases hw
      have hgrows : w.holdings.recycled h channel ≤ w₂.holdings.recycled h channel :=
        hfinal (fun u => holdings_messageDestroyed u r.message_.memory_.ident) hw₂
      exact hgrows

end Dispatch

/-- The objects that a call keeps on. -/
def Callbacks.keptOn (cbs : Callbacks) (memory : AmqpEnvelope) : Item → List Kept
  | .envelope => if cbs.envelope.keeps then [.envelope (AMQPStruct.make memory)] else []
  | .returned r => if cbs.returned.keeps then [.returned r] else []
  | .nothing | .acknowledge _ | .failed _ | .unreadable _ _ => []

theorem settled_kept (v : Holdings) (cbs : Callbacks) (memory : AmqpEnvelope) (intact : Bool)
    (item : Item) :
    (v.settled cbs memory intact item).kept = v.kept ++ cbs.keptOn memory item := by
  cases item with
  | nothing | acknowledge _ | failed _ | unreadable _ _ => exact (List.append_nil _).symm
  | envelope => exact Holdings.handedOn_kept
  | returned r => exact Holdings.handedOn_kept

/-! ## Kept objects own different structures -/

/-- The kept objects own different structures, which were created and not freed. -/
structure Holdings.Tidy (v : Holdings) : Prop where
  fits (k : Kept) : k ∈ v.kept → k.Fits
  below (k : Kept) : k ∈ v.kept → k.struct.ident < v.nextIdent
  unfreed (k : Kept) : k ∈ v.kept → v.freed k.struct.ident = false
  nodup : (v.kept.map fun k => k.struct.ident).Nodup

namespace Holdings.Tidy

variable {v : Holdings}

theorem recycled (h : v.Tidy) (r : Handle → ChannelId → Nat) :
    ({ v with recycled := r } : Holdings).Tidy :=
  ⟨h.fits, h.below, h.unfreed, h.nodup⟩

/-- Disposing of a structure that no kept object owns. -/
theorem disposing (h : v.Tidy) {s : Structure} (hs : ∀ k ∈ v.kept, k.struct.ident ≠ s.ident) :
    (v.disposing s).Tidy := by
  refine ⟨h.fits, h.below, fun k hk => ?_, h.nodup⟩
  show (if k.struct.ident = s.ident then true else v.freed k.struct.ident) = false
  rw [if_neg (hs k hk)]
  exact h.unfreed k hk

/-- Keeping one more object, with a structure of its own. -/
theorem keep (h : v.Tidy) {k : Kept} (hfits : k.Fits) (hbelow : k.struct.ident < v.nextIdent)
    (hunfreed : v.freed k.struct.ident = false)
    (hk : ∀ k' ∈ v.kept, k'.struct.ident ≠ k.struct.ident) :
    ({ v with kept := v.kept ++ [k] } : Holdings).Tidy := by
  refine ⟨?_, ?_, ?_, ?_⟩
  · intro k' hk'
    rcases List.mem_append.mp hk' with hk' | hk'
    · exact h.fits k' hk'
    · rwa [List.mem_singleton.mp hk']
  · intro k' hk'
    rcases List.mem_append.mp hk' with hk' | hk'
    · exact h.below k' hk'
    · rwa [List.mem_singleton.mp hk']
  · intro k' hk'
    rcases List.mem_append.mp hk' with hk' | hk'
    · exact h.unfreed k' hk'
    · rwa [List.mem_singleton.mp hk']
  · rw [List.map_append, List.map_singleton]
    refine List.nodup_append.mpr ⟨h.nodup, List.pairwise_singleton _ _, ?_⟩
    intro i hi j hj
    obtain ⟨k', hk', rfl⟩ := List.mem_map.mp hi
    rw [List.mem_singleton.mp hj]
    exact hk k' hk'

/-- Handing an object to a callback. -/
theorem handedOn (h : v.Tidy) {keeps : Bool} {k : Kept} {intact : Bool} (hfits : k.Fits)
    (hbelow : k.struct.ident < v.nextIdent) (hunfreed : v.freed k.struct.ident = false)
    (hk : ∀ k' ∈ v.kept, k'.struct.ident ≠ k.struct.ident) :
    (v.handedOn keeps k intact).Tidy := by
  cases keeps with
  | true => exact h.keep hfits hbelow hunfreed hk
  | false =>
      have hends : ({ v with ends := v.ends ++ [intact] } : Holdings).Tidy :=
        ⟨h.fits, h.below, h.unfreed, h.nodup⟩
      exact hends.disposing hk

/-- Taking one object out, and disposing of its structure. -/
theorem takeOut (h : v.Tidy) {i : Nat} {k : Kept} (hi : v.kept[i]? = some k) (ends : List Bool) :
    (({ v with kept := v.kept.eraseIdx i, ends := ends } : Holdings).disposing k.struct).Tidy := by
  have hmem {k' : Kept} (hk' : k' ∈ v.kept.eraseIdx i) : k' ∈ v.kept := List.mem_of_mem_eraseIdx hk'
  have htidy : ({ v with kept := v.kept.eraseIdx i, ends := ends } : Holdings).Tidy := by
    refine ⟨fun k' hk' => h.fits k' (hmem hk'), fun k' hk' => h.below k' (hmem hk'),
      fun k' hk' => h.unfreed k' (hmem hk'), ?_⟩
    exact h.nodup.sublist ((List.eraseIdx_sublist _ _).map _)
  refine htidy.disposing fun k' hk' heq => ?_
  obtain ⟨j, hji, hj⟩ := List.mem_eraseIdx_iff_getElem?.mp hk'
  have hi' : (v.kept.map fun k => k.struct.ident)[i]? = some k.struct.ident := by
    rw [List.getElem?_map, hi, Option.map_some]
  have hj' : (v.kept.map fun k => k.struct.ident)[j]? = some k.struct.ident := by
    rw [List.getElem?_map, hj, Option.map_some, heq]
  obtain ⟨hlt, -⟩ := List.getElem?_eq_some_iff.mp hj'
  exact hji ((List.getElem?_inj hlt h.nodup).mp (hj'.trans hi'.symm))

end Holdings.Tidy

/-! ### The objects of a consume call -/

theorem fits_envelope (contents : EnvelopeContents) (ident : Nat) :
    (Kept.envelope (AMQPStruct.make (contents.fill ident))).Fits := by
  refine ⟨rfl, fun s i hs hown => ?_⟩
  have hmem : s.mem = .own ident := by
    rcases hs with _ | ⟨_, _ | ⟨_, _ | ⟨_, _ | ⟨_, hs⟩⟩⟩⟩
    · rfl
    · rfl
    · rfl
    · rfl
    · obtain ⟨p, -, rfl⟩ := List.mem_map.mp hs
      rfl
  rw [hmem] at hown
  exact (Region.own.inj hown).symm

theorem fits_returned {r : ReturnedMessage} {contents : MessageContents} {ident : Nat}
    (hmessage : r.message_ = AMQPStruct.make (contents.fill ident))
    (hmethod : ∀ s ∈ r.method_.strings, ∃ ref, s.mem = .pool ref) : (Kept.returned r).Fits := by
  refine ⟨?_, fun s i hs hown => ?_⟩
  · rw [Kept.owned, Kept.struct, hmessage]
    rfl
  · show i = r.message_.memory_.ident
    rcases List.mem_append.mp hs with hs | hs
    · rw [hmessage] at hs ⊢
      have hmem : s.mem = .own ident := by
        rcases hs with _ | ⟨_, hs⟩
        · rfl
        · obtain ⟨p, -, rfl⟩ := List.mem_map.mp hs
          rfl
      rw [hmem] at hown
      exact (Region.own.inj hown).symm
    · obtain ⟨ref, hpool⟩ := hmethod s hs
      rw [hpool] at hown
      cases hown

/-- Waiting leaves no trace in what was handed out, but new structures. -/
theorem waits_holdings {w w' : World} (h : w.Waits w') :
    w'.holdings = { w.holdings with nextIdent := w'.nextIdent, freed := w'.freed } := by
  obtain ⟨es, hlog, hwait⟩ := h.log
  have hends : es.filterMap Event.lifeEnd = [] := by
    refine List.filterMap_eq_nil_iff.mpr fun e he => ?_
    obtain ⟨f, state, args, rfl⟩ := (hwait e he).call
    rfl
  have hdisposed : es.filterMap Event.disposed = [] := by
    refine List.filterMap_eq_nil_iff.mpr fun e he => ?_
    obtain ⟨f, state, args, rfl⟩ := (hwait e he).call
    rfl
  unfold World.holdings
  rw [hlog, List.filterMap_append, List.filterMap_append, hends, hdisposed, List.append_nil,
    List.append_nil, h.kept, funext h.recycled]

theorem waits_tidy {w w' : World} (h : w.Waits w') (htidy : w.holdings.Tidy) :
    w'.holdings.Tidy := by
  rw [waits_holdings h]
  refine ⟨htidy.fits, fun k hk => ?_, fun k hk => ?_, htidy.nodup⟩
  · exact Nat.lt_of_lt_of_le (htidy.below k hk) h.created
  · exact (h.freed _ (htidy.below k hk)).trans (htidy.unfreed k hk)

/-- A returned message's method lies in a pool. -/
theorem Item.Fits.method {h : Handle} {first : Nat} {w : World} {r : ReturnedMessage}
    (hfits : (Item.returned r).Fits h first w) :
    ∃ channel, ∀ s ∈ r.method_.strings, s.mem = .pool ((w.conns h).ref h channel) := by
  obtain ⟨-, -, channel, d, hd⟩ := hfits
  refine ⟨channel, fun s hs => ?_⟩
  rw [hd] at hs
  rcases hs with _ | ⟨_, _ | ⟨_, _ | ⟨_, hs⟩⟩⟩
  · rfl
  · rfl
  · rfl
  · cases hs

/-- What a call settles keeps the objects of earlier calls apart from its own. -/
theorem settled_tidy {cbs : Callbacks} {contents : EnvelopeContents} {intact : Bool}
    {item : Item} {h : Handle} {first : Nat} {w : World} (hfits : item.Fits h first w)
    {v : Holdings} (htidy : v.Tidy) (hnext : v.nextIdent = w.nextIdent)
    (hold : ∀ k ∈ v.kept, k.struct.ident < first)
    (hfresh : ∀ i, first ≤ i → i < w.nextIdent → v.freed i = false) :
    (v.settled cbs (contents.fill first) intact item).Tidy := by
  have hfirst (k : Kept) (hk : k ∈ v.kept) : k.struct.ident ≠ first := Nat.ne_of_lt (hold k hk)
  have hsecond (k : Kept) (hk : k ∈ v.kept) : k.struct.ident ≠ first + 1 :=
    Nat.ne_of_lt (Nat.lt_succ_of_lt (hold k hk))
  cases item with
  | nothing | acknowledge _ | failed _ => exact htidy.disposing hfirst
  | envelope =>
      have hident : w.nextIdent = first + 1 := hfits
      have hlt : first < w.nextIdent := by omega
      exact htidy.handedOn (fits_envelope contents first) (hnext ▸ hlt)
        (hfresh first (Nat.le_refl _) hlt) hfirst
  | returned r =>
      obtain ⟨channel, hmethod⟩ := hfits.method
      obtain ⟨hident, ⟨message, hmessage⟩, -⟩ := hfits
      have hlt : first + 1 < w.nextIdent := by omega
      have hstruct : (Kept.returned r).struct.ident = first + 1 := by
        show r.message_.memory_.ident = _
        rw [hmessage]
        rfl
      have hhanded : (v.handedOn cbs.returned.keeps (.returned r) intact).Tidy := by
        refine htidy.handedOn (fits_returned hmessage fun s hs => ⟨_, hmethod s hs⟩) ?_ ?_ ?_
        · rw [hstruct, hnext]
          exact hlt
        · rw [hstruct]
          exact hfresh _ (Nat.le_succ _) hlt
        · rw [hstruct]
          exact hsecond
      refine hhanded.disposing fun k hk => ?_
      show k.struct.ident ≠ first
      rw [Holdings.handedOn_kept] at hk
      rcases List.mem_append.mp hk with hk | hk
      · exact hfirst k hk
      · split at hk
        · rw [List.mem_singleton.mp hk, hstruct]
          exact Nat.succ_ne_self _
        · exact (List.not_mem_nil hk).elim
  | unreadable message e =>
      obtain ⟨hident, ⟨contents', rfl⟩, -⟩ := hfits
      have hmessage : (v.disposing (.message (first + 1))).Tidy := htidy.disposing hsecond
      exact hmessage.disposing hfirst

theorem holdings_released (w : World) (h : Handle) :
    (w.released h).holdings = w.holdings.released ⟨h, fun _ => true, (w.conns h).queued⟩ := by
  refine (World.holdings_recycle _ h (fun _ => true)).trans ?_
  exact congrArg (Holdings.released · _) (World.holdings_tell rfl rfl)

section Runs

variable [Library] {p p' : Program}

/-- One consume call of a program: what was received, what was dispatched, and then the
release. -/
theorem consume_step {self : Connection} {tv : Option Timeval} {cbs : Callbacks}
    (hstep : Program.step (.consume self tv cbs) p = some p') :
    ∃ (contents : EnvelopeContents) (item : Item) (w₁ w₂ : World) (o : Outcome Exc Bool),
      p.world.Waits w₁ ∧ item.Fits self.connection_ p.world.nextIdent w₁ ∧
      (self.receive tv).run p.world =
        (.ret (AMQPStruct.make (contents.fill p.world.nextIdent), item), w₁) ∧
      cbs.dispatched (contents.fill p.world.nextIdent) item w₁ = some (o, w₂) ∧
      p' = ⟨w₂.released self.connection_, p.caught ++ thrownBy o⟩ := by
  obtain ⟨contents, item, w₁, hwaits, hfits, hreceive, hrun⟩ := @consume_run _ self tv cbs p.world
  cases hd : cbs.dispatched (contents.fill p.world.nextIdent) item w₁ with
  | none =>
      rw [hd] at hrun
      have hrun : ((self.consumeWith tv cbs).run p.world).1 = .terminate := hrun
      have hstep : p.consume self tv cbs = some p' := hstep
      unfold Program.consume at hstep
      match hr : (self.consumeWith tv cbs).run p.world with
      | (.ret _, _) | (.thrown _, _) =>
          rw [hr] at hrun
          cases hrun
      | (.terminate, _) =>
          rw [hr] at hstep
          cases hstep
  | some result =>
      obtain ⟨o, w₂⟩ := result
      rw [hd] at hrun
      obtain ⟨ho, hrun⟩ := hrun
      refine ⟨contents, item, w₁, w₂, o, hwaits, hfits, hreceive, hd, ?_⟩
      have hstep : p.consume self tv cbs = some p' := hstep
      unfold Program.consume at hstep
      rw [hrun] at hstep
      cases o with
      | ret _ | thrown _ =>
          cases hstep
          rfl
      | terminate => exact absurd rfl ho

/-- The end of a kept object. -/
theorem dropKept_step {i : Nat} (htidy : p.world.holdings.Tidy)
    (hstep : Program.step (.dropKept i) p = some p') :
    ∃ k, p.world.kept[i]? = some k ∧ p'.caught = p.caught ∧ p'.world.conns = p.world.conns ∧
      p'.world.holdings = Holdings.disposing
        { p.world.holdings with
          kept := p.world.kept.eraseIdx i
          ends := p.world.holdings.ends ++ [p.world.intact k.strings] } k.struct := by
  obtain ⟨k, hk, rfl⟩ := Option.map_eq_some_iff.mp hstep
  refine ⟨k, hk, rfl, ?_⟩
  have howns := (htidy.fits k (List.mem_of_getElem? hk)).owns
  have htaken : (p.world.takeOut i k).holdings =
      { p.world.holdings with
        kept := p.world.kept.eraseIdx i
        ends := p.world.holdings.ends ++ [p.world.intact k.strings] } := by
    have htell := holdings_lifeEnds p.world (p.world.intact k.strings)
    show ({ (p.world.tell (.lifeEnds (p.world.intact k.strings))).holdings with
      kept := p.world.kept.eraseIdx i } : Holdings) = _
    rw [htell]
  cases k with
  | envelope e =>
      obtain ⟨memory, moved⟩ := e
      cases moved with
      | true => cases howns
      | false =>
          refine ⟨rfl, (holdings_envelopeDestroyed _ memory.ident).trans ?_⟩
          rw [htaken]
          rfl
  | returned r =>
      obtain ⟨⟨memory, moved⟩, method⟩ := r
      cases moved with
      | true => cases howns
      | false =>
          refine ⟨rfl, (holdings_messageDestroyed _ memory.ident).trans ?_⟩
          rw [htaken]
          rfl

omit [Library] in
theorem initial_tidy : Program.initial.world.holdings.Tidy :=
  ⟨(fun _ hk => nomatch hk), (fun _ hk => nomatch hk), (fun _ hk => nomatch hk),
    List.Pairwise.nil⟩

/-- One step keeps the kept objects apart. -/
theorem step_tidy {a : Program.Action} (htidy : p.world.holdings.Tidy)
    (hstep : Program.step a p = some p') : p'.world.holdings.Tidy := by
  cases a with
  | operate op =>
      obtain ⟨w', hop, rfl⟩ := Option.map_eq_some_iff.mp hstep
      show w'.holdings.Tidy
      rw [(step_recycles hop).same]
      exact htidy.recycled _
  | consume self tv cbs =>
      obtain ⟨contents, item, w₁, w₂, o, hwaits, hfits, -, hd, rfl⟩ := consume_step hstep
      obtain ⟨intact, hsettled⟩ := dispatched_holdings hd
      show (w₂.released self.connection_).holdings.Tidy
      rw [holdings_released]
      refine Holdings.Tidy.recycled ?_ _
      rw [hsettled]
      refine settled_tidy hfits ((waits_tidy hwaits htidy).recycled _) rfl ?_ ?_
      · intro k hk
        rw [waits_holdings hwaits] at hk
        exact htidy.below k hk
      · exact hwaits.fresh
  | dropKept i =>
      obtain ⟨k, hk, -, -, hdropped⟩ := dropKept_step htidy hstep
      rw [hdropped]
      exact htidy.takeOut hk _
  | dropCaught i =>
      obtain ⟨e, -, rfl⟩ := Option.map_eq_some_iff.mp hstep
      exact htidy

end Runs

end RmqCxx
