/-
# `RmqCxx.HandedOut` — does what consume hands out outlive its memory?

The byte strings of messages and envelopes are in memory of their own.  The method of
a returned message, and the methods in the exceptions of `consumeImpl`, are not: they
stay in the pool of the frame's channel, and `consumeImpl` itself releases the
buffers when it is left, as every operation on the channel does.  So they are intact
as long as their objects live exactly when every release finds a frame queued for
the channels in whose pools something alive lies (`intact_iff_spared`).
-/
import RmqCxx.Programs

namespace RmqCxx

open Cpp Code

/-! ## What is reachable -/

/-- The pool that a byte string is in, if it is in one. -/
def Region.pool? : Region → Option PoolRef
  | .pool ref => some ref
  | .own _ => none

def poolRefs (strings : List Bytes) : List PoolRef := strings.filterMap fun s => s.mem.pool?

/-- The pools of the methods that can be reached from an exception. -/
def Exc.refs (e : Exc) : List PoolRef := e.methods.map Method.mem

/-- The pools reachable from the objects and exceptions that are alive. -/
def Program.refs (p : Program) : List PoolRef :=
  p.world.kept.flatMap (fun k => poolRefs k.strings) ++ p.caught.flatMap Exc.refs

/-- The pools reachable from what a call hands to its callback or throws. -/
def Item.refs : Item → List PoolRef
  | .nothing | .envelope | .acknowledge _ => []
  | .returned r => poolRefs r.strings
  | .failed e | .unreadable _ e => e.refs

/-- Those that can still be reached when the call is over. -/
def Callbacks.left (cbs : Callbacks) : Item → List PoolRef
  | .returned r => if cbs.returned.keeps then poolRefs r.strings else []
  | .failed e | .unreadable _ e => e.refs
  | .nothing | .envelope | .acknowledge _ => []

/-- Nothing that was handed out has lost its memory: no object at the end of its life,
no kept object, no caught exception. -/
structure Program.Intact (p : Program) : Prop where
  ended (intact : Bool) : .lifeEnds intact ∈ p.world.log → intact = true
  kept (k : Kept) : k ∈ p.world.kept → p.world.intact k.strings = true
  caught (e : Exc) (m : Method) : e ∈ p.caught → m ∈ e.methods → p.world.poolAlive m.mem = true

/-! ## When releases spare it -/

section Spares

variable [Library]

/-- The operations, from `w` on, leave the pools alone. -/
def OpsSpare (refs : List PoolRef) (ops : List Operation) (w : World) : Prop :=
  Along Operation.step (Operation.Spares refs) w ops

def Script.Spares {O : Type} (script : Script) (P : Passed O) (o : O) (refs : List PoolRef)
    (w : World) : Prop :=
  OpsSpare refs script.before w ∧
    ∀ w', runOps script.before w = some w' →
      OpsSpare refs script.after (script.moveOn P o w')

/-- The operations of the callback leave the pools alone. -/
def Callbacks.Spares (cbs : Callbacks) (memory : AmqpEnvelope) (item : Item)
    (refs : List PoolRef) (w : World) : Prop :=
  match item with
  | .envelope => cbs.envelope.Spares Envelope.passed (AMQPStruct.make memory) refs w
  | .returned r => cbs.returned.Spares ReturnedMessage.passed r refs w
  | .acknowledge _ => OpsSpare refs cbs.acknowledgeOps w
  | .nothing | .failed _ | .unreadable _ _ => True

/-- Every release of the step finds frames queued for the channels in whose pools
something alive lies: the releases of operations, and the one on the way out of a
consume call. -/
def Program.Action.Spares (a : Program.Action) (p : Program) : Prop :=
  match a with
  | .operate op => op.Spares p.refs p.world
  | .consume self tv cbs =>
      ∀ envelope item w, (self.receive tv).run p.world = (.ret (envelope, item), w) →
        cbs.Spares envelope.memory_ item (p.refs ++ item.refs) w ∧
        ∀ o w', cbs.dispatched envelope.memory_ item w = some (o, w') →
          ∀ ref ∈ p.refs ++ cbs.left item, ref.handle = self.connection_ →
            ref.channel ∈ (w'.conns self.connection_).queued
  | .dropKept _ | .dropCaught _ => True

end Spares

/-! ## Pools under releases -/

namespace World

variable {u v w : World} {refs refs' : List PoolRef}

theorem holds_append : w.Holds (refs ++ refs') ↔ w.Holds refs ∧ w.Holds refs' :=
  List.forall_mem_append

/-- Pools that are there before and after were there in between. -/
theorem Holds.between
    (huv : ∀ h channel, u.holdings.recycled h channel ≤ v.holdings.recycled h channel)
    (hvw : ∀ h channel, v.holdings.recycled h channel ≤ w.holdings.recycled h channel)
    (hu : u.Holds refs) (hw : w.Holds refs) : v.Holds refs := by
  intro ref href
  have hfirst := poolAlive_iff.mp (hu ref href)
  have hlast := poolAlive_iff.mp (hw ref href)
  have hle := huv ref.handle ref.channel
  have hle' := hvw ref.handle ref.channel
  refine poolAlive_iff.mpr ?_
  omega

theorem holds_congr (h : v.holdings.recycled = w.holdings.recycled) :
    v.Holds refs ↔ w.Holds refs := by
  unfold Holds
  simp only [poolAlive_iff, h]

/-- A release keeps exactly the pools that it spares. -/
theorem holds_released_iff {r : Release}
    (hr : w.holdings.recycled = r.recycle v.holdings.recycled) (hv : v.Holds refs) :
    w.Holds refs ↔ ∀ ref ∈ refs, r.Spares ref := by
  refine forall_congr' fun ref => forall_congr' fun href => ?_
  rw [poolAlive_iff, hr, ← r.recycle_eq_iff v.holdings.recycled ref,
    ← poolAlive_iff.mp (hv ref href)]

end World

section Operations

variable [Library] {w w' : World} {refs : List PoolRef}

theorem step_holds_iff {op : Operation} (hstep : op.step w = some w') (hw : w.Holds refs) :
    w'.Holds refs ↔ op.Spares refs w := by
  have hholdings := step_holdings hstep
  unfold Operation.Spares
  cases hr : op.release w with
  | none =>
      rw [hr] at hholdings
      have hsame : w'.holdings = w.holdings := hholdings
      exact iff_of_true ((World.holds_congr (congrArg Holdings.recycled hsame)).mpr hw)
        (fun r h => nomatch h)
  | some r =>
      rw [hr] at hholdings
      rw [World.holds_released_iff (congrArg Holdings.recycled hholdings) hw]
      constructor
      · intro h r' hr'
        cases hr'
        exact h
      · intro h
        exact h r rfl

/-- A sequence of operations keeps the pools exactly when each operation spares them. -/
theorem runOps_holds_iff {ops : List Operation} (hops : runOps ops w = some w')
    (hw : w.Holds refs) : w'.Holds refs ↔ OpsSpare refs ops w := by
  induction ops generalizing w with
  | nil =>
      cases hops
      exact iff_of_true hw trivial
  | cons op ops ih =>
      obtain ⟨w₁, hstep, hrest⟩ := Option.bind_eq_some_iff.mp hops
      constructor
      · intro hw' t ht
        rw [hstep] at ht
        cases ht
        have hw₁ := hw.between (step_recycles hstep).grows (runOps_recycles hrest).grows hw'
        exact ⟨(step_holds_iff hstep hw).mp hw₁, (ih hrest hw₁).mp hw'⟩
      · intro hspare
        obtain ⟨hfirst, hrests⟩ := hspare w₁ hstep
        exact (ih hrest ((step_holds_iff hstep hw).mpr hfirst)).mpr hrests

end Operations

/-! ## One object -/

/-- Strings whose structures are there are intact if their pools are. -/
theorem intact_iff {w : World} {strings : List Bytes}
    (hown : ∀ s ∈ strings, ∀ ident, s.mem = .own ident → w.freed ident = false) :
    w.intact strings = true ↔ w.Holds (poolRefs strings) := by
  unfold World.intact World.Holds poolRefs
  rw [List.all_eq_true]
  constructor
  · intro h ref href
    obtain ⟨s, hs, hpool⟩ := List.mem_filterMap.mp href
    have halive := h s hs
    cases hm : s.mem with
    | own ident =>
        rw [hm] at hpool
        cases hpool
    | pool ref' =>
        rw [hm] at hpool halive
        cases hpool
        exact halive
  · intro h s hs
    cases hm : s.mem with
    | own ident =>
        show (!w.freed ident) = true
        rw [hown s hs ident hm]
        rfl
    | pool ref =>
        exact h ref (List.mem_filterMap.mpr ⟨s, hs, by rw [hm]; rfl⟩)

section Object

variable [Library] {w w' : World} {refs : List PoolRef}

/-- An object that is handed to a script, and the other pools: all is intact in the end
if and only if the operations of the script spare it all. -/
theorem final_intact_iff {O : Type} {P : Passed O} {script : Script} {o : O}
    (hdisposed : ∀ u, (P.disposed o u).holdings = u.holdings.disposing (P.keep o).struct)
    (hown : ∀ s ∈ P.strings o, ∀ ident, s.mem = .own ident → w.freed ident = false)
    (hrefs : w.Holds (refs ++ poolRefs (P.strings o)))
    (hfinal : script.final P o w = some w') :
    ∃ ends, w'.holdings.ends = w.holdings.ends ++ ends ∧
      (((∀ intact ∈ ends, intact = true) ∧
          w'.Holds (refs ++ if script.keeps then poolRefs (P.strings o) else [])) ↔
        script.Spares P o (refs ++ poolRefs (P.strings o)) w) := by
  obtain ⟨wb, wa, hbefore, hafter, hrecycled, hw'⟩ := final_holdings hdisposed hfinal
  have hb := runOps_recycles hbefore
  have ha := runOps_recycles hafter
  have hmoved : (script.moveOn P o wb).holdings.recycled = wb.holdings.recycled := by
    rw [moveOn_holdings]
  -- all is there after the last operation exactly if the operations spare it
  have hspares : wa.Holds (refs ++ poolRefs (P.strings o)) ↔
      script.Spares P o (refs ++ poolRefs (P.strings o)) w := by
    constructor
    · intro hwa
      have hwb := hrefs.between hb.grows (fun h channel => hmoved ▸ ha.grows h channel) hwa
      refine ⟨(runOps_holds_iff hbefore hrefs).mp hwb, fun t ht => ?_⟩
      rw [hbefore] at ht
      cases ht
      exact (runOps_holds_iff hafter ((World.holds_congr hmoved).mpr hwb)).mp hwa
    · rintro ⟨hspare, hspare'⟩
      have hwb := (runOps_holds_iff hbefore hrefs).mpr hspare
      exact (runOps_holds_iff hafter ((World.holds_congr hmoved).mpr hwb)).mpr (hspare' wb hbefore)
  rw [← hspares, ← World.holds_congr hrecycled.symm]
  unfold Holdings.handedOn at hw'
  cases hk : script.keeps with
  | true =>
      rw [hk, if_pos rfl] at hw'
      refine ⟨[], by rw [hw', List.append_nil], ?_⟩
      rw [if_pos rfl]
      exact and_iff_right (fun _ h => nomatch h)
  | false =>
      rw [hk, if_neg (by nofun)] at hw'
      refine ⟨[wa.intact (P.strings o)], by rw [hw']; rfl, ?_⟩
      have hfreed : wa.freed = w.freed := by
        have hwa : wa.freed = (script.moveOn P o wb).freed := congrArg Holdings.freed ha.same
        have hwb : wb.freed = w.freed := congrArg Holdings.freed hb.same
        rw [hwa, ← hwb]
        show (script.moveOn P o wb).holdings.freed = wb.holdings.freed
        rw [moveOn_holdings]
      have hintact := intact_iff (w := wa) (fun s hs i hi => hfreed ▸ hown s hs i hi)
      rw [if_neg (by nofun), List.append_nil, World.holds_append, List.forall_mem_singleton,
        hintact, World.holds_congr hrecycled]
      exact and_comm

omit [Library] in
/-- The byte strings of an envelope are not in pools. -/
theorem poolRefs_envelope (contents : EnvelopeContents) (ident : Nat) :
    poolRefs (contents.fill ident).strings = [] := by
  refine List.filterMap_eq_nil_iff.mpr fun s hs => ?_
  rcases hs with _ | ⟨_, _ | ⟨_, _ | ⟨_, _ | ⟨_, hs⟩⟩⟩⟩
  · rfl
  · rfl
  · rfl
  · rfl
  · obtain ⟨p, -, rfl⟩ := List.mem_map.mp hs
    rfl

/-- All that a call hands out is intact in the end of its scope if and only if the
operations of the callback spare it. -/
theorem dispatched_intact_iff {cbs : Callbacks} {contents : EnvelopeContents} {item : Item}
    {h : Handle} {first : Nat} {o : Outcome Exc Bool} (hfits : item.Fits h first w)
    (hfresh : ∀ i, first ≤ i → i < w.nextIdent → w.freed i = false)
    (hrefs : w.Holds (refs ++ item.refs))
    (hd : cbs.dispatched (contents.fill first) item w = some (o, w')) :
    ∃ ends, w'.holdings.ends = w.holdings.ends ++ ends ∧
      (((∀ intact ∈ ends, intact = true) ∧ w'.Holds (refs ++ cbs.left item)) ↔
        cbs.Spares (contents.fill first) item (refs ++ item.refs) w) := by
  cases item with
  | nothing | failed _ =>
      cases hd
      refine ⟨[], ?_, iff_of_true ⟨(fun _ h => nomatch h), ?_⟩ trivial⟩
      · rw [holdings_envelopeDestroyed, List.append_nil]
        rfl
      · exact hrefs
  | unreadable message e =>
      cases hd
      refine ⟨[], ?_, iff_of_true ⟨(fun _ h => nomatch h), ?_⟩ trivial⟩
      · rw [holdings_envelopeDestroyed, holdings_messageDestroyed, List.append_nil]
        rfl
      · exact hrefs
  | acknowledge decoded =>
      obtain ⟨wa, hops, hw⟩ := Option.map_eq_some_iff.mp hd
      cases hw
      refine ⟨[], ?_, ?_⟩
      · rw [holdings_envelopeDestroyed, (runOps_recycles hops).same, List.append_nil]
        rfl
      · have hholds : (wa.envelopeDestroyed first).Holds (refs ++ []) ↔ wa.Holds (refs ++ []) :=
          Iff.rfl
        exact (and_iff_right (fun _ h => nomatch h)).trans
          (hholds.trans (runOps_holds_iff hops hrefs))
  | envelope =>
      obtain ⟨wa, hfinal, hw⟩ := Option.map_eq_some_iff.mp hd
      cases hw
      have hnone := poolRefs_envelope contents first
      have hown (s : Bytes) (hs : s ∈ (contents.fill first).strings) (i : Nat)
          (hi : s.mem = .own i) : w.freed i = false := by
        rw [(fits_envelope contents first).strings s i hs hi]
        have hlt : first < w.nextIdent := by
          rw [show w.nextIdent = first + 1 from hfits]
          exact Nat.lt_succ_self first
        exact hfresh first (Nat.le_refl _) hlt
      have hhere : w.Holds (refs ++ poolRefs (contents.fill first).strings) := by
        rw [hnone]
        exact hrefs
      obtain ⟨ends, hends, hiff⟩ := final_intact_iff (P := Envelope.passed)
        (o := AMQPStruct.make (contents.fill first))
        (fun u => holdings_envelopeDestroyed u first) hown hhere hfinal
      refine ⟨ends, hends, ?_⟩
      have hleft : (if cbs.envelope.keeps then poolRefs (contents.fill first).strings else []) =
          [] := by
        rw [hnone, ite_self]
      have hiff : ((∀ intact ∈ ends, intact = true) ∧ w'.Holds (refs ++ if cbs.envelope.keeps
          then poolRefs (contents.fill first).strings else [])) ↔
          cbs.envelope.Spares Envelope.passed (AMQPStruct.make (contents.fill first))
            (refs ++ poolRefs (contents.fill first).strings) w := hiff
      rwa [hleft, hnone] at hiff
  | returned r =>
      obtain ⟨w₂, hfinal, hw⟩ := Option.map_eq_some_iff.mp hd
      cases hw
      obtain ⟨channel, hmethod⟩ := hfits.method
      obtain ⟨hident, ⟨message, hmessage⟩, -⟩ := hfits
      have hown (s : Bytes) (hs : s ∈ r.strings) (i : Nat) (hi : s.mem = .own i) :
          w.freed i = false := by
        have hr := fits_returned hmessage fun s hs => ⟨_, hmethod s hs⟩
        have hstruct : (Kept.returned r).struct.ident = first + 1 := by
          show r.message_.memory_.ident = _
          rw [hmessage]
          rfl
        rw [hr.strings s i hs hi, hstruct]
        exact hfresh _ (Nat.le_succ _) (by omega)
      obtain ⟨ends, hends, hiff⟩ := final_intact_iff (P := ReturnedMessage.passed)
        (fun u => holdings_messageDestroyed u r.message_.memory_.ident) hown hrefs hfinal
      refine ⟨ends, ?_, hiff⟩
      rw [holdings_envelopeDestroyed]
      exact hends

end Object

/-! ## One step -/

theorem fits_holds {h : Handle} {first : Nat} {w : World} {item : Item}
    (hfits : item.Fits h first w) : w.Holds item.refs := by
  have hmethods {e : Exc} (he : ∀ m ∈ e.methods, m.LiesIn h w) : w.Holds e.refs := by
    intro ref href
    obtain ⟨m, hm, rfl⟩ := List.mem_map.mp href
    obtain ⟨channel, d, rfl⟩ := he m hm
    exact decide_eq_true rfl
  cases item with
  | nothing | envelope | acknowledge _ =>
      intro ref href
      cases href
  | failed e => exact hmethods hfits.2
  | unreadable message e => exact hmethods hfits.2.2
  | returned r =>
      obtain ⟨channel, hmethod⟩ := hfits.method
      obtain ⟨-, ⟨message, hmessage⟩, -⟩ := hfits
      intro ref href
      obtain ⟨s, hs, hpool⟩ := List.mem_filterMap.mp href
      rcases List.mem_append.mp hs with hs | hs
      · rw [hmessage] at hs
        rcases hs with _ | ⟨_, hs⟩
        · cases hpool
        · obtain ⟨p, -, rfl⟩ := List.mem_map.mp hs
          cases hpool
      · rw [hmethod s hs] at hpool
        cases hpool
        exact decide_eq_true rfl

theorem left_subset (cbs : Callbacks) (item : Item) {ref : PoolRef} (href : ref ∈ cbs.left item) :
    ref ∈ item.refs := by
  cases item with
  | nothing | envelope | acknowledge _ | failed _ | unreadable _ _ => exact href
  | returned r =>
      have href : ref ∈ if cbs.returned.keeps then poolRefs r.strings else [] := href
      split at href
      · exact href
      · cases href

/-- Tidy programs are intact when the ended lives were and the reachable pools are. -/
theorem program_intact_iff {p : Program} (htidy : p.world.holdings.Tidy) :
    p.Intact ↔ (∀ intact ∈ p.world.holdings.ends, intact = true) ∧ p.world.Holds p.refs := by
  have hown (k : Kept) (hk : k ∈ p.world.kept) (s : Bytes) (hs : s ∈ k.strings) (i : Nat)
      (hi : s.mem = .own i) : p.world.freed i = false := by
    rw [(htidy.fits k hk).strings s i hs hi]
    exact htidy.unfreed k hk
  have hends (intact : Bool) :
      intact ∈ p.world.holdings.ends ↔ .lifeEnds intact ∈ p.world.log := by
    refine List.mem_filterMap.trans ⟨?_, fun h => ⟨_, h, rfl⟩⟩
    rintro ⟨e, he, hend⟩
    cases e with
    | lifeEnds b =>
        cases hend
        exact he
    | newConnection _ | tcpSocketNew _ _ | call _ _ _ | destroyEnvelope _ | destroyMessage _
    | deref _ _ => cases hend
  constructor
  · intro h
    refine ⟨fun intact hi => h.ended intact ((hends intact).mp hi), fun ref href => ?_⟩
    rcases List.mem_append.mp href with href | href
    · obtain ⟨k, hk, href⟩ := List.mem_flatMap.mp href
      exact (intact_iff (hown k hk)).mp (h.kept k hk) ref href
    · obtain ⟨e, he, href⟩ := List.mem_flatMap.mp href
      obtain ⟨m, hm, rfl⟩ := List.mem_map.mp href
      exact h.caught e m he hm
  · rintro ⟨hended, hholds⟩
    refine ⟨fun intact hi => hended intact ((hends intact).mpr hi), fun k hk => ?_,
      fun e m he hm => ?_⟩
    · refine (intact_iff (hown k hk)).mpr fun ref href => hholds ref ?_
      exact List.mem_append_left _ (List.mem_flatMap.mpr ⟨k, hk, href⟩)
    · refine hholds m.mem (List.mem_append_right _ ?_)
      exact List.mem_flatMap.mpr ⟨e, he, List.mem_map_of_mem hm⟩

section Step

variable [Library] {p p' : Program}

/-- What is reachable after a call: what was, and what the call left. -/
theorem mem_refs_after {cbs : Callbacks} {contents : EnvelopeContents} {item : Item}
    {first : Nat} {u w w' : World} {o : Outcome Exc Bool} {h : Handle} {caught : List Exc}
    (hkept : w'.kept = u.kept ++ cbs.keptOn (contents.fill first) item)
    (hd : cbs.dispatched (contents.fill first) item w = some (o, w')) (ref : PoolRef) :
    ref ∈ (⟨w'.released h, caught ++ thrownBy o⟩ : Program).refs ↔
      ref ∈ (⟨u, caught⟩ : Program).refs ++ cbs.left item := by
  have hnew : ref ∈ (cbs.keptOn (contents.fill first) item).flatMap (fun k => poolRefs k.strings) ∨
      ref ∈ (thrownBy o).flatMap Exc.refs ↔ ref ∈ cbs.left item := by
    have hexit (exit : Option Nat) :
        (thrownBy ((exitOutcome exit).map fun _ => true)).flatMap Exc.refs = [] := by
      cases exit <;> rfl
    cases item with
    | nothing =>
        cases hd
        exact or_self_iff
    | failed e | unreadable _ e =>
        cases hd
        show ref ∈ [] ∨ ref ∈ [e].flatMap Exc.refs ↔ ref ∈ e.refs
        rw [List.flatMap_singleton]
        exact or_iff_right (List.not_mem_nil)
    | acknowledge decoded =>
        obtain ⟨wa, hops, hw⟩ := Option.map_eq_some_iff.mp hd
        cases hw
        rw [hexit]
        exact or_self_iff
    | envelope =>
        obtain ⟨wa, hfinal, hw⟩ := Option.map_eq_some_iff.mp hd
        cases hw
        rw [hexit, Callbacks.keptOn]
        cases cbs.envelope.keeps with
        | false => exact or_self_iff
        | true =>
            rw [if_pos rfl, List.flatMap_singleton]
            show ref ∈ poolRefs (contents.fill first).strings ∨ ref ∈ [] ↔ ref ∈ []
            rw [poolRefs_envelope]
            exact or_self_iff
    | returned r =>
        obtain ⟨w₂, hfinal, hw⟩ := Option.map_eq_some_iff.mp hd
        cases hw
        rw [hexit, Callbacks.keptOn, Callbacks.left, or_iff_left List.not_mem_nil]
        cases cbs.returned.keeps with
        | false => exact Iff.rfl
        | true =>
            rw [if_pos rfl, if_pos rfl, List.flatMap_singleton]
            exact Iff.rfl
  have hkept' : (w'.released h).kept = u.kept ++ cbs.keptOn (contents.fill first) item := hkept
  unfold Program.refs
  rw [hkept', List.flatMap_append, List.flatMap_append]
  simp only [List.mem_append, ← hnew]
  tauto

/-- A consume call keeps everything intact if and only if the operations of its callback
and its own release spare it. -/
theorem consume_intact_iff {self : Connection} {tv : Option Timeval} {cbs : Callbacks}
    (htidy : p.world.holdings.Tidy) (hp : p.Intact)
    (hstep : Program.step (.consume self tv cbs) p = some p') :
    p'.Intact ↔ Program.Action.Spares (.consume self tv cbs) p := by
  have htidy' := step_tidy htidy hstep
  obtain ⟨hended, hholds⟩ := (program_intact_iff htidy).mp hp
  obtain ⟨contents, item, w₁, w₂, o, hwaits, hfits, hreceive, hd, rfl⟩ := consume_step hstep
  rw [program_intact_iff htidy']
  have hsame := waits_holdings hwaits
  -- before the dispatch, all that was reachable and all that was received is there
  have hbefore : w₁.Holds (p.refs ++ item.refs) := by
    refine World.holds_append.mpr ⟨?_, fits_holds hfits⟩
    exact (World.holds_congr (by rw [hsame])).mpr hholds
  have hleft : w₁.Holds (p.refs ++ cbs.left item) := by
    obtain ⟨hrefs, hitem⟩ := World.holds_append.mp hbefore
    exact World.holds_append.mpr ⟨hrefs, fun ref href => hitem ref (left_subset cbs item href)⟩
  obtain ⟨ends, hends, hiff⟩ := dispatched_intact_iff hfits hwaits.fresh hbefore hd
  have hkept : w₂.kept = p.world.kept ++
      cbs.keptOn (contents.fill p.world.nextIdent) item := by
    obtain ⟨intact, hsettled⟩ := dispatched_holdings hd
    have hk : w₂.kept = _ := congrArg Holdings.kept hsettled
    rw [hk, settled_kept]
    exact congrArg (· ++ _) hwaits.kept
  have hrefs : (w₂.released self.connection_).Holds
      (⟨w₂.released self.connection_, p.caught ++ thrownBy o⟩ : Program).refs ↔
      (w₂.released self.connection_).Holds (p.refs ++ cbs.left item) :=
    forall_congr' fun ref => imp_congr_left (mem_refs_after hkept hd ref)
  have hreleased := congrArg Holdings.recycled (holdings_released w₂ self.connection_)
  -- the release on the way out, once all is there before it
  have hexit : (w₂.released self.connection_).Holds (p.refs ++ cbs.left item) ↔
      w₂.Holds (p.refs ++ cbs.left item) ∧ ∀ ref ∈ p.refs ++ cbs.left item,
        ref.handle = self.connection_ → ref.channel ∈ (w₂.conns self.connection_).queued := by
    have hspares (hw₂ : w₂.Holds (p.refs ++ cbs.left item)) :
        (w₂.released self.connection_).Holds (p.refs ++ cbs.left item) ↔
          ∀ ref ∈ p.refs ++ cbs.left item,
            ref.handle = self.connection_ → ref.channel ∈ (w₂.conns self.connection_).queued := by
      rw [World.holds_released_iff hreleased hw₂]
      exact forall_congr' fun ref => forall_congr' fun _ => forall_congr' fun _ =>
        forall_prop_of_true rfl
    constructor
    · intro h
      have hw₂ := hleft.between (dispatched_grows hd)
        (fun h channel => hreleased ▸ Release.le_recycle _ _ h channel) h
      exact ⟨hw₂, (hspares hw₂).mp h⟩
    · intro h
      exact (hspares h.1).mpr h.2
  have hnow : (w₂.released self.connection_).holdings.ends =
      p.world.holdings.ends ++ ends := by
    rw [holdings_released]
    show w₂.holdings.ends = _
    rw [hends, hsame]
  show (∀ intact ∈ (w₂.released self.connection_).holdings.ends, intact = true) ∧
    (w₂.released self.connection_).Holds _ ↔ _
  rw [hnow, hrefs, hexit, List.forall_mem_append, and_iff_right hended, ← and_assoc, hiff]
  constructor
  · rintro ⟨hspares, hqueued⟩ envelope item' w hreceive'
    rw [hreceive] at hreceive'
    cases hreceive'
    refine ⟨hspares, fun o' w' hd' => ?_⟩
    have hd' : cbs.dispatched (contents.fill p.world.nextIdent) item w₁ = some (o', w') := hd'
    rw [hd] at hd'
    cases hd'
    exact hqueued
  · intro hspare
    obtain ⟨hspares, hqueued⟩ := hspare _ _ _ hreceive
    exact ⟨hspares, hqueued o w₂ hd⟩

/-- Dropping a kept object, which was intact, leaves the rest intact. -/
theorem dropKept_intact {i : Nat} (htidy : p.world.holdings.Tidy) (hp : p.Intact)
    (hstep : Program.step (.dropKept i) p = some p') : p'.Intact := by
  obtain ⟨k, hk, hcaught, hconns, hdropped⟩ := dropKept_step htidy hstep
  have hmem := List.mem_of_getElem? hk
  obtain ⟨hended, hholds⟩ := (program_intact_iff htidy).mp hp
  refine (program_intact_iff (step_tidy htidy hstep)).mpr ⟨?_, ?_⟩
  · rw [hdropped]
    refine List.forall_mem_append.mpr ⟨hended, ?_⟩
    intro intact hi
    rw [List.mem_singleton.mp hi]
    exact hp.kept k hmem
  · have hkept : p'.world.kept = p.world.kept.eraseIdx i := congrArg Holdings.kept hdropped
    have hrecycled : p'.world.holdings.recycled = p.world.holdings.recycled := by
      rw [hdropped]
      rfl
    refine (World.holds_congr hrecycled).mpr fun ref href => hholds ref ?_
    unfold Program.refs at href ⊢
    rw [hkept, hcaught] at href
    rcases List.mem_append.mp href with href | href
    · obtain ⟨k', hk', href⟩ := List.mem_flatMap.mp href
      exact List.mem_append_left _ (List.mem_flatMap.mpr ⟨k', List.mem_of_mem_eraseIdx hk', href⟩)
    · exact List.mem_append_right _ href

/-- One step keeps everything intact if and only if its releases spare it. -/
theorem step_intact_iff {a : Program.Action} (htidy : p.world.holdings.Tidy) (hp : p.Intact)
    (hstep : Program.step a p = some p') : p'.Intact ↔ a.Spares p := by
  cases a with
  | consume self tv cbs => exact consume_intact_iff htidy hp hstep
  | dropKept i => exact iff_of_true (dropKept_intact htidy hp hstep) trivial
  | dropCaught i =>
      obtain ⟨e, -, rfl⟩ := Option.map_eq_some_iff.mp hstep
      refine iff_of_true ⟨hp.ended, hp.kept, fun e m he hm => ?_⟩ trivial
      exact hp.caught e m (List.mem_of_mem_eraseIdx he) hm
  | operate op =>
      have htidy' := step_tidy htidy hstep
      obtain ⟨w', hop, rfl⟩ := Option.map_eq_some_iff.mp hstep
      obtain ⟨hended, hholds⟩ := (program_intact_iff htidy).mp hp
      have hrecycles := step_recycles hop
      have hends : w'.holdings.ends = p.world.holdings.ends := by rw [hrecycles.same]
      have hkept : w'.kept = p.world.kept := congrArg Holdings.kept hrecycles.same
      rw [program_intact_iff htidy']
      have hrefs : (⟨w', p.caught⟩ : Program).refs = p.refs := by
        unfold Program.refs
        rw [hkept]
      show (∀ intact ∈ w'.holdings.ends, intact = true) ∧ w'.Holds _ ↔ _
      rw [hends, and_iff_right hended, hrefs]
      exact step_holds_iff hop hholds

/-- In a run of any program: everything that was handed out is intact in every state it is
alive in if and only if every release on the way spares it. -/
theorem intact_iff_spared (as : List Program.Action) :
    Visits Program.step Program.Intact Program.initial as ↔
      Along Program.step Program.Action.Spares Program.initial as :=
  visits_iff_along (fun htidy hstep => step_tidy htidy hstep)
    (fun htidy hp hstep => step_intact_iff htidy hp hstep) initial_tidy
    ⟨(fun _ h => nomatch h), (fun _ h => nomatch h), (fun _ _ h => nomatch h)⟩

end Step

/-! ## A returned message that is kept -/

/-- Callbacks of which the one for returned messages keeps its object. -/
def keepsReturned : Callbacks where
  envelope := .constRef [] none
  returned := .byValue [] true [] none
  acknowledgeOps := []
  acknowledgeExit := none

/-- The call itself releases the pool that the kept object's method lies in. -/
theorem returned_method_recycled :
    ¬ Visits (@Program.step returnsMessage) Program.Intact Program.initial
      [.consume ⟨some 1, "Connection(1): "⟩ none keepsReturned] := by
  intro h
  have hintact := (h.2 _ rfl).kept _ (List.mem_singleton_self _)
  cases hintact

end RmqCxx
