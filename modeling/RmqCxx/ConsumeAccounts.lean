/-
# `RmqCxx.ConsumeAccounts` — the structures of one consume call

A call of `consumeImpl` creates one envelope structure, and one message structure if
a returned message is read.  When the call is over, each of them has been disposed
of once or is owned by one object that the callback keeps (`consume_accounts`).
`World.Settles` is the account of a stretch of the run; accounts of consecutive
stretches add up.
-/
import RmqCxx.ConsumeRuns
import RmqCxx.Releases

namespace RmqCxx

open Cpp Code

/-! ## Accounts -/

/-- A call of `amqp_maybe_release_buffers`. -/
def Event.Releases : Event → Prop
  | .call f _ _ => f = .maybeReleaseBuffers
  | _ => False

/-- From `w` to `w'`, without a release, exactly `structures` were disposed of or
moved into new kept objects, each of them once; the objects are such that `keeps`. -/
def World.Settles (keeps : Kept → Bool) (structures : List Structure) (w w' : World) : Prop :=
  ∃ es new, w'.log = w.log ++ es ∧ w'.kept = w.kept ++ new ∧
    (∀ e ∈ es, ¬ e.Releases) ∧ (∀ k ∈ new, keeps k = true) ∧
    (es.filterMap Event.disposed ++ new.filterMap Kept.owned).Perm structures

namespace World.Settles

variable {keeps : Kept → Bool} {u v w : World} {l l' : List Structure}

theorem append (huv : u.Settles keeps l v) (hvw : v.Settles keeps l' w) :
    u.Settles keeps (l ++ l') w := by
  obtain ⟨es, new, hlog, hkept, hrelease, hkeeps, hperm⟩ := huv
  obtain ⟨es', new', hlog', hkept', hrelease', hkeeps', hperm'⟩ := hvw
  refine ⟨es ++ es', new ++ new', ?_, ?_, ?_, ?_, ?_⟩
  · rw [hlog', hlog, List.append_assoc]
  · rw [hkept', hkept, List.append_assoc]
  · intro e he
    rcases List.mem_append.mp he with he | he
    · exact hrelease e he
    · exact hrelease' e he
  · intro k hk
    rcases List.mem_append.mp hk with hk | hk
    · exact hkeeps k hk
    · exact hkeeps' k hk
  · rw [List.filterMap_append, List.filterMap_append]
    refine List.Perm.trans ?_ (hperm.append hperm')
    rw [List.append_assoc, List.append_assoc]
    refine List.Perm.append_left _ ?_
    rw [← List.append_assoc, ← List.append_assoc]
    exact List.Perm.append_right _ List.perm_append_comm

theorem perm (huv : u.Settles keeps l v) (hl : l.Perm l') : u.Settles keeps l' v := by
  obtain ⟨es, new, hlog, hkept, hrelease, hkeeps, hperm⟩ := huv
  exact ⟨es, new, hlog, hkept, hrelease, hkeeps, hperm.trans hl⟩

theorem of_tell {e : Event} (he : ¬ e.Releases) :
    u.Settles keeps e.disposed.toList (u.tell e) := by
  refine ⟨[e], [], rfl, (List.append_nil _).symm, ?_, (fun _ hk => nomatch hk), ?_⟩
  · intro e' he'
    rw [List.mem_singleton.mp he']
    exact he
  · rw [List.filterMap_nil, List.append_nil]
    cases e with
    | destroyEnvelope _ | destroyMessage _ => exact .refl _
    | newConnection _ | tcpSocketNew _ _ | call _ _ _ | deref _ _ | lifeEnds _ => exact .refl _

theorem of_waits (h : u.Waits v) : u.Settles keeps [] v := by
  obtain ⟨es, hlog, hwait⟩ := h.log
  refine ⟨es, [], hlog, by rw [h.kept, List.append_nil], ?_, (fun _ hk => nomatch hk), ?_⟩
  · intro e he hrelease
    have hw := hwait e he
    obtain ⟨f, state, args, rfl⟩ := hw.call
    obtain rfl : f = .maybeReleaseBuffers := hrelease
    rcases hw with hw | hw | hw <;> cases hw
  · rw [List.filterMap_nil, List.append_nil, List.filterMap_eq_nil_iff.mpr ?_]
    intro e he
    obtain ⟨f, state, args, rfl⟩ := (hwait e he).call
    rfl

theorem of_envelopeDestroyed (ident : Nat) :
    u.Settles keeps [.envelope ident] (u.envelopeDestroyed ident) :=
  of_tell (e := .destroyEnvelope ident) id

theorem of_messageDestroyed (ident : Nat) :
    u.Settles keeps [.message ident] (u.messageDestroyed ident) :=
  of_tell (e := .destroyMessage ident) id

theorem of_keep {k : Kept} {s : Structure} (hs : k.owned = some s) (hk : keeps k = true) :
    u.Settles keeps [s] { u with kept := u.kept ++ [k] } := by
  refine ⟨[], [k], (List.append_nil _).symm, rfl, List.forall_mem_nil _, ?_, ?_⟩
  · intro k' hk'
    rw [List.mem_singleton.mp hk']
    exact hk
  · rw [List.filterMap_nil, List.nil_append, List.filterMap_cons, hs]
    exact .refl _

end World.Settles

/-! ## Callbacks that make no library call -/

/-- Callbacks that make no library call of their own. -/
structure QuietCallbacks extends Callbacks where
  envelope_before : envelope.before = []
  envelope_after : envelope.after = []
  returned_before : returned.before = []
  returned_after : returned.after = []
  acknowledge_ops : acknowledgeOps = []

/-- Whether the callback for objects of this class moves its object into one that lives
on. -/
def Callbacks.keeps (cbs : Callbacks) : Kept → Bool
  | .envelope _ => cbs.envelope.keeps
  | .returned _ => cbs.returned.keeps

section Accounts

variable [Library] {w : World}

/-- A quiet script settles the structure of the object it is given. -/
theorem final_quiet {O : Type} {P : Passed O} {script : Script} {o : O} {s : Structure}
    (keeps : Kept → Bool) (hbefore : script.before = []) (hafter : script.after = [])
    (hkeep : script.keeps = true → (P.keep o).owned = some s ∧ keeps (P.keep o) = true)
    (hdispose : ∀ u, World.Settles keeps [s] u (P.disposed o u) ∧
      (P.disposed o u).nextIdent = u.nextIdent) :
    ∃ w', script.final P o w = some w' ∧ w.Settles keeps [s] w' ∧ w'.nextIdent = w.nextIdent := by
  refine ⟨script.endLife P o (script.moveOn P o w), ?_, ?_⟩
  · rw [Script.final, hbefore, hafter]
    rfl
  · unfold Script.endLife Script.moveOn
    cases hk : script.keeps with
    | true => exact ⟨.of_keep (hkeep hk).1 (hkeep hk).2, rfl⟩
    | false =>
        obtain ⟨hsettles, hident⟩ :=
          hdispose (w.tell (.lifeEnds (w.intact (P.strings o))))
        exact ⟨(World.Settles.of_tell (e := .lifeEnds _) id).append hsettles, hident⟩

/-- The structures that a call creates: that of the envelope, and that of the message if
there is a returned message to read. -/
def Item.created (first : Nat) : Item → List Structure
  | .returned _ | .unreadable _ _ => [.envelope first, .message (first + 1)]
  | _ => [.envelope first]

/-- What is dispatched settles all that was created. -/
theorem dispatched_settles (cbs : QuietCallbacks) {h : Handle} {first : Nat} {item : Item}
    (contents : EnvelopeContents) (hfits : item.Fits h first w) :
    ∃ o w', cbs.dispatched (contents.fill first) item w = some (o, w') ∧
      w.Settles cbs.keeps (item.created first) w' ∧
      w'.nextIdent = first + (item.created first).length := by
  cases item with
  | nothing => exact ⟨_, _, rfl, .of_envelopeDestroyed first, hfits⟩
  | failed e => exact ⟨_, _, rfl, .of_envelopeDestroyed first, hfits.1⟩
  | envelope =>
      obtain ⟨w', hfinal, hsettles, hident⟩ := final_quiet (P := Envelope.passed)
        (o := AMQPStruct.make (contents.fill first)) (s := .envelope first)
        cbs.keeps cbs.envelope_before cbs.envelope_after (fun hkeep => ⟨rfl, hkeep⟩)
        (fun u => ⟨.of_envelopeDestroyed first, rfl⟩)
      have hd : cbs.dispatched (contents.fill first) .envelope w =
          some ((exitOutcome cbs.envelope.exit).map (fun _ => true), w') := by
        rw [Callbacks.dispatched, hfinal]
        rfl
      exact ⟨_, w', hd, hsettles, hident.trans hfits⟩
  | acknowledge decoded =>
      have hd : cbs.dispatched (contents.fill first) (.acknowledge decoded) w =
          some ((exitOutcome cbs.acknowledgeExit).map (fun _ => true),
            w.envelopeDestroyed first) := by
        rw [Callbacks.dispatched, cbs.acknowledge_ops]
        rfl
      exact ⟨_, _, hd, .of_envelopeDestroyed first, hfits⟩
  | returned r =>
      obtain ⟨hident, ⟨message, hmessage⟩, -⟩ := hfits
      have howned : (Kept.returned r).owned = some (.message (first + 1)) := by
        rw [Kept.owned, hmessage]
        rfl
      have hdisposed (u : World) :
          ReturnedMessage.passed.disposed r u = u.messageDestroyed (first + 1) := by
        show u.messageDestroyed r.message_.memory_.ident = _
        rw [hmessage]
        rfl
      obtain ⟨w', hfinal, hsettles, hident'⟩ := final_quiet (P := ReturnedMessage.passed) (o := r)
        (s := .message (first + 1)) (w := w)
        cbs.keeps cbs.returned_before cbs.returned_after
        (fun hkeep => ⟨howned, hkeep⟩)
        (fun u => by rw [hdisposed]; exact ⟨.of_messageDestroyed _, rfl⟩)
      have hd : cbs.dispatched (contents.fill first) (.returned r) w =
          some ((exitOutcome cbs.returned.exit).map (fun _ => true),
            w'.envelopeDestroyed first) := by
        rw [Callbacks.dispatched, hfinal]
        rfl
      exact ⟨_, _, hd, (hsettles.append (.of_envelopeDestroyed first)).perm (.swap _ _ _),
        hident'.trans hident⟩
  | unreadable message e =>
      obtain ⟨hident, ⟨contents', rfl⟩, -⟩ := hfits
      refine ⟨_, _, rfl, ?_, hident⟩
      have hmessage : w.Settles cbs.keeps [.message (first + 1)] (w.messageDestroyed (first + 1)) :=
        .of_messageDestroyed _
      exact (hmessage.append (.of_envelopeDestroyed first)).perm (.swap _ _ _)

/-- A call of `consumeImpl` with callbacks that make no library call: it returns or
throws; each structure it created has been disposed of once or is owned by one kept
object, which the callback of its kind moved there; and the last thing it does is the
only release. -/
theorem consume_accounts (self : Connection) (tv : Option Timeval) (cbs : QuietCallbacks)
    (w : World) :
    ∃ o w' created es new,
      (self.consumeWith tv cbs.toCallbacks).run w = (o, w') ∧ o ≠ .terminate ∧
      (created = [.envelope w.nextIdent] ∨
        created = [.envelope w.nextIdent, .message (w.nextIdent + 1)]) ∧
      w'.nextIdent = w.nextIdent + created.length ∧
      w'.kept = w.kept ++ new ∧ (∀ k ∈ new, cbs.keeps k = true) ∧
      (es.filterMap Event.disposed ++ new.filterMap Kept.owned).Perm created ∧
      w'.log = w.log ++ es ++ [.call .maybeReleaseBuffers self.connection_ []] ∧
      ∀ e ∈ es, ¬ e.Releases := by
  obtain ⟨contents, item, w₁, hwaits, hfits, -, hrun⟩ := @consume_run _ self tv cbs.toCallbacks w
  obtain ⟨o, w₂, hdispatched, hsettles, hident⟩ := dispatched_settles cbs contents hfits
  rw [hdispatched] at hrun
  obtain ⟨ho, hrun⟩ := hrun
  obtain ⟨es, new, hlog, hkept, hreleases, hkeeps, hperm⟩ := (World.Settles.of_waits hwaits).append
    hsettles
  refine ⟨o, _, item.created w.nextIdent, es, new, hrun, ho, ?_, hident, hkept, hkeeps, hperm, ?_,
    hreleases⟩
  · cases item with
    | nothing | envelope | acknowledge _ | failed _ => exact .inl rfl
    | returned _ | unreadable _ _ => exact .inr rfl
  · show w₂.log ++ [_] = _
    rw [hlog]

end Accounts

/-- Callbacks that keep what they are given, and then throw. -/
def keepsAndThrows : QuietCallbacks where
  envelope := .byValue [] true [] (some 1)
  returned := .forward (.byValue [] true [] (some 2))
  acknowledgeOps := []
  acknowledgeExit := some 3
  envelope_before := rfl
  envelope_after := rfl
  returned_before := rfl
  returned_after := rfl
  acknowledge_ops := rfl

/-- A returned message is kept by a callback that throws. -/
theorem consume_accounts_thrown :
    letI := returnsMessage
    ∃ o w' created es new,
      ((⟨some 1, "Connection(1): "⟩ : Connection).consumeWith none
        keepsAndThrows.toCallbacks).run .initial = (o, w') ∧ o ≠ .terminate ∧
      (created = [.envelope 0] ∨ created = [.envelope 0, .message 1]) ∧
      w'.nextIdent = created.length ∧ w'.kept = new ∧
      (∀ k ∈ new, keepsAndThrows.keeps k = true) ∧
      (es.filterMap Event.disposed ++ new.filterMap Kept.owned).Perm created ∧
      w'.log = es ++ [.call .maybeReleaseBuffers (some 1) []] ∧ ∀ e ∈ es, ¬ e.Releases := by
  let _ := returnsMessage
  obtain ⟨o, w', created, es, new, hrun, ho, hcreated, hident, hkept, haccounts⟩ :=
    consume_accounts ⟨some 1, "Connection(1): "⟩ none keepsAndThrows .initial
  exact ⟨o, w', created, es, new, hrun, ho, hcreated, hident.trans (Nat.zero_add _), hkept,
    haccounts⟩

/-- The envelope was disposed of, and the message belongs to the object that was kept. -/
example :
    letI := returnsMessage
    (((⟨some 1, "Connection(1): "⟩ : Connection).consumeWith none
      keepsAndThrows.toCallbacks).run .initial).2.kept.filterMap Kept.owned = [.message 1] := rfl

end RmqCxx
