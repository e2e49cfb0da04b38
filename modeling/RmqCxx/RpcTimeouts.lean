/-
# `RmqCxx.RpcTimeouts` — the rpc timeout of a connection

The library keeps the timeout.  What it does with one is a parameter (`RpcTimeouts`), over
whatever state it keeps; of a call that succeeds the wrapper relies on
`RpcTimeouts.Keeps`: the timeout is there afterwards.

`setRpcTimeout` is `timeValue`, and `getRpcTimeout` is `durationValue` written out
(`getRpcTimeout_run`), so a timeout that is set and read loses what these two lose.
-/
import RmqCxx.Connection
import RmqCxx.Conversions

namespace RmqCxx

open Cpp Code

/-! ## The library's timeout -/

/-- The library's answers, over its state: what a call to set the timeout of a connection
returns and does, and what the pointer to the timeout points to, if it is not null. -/
class RpcTimeouts (σ : Type) where
  set : Handle → Timeval → σ → Status × σ
  get : Handle → σ → Option Timeval

/-- A timeout that was set is there. -/
def RpcTimeouts.Keeps (σ : Type) [RpcTimeouts σ] : Prop :=
  ∀ (h : Handle) (tv : Timeval) (s s' : σ), set h tv s = (.ok, s') → get h s' = some tv

section Functions

variable {σ ε : Type} [RpcTimeouts σ]

def amqpSetRpcTimeout (state : Handle) (timeout : Timeval) : Code σ ε Status :=
  ⟨fun s => (.ret (RpcTimeouts.set state timeout s).1, (RpcTimeouts.set state timeout s).2)⟩

def amqpGetRpcTimeout (state : Handle) : Code σ ε (Option Timeval) :=
  ⟨fun s => (.ret (RpcTimeouts.get state s), s)⟩

end Functions

/-! ## The members -/

namespace Connection

variable {σ : Type} [RpcTimeouts σ] {p : Period} (self : Connection)

/-- `getRpcTimeout(dst)`: whether there is a timeout, and what is in `dst` then. -/
def getRpcTimeout (dst : Duration p) : Code σ Exc (Bool × Duration p) :=
  noexcept_ do
    let timeout ← amqpGetRpcTimeout self.connection_
    match timeout with
    | none => pure (false, dst)
    | some tv =>
        pure (true, ⟨(durationCast p (⟨tv.tvSec⟩ : Duration .seconds)).count
          + (durationCast p (⟨tv.tvUsec⟩ : Duration .microseconds)).count⟩)

/-- `setRpcTimeout(val)`. -/
def setRpcTimeout (val : Duration p) : Code σ Exc Unit := do
  let tv := timeValue val
  let status ← amqpSetRpcTimeout self.connection_ tv
  if status ≠ .ok then throw (.connection "Failed to set RPC timeout!") else pure ()

/-! ## What they do -/

/-- Without a timeout `dst` stays as it is. -/
theorem getRpcTimeout_run (dst : Duration p) (s : σ) :
    (self.getRpcTimeout dst).run s =
      (.ret (match RpcTimeouts.get self.connection_ s with
        | none => (false, dst)
        | some tv => (true, durationValue p tv)), s) := by
  show ((_ : Outcome Exc (Bool × Duration p) × σ).1.sealed, _) = _
  rw [bind_of_ret (c := amqpGetRpcTimeout self.connection_) rfl]
  cases RpcTimeouts.get self.connection_ s <;> rfl

/-- It returns if and only if the library took the timeout. -/
theorem setRpcTimeout_ret {val : Duration p} {s s' : σ} :
    (self.setRpcTimeout val).run s = (.ret (), s') ↔
      RpcTimeouts.set self.connection_ (timeValue val) s = (.ok, s') := by
  have hrun : (self.setRpcTimeout val).run s =
      (if (RpcTimeouts.set self.connection_ (timeValue val) s).1 ≠ .ok then
        throw (.connection "Failed to set RPC timeout!") else pure () : Code σ Exc Unit).run
          (RpcTimeouts.set self.connection_ (timeValue val) s).2 :=
    bind_of_ret (c := amqpSetRpcTimeout self.connection_ (timeValue val)) rfl
  rw [hrun]
  match RpcTimeouts.set self.connection_ (timeValue val) s with
  | (status, s'') =>
      by_cases hok : status = .ok
      · subst hok
        rw [if_neg (fun h => h rfl), run_pure, Prod.mk.injEq, Prod.mk.injEq]
        exact and_congr_left fun _ => iff_of_true rfl rfl
      · rw [if_pos hok, run_throw]
        refine iff_of_false (fun h => ?_) (fun h => hok (Prod.mk.inj h).1)
        cases (Prod.mk.inj h).1

end Connection

/-! ## What is lost -/

/-- The timeval is converted to the period with one truncation, by `durationValue` and by
`getRpcTimeout`. -/
def TruncatesOnce (σ : Type) [RpcTimeouts σ] (q : Period) (tv : Timeval) : Prop :=
  durationValue q tv = ⟨q.ticks tv.value⟩ ∧
    ∀ (self : Connection) (dst : Duration q) (s : σ), RpcTimeouts.get self.connection_ s = some tv →
      (self.getRpcTimeout dst).run s = (.ret (true, ⟨q.ticks tv.value⟩), s)

/-- `getRpcTimeout` gives `d`, truncated to microseconds and then to the period. -/
def ReadsBack {σ : Type} [RpcTimeouts σ] {p : Period} (self : Connection) (d : Duration p)
    (q : Period) (s : σ) : Prop :=
  ∀ dst : Duration q, (self.getRpcTimeout dst).run s =
    (.ret (true, ⟨q.ticks
      (⟨Period.microseconds.ticks d.value⟩ : Duration .microseconds).value⟩), s)

section Truncation

variable {σ : Type} [RpcTimeouts σ]

/-- What is read, when there is a timeout. -/
theorem getRpcTimeout_eq_iff {q : Period} {self : Connection} {tv : Timeval} {s : σ}
    (hget : RpcTimeouts.get self.connection_ s = some tv) (dst d : Duration q) :
    (self.getRpcTimeout dst).run s = (.ret (true, d), s) ↔ durationValue q tv = d := by
  rw [Connection.getRpcTimeout_run, hget]
  simp only [Prod.mk.injEq, Outcome.ret.injEq, and_true, true_and]

theorem truncatesOnce_iff {q : Period} {tv : Timeval} (h : tv.Normalised) :
    TruncatesOnce σ q tv ↔ q.AddsUp tv.micros.natAbs := by
  rw [← durationValue_iff h]
  refine ⟨fun honce => honce.1, fun honce => ⟨honce, fun self dst s hget => ?_⟩⟩
  exact (getRpcTimeout_eq_iff hget dst _).mpr honce

theorem readsBack_iff (hkeeps : RpcTimeouts.Keeps σ) {p : Period} {self : Connection}
    {d : Duration p} {q : Period} {s s' : σ}
    (hset : (self.setRpcTimeout d).run s = (.ret (), s')) :
    ReadsBack self d q s' ↔ q.AddsUp (Period.microseconds.ticks d.value).natAbs := by
  have hget := hkeeps _ _ _ _ (self.setRpcTimeout_ret.mp hset)
  rw [← durationValue_timeValue_iff d]
  constructor
  · intro h
    exact (getRpcTimeout_eq_iff hget .zero _).mp (h .zero)
  · intro h dst
    exact (getRpcTimeout_eq_iff hget dst _).mpr h

end Truncation

/-- `timeValue` always loses one truncation.  `durationValue` and `getRpcTimeout` lose one of the
amounts that add up for the period; these are all amounts if the period is `1 / m` in lowest
terms, or `n / m` where `m` leaves one when divided by `1000000 * n`, and only then. -/
theorem conversions_truncate_once_iff (σ : Type) [RpcTimeouts σ] (hkeeps : RpcTimeouts.Keeps σ) :
    (∀ {p : Period} (d : Duration p), SplitsOnce d) ∧
      (∀ (q : Period) (tv : Timeval), tv.Normalised →
        (TruncatesOnce σ q tv ↔ q.AddsUp tv.micros.natAbs)) ∧
      (∀ {p : Period} (self : Connection) (d : Duration p) (q : Period) (s s' : σ),
        (self.setRpcTimeout d).run s = (.ret (), s') →
          (ReadsBack self d q s' ↔ q.AddsUp (Period.microseconds.ticks d.value).natAbs)) ∧
      ∀ q : Period, (∀ n, q.AddsUp n) ↔
        q.value.num = 1 ∨ q.value.den % (1000000 * q.value.num.natAbs) = 1 := by
  refine ⟨fun d => splitsOnce d, ?_, ?_, addsUp_iff_period⟩
  · intro q tv h
    exact truncatesOnce_iff h
  · intro p self d q s s' hset
    exact readsBack_iff hkeeps hset

/-- A library that has one timeout for each connection. -/
instance storedTimeouts : RpcTimeouts (Handle → Option Timeval) where
  set h tv s := (.ok, fun h' => if h' = h then some tv else s h')
  get h s := s h

/-- 1500 ms, read in seconds. -/
theorem conversions_truncate_once_iff_seconds :
    SplitsOnce (⟨1500⟩ : Duration { num := 1, den := 1000 }) ∧
      TruncatesOnce (Handle → Option Timeval) .seconds ⟨1, 500000⟩ ∧
      ∃ s : Handle → Option Timeval,
        (Connection.setRpcTimeout ⟨some 1, ""⟩
          (⟨1500⟩ : Duration { num := 1, den := 1000 })).run (fun _ => none) = (.ret (), s) ∧
        ReadsBack ⟨some 1, ""⟩ (⟨1500⟩ : Duration { num := 1, den := 1000 }) .seconds s := by
  have hkeeps : RpcTimeouts.Keeps (Handle → Option Timeval) := by
    intro h tv s s' hset
    rw [← (Prod.mk.inj hset).2]
    exact if_pos rfl
  obtain ⟨hsplits, htruncates, hreads, hperiods⟩ :=
    conversions_truncate_once_iff (Handle → Option Timeval) hkeeps
  have hadds := (hperiods .seconds).mpr (.inl (by rw [seconds_value]; rfl))
  exact ⟨hsplits _, (htruncates _ _ ⟨by decide, by decide, by decide⟩).mpr (hadds _), _,
    rfl, (hreads _ _ _ (fun _ => none) _ rfl).mpr (hadds _)⟩

/-- 1.9 s in ticks of 3/2 s. -/
theorem sesqui_truncated_twice :
    ¬ ∀ (q : Period) (tv : Timeval), tv.Normalised → durationValue q tv = ⟨q.ticks tv.value⟩ := by
  intro h
  have hzero : durationValue { num := 3, den := 2 } ⟨1, 900000⟩ = ⟨0⟩ := by decide
  have hone : Period.ticks { num := 3, den := 2 } (Timeval.value ⟨1, 900000⟩) = 1 := by
    rw [Period.ticks, Timeval.value, Period.value, towardsZero_of_nonneg (by norm_num)]
    norm_num
  have honce := h { num := 3, den := 2 } ⟨1, 900000⟩ ⟨by decide, by decide, by decide⟩
  rw [hzero, hone] at honce
  cases honce

end RmqCxx
