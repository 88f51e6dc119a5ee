import StockResearch.Core.Transaction
import Mathlib.Data.List.Infix

/-!
# The circuit breaker

`ProviderCircuitBreakerService` keeps one persisted state per provider and capability: closed, open,
or half open while a probe is under way.  `before_call` admits or denies a call, `record_outcome`
says how an admitted call ended.

A half-open breaker denies every call, and only a success or a transient failure ends it.  A
permanent failure leaves the state as it is.  So when the probe itself ends with a permanent failure
and nothing else is recorded any more, the breaker stays half open for good
(`not_recoverable_permanent_probe`).  `recoverable_iff` says that this is the only way to get stuck:
a run ends in a recoverable state exactly when after every probe a success or a transient
failure is recorded.

Times are counted in microseconds, which is the resolution of a `datetime`.
-/

namespace StockResearch.Providers

open Txn

inductive ProviderCircuitStatus where
  | closed | opened | halfOpen
deriving DecidableEq, Repr

inductive CircuitBreakerOutcome where
  | success | transientFailure | permanentFailure
deriving DecidableEq, Repr

/-- `CircuitBreakerSnapshot` -/
structure CircuitBreakerSnapshot where
  status : ProviderCircuitStatus
  failureCount : Nat
  openedAt : Option Nat
  halfOpenProbeAt : Option Nat
  updatedAt : Nat
deriving DecidableEq, Repr

/-- `CircuitBreakerDecision` -/
structure CircuitBreakerDecision where
  allowed : Bool
  status : ProviderCircuitStatus
  reasonCode : String
deriving DecidableEq, Repr

/-- `_closed` -/
def closedSnapshot (now : Nat) : CircuitBreakerSnapshot := ⟨.closed, 0, none, none, now⟩

/-- `ProviderCircuitBreakerService` -/
structure CircuitBreakerService where
  failureThreshold : Nat
  resetAfterSeconds : Nat
  threshold_ok : 1 ≤ failureThreshold ∧ failureThreshold ≤ 100
  reset_ok : 1 ≤ resetAfterSeconds ∧ resetAfterSeconds ≤ 86400

namespace CircuitBreakerService

variable (service : CircuitBreakerService)

/-- `timedelta(seconds=reset_after_seconds)` -/
def resetAfter : Nat := service.resetAfterSeconds * 1000000

/-- `before_call`, over the stored snapshot. -/
def beforeCall (stored : Option CircuitBreakerSnapshot) (now : Nat) :
    CircuitBreakerDecision × Option CircuitBreakerSnapshot :=
  let snapshot := stored.getD (closedSnapshot now)
  match snapshot.status with
  | .closed => (⟨true, .closed, "PROVIDER_CIRCUIT_CLOSED"⟩, some snapshot)
  | .halfOpen => (⟨false, .halfOpen, "PROVIDER_CIRCUIT_PROBE_IN_PROGRESS"⟩, some snapshot)
  | .opened =>
      if ∃ t ∈ snapshot.openedAt, t + service.resetAfter ≤ now then
        (⟨true, .halfOpen, "PROVIDER_CIRCUIT_HALF_OPEN_PROBE"⟩,
          some { snapshot with status := .halfOpen, halfOpenProbeAt := some now, updatedAt := now })
      else (⟨false, .opened, "PROVIDER_CIRCUIT_OPEN"⟩, some snapshot)

def recordOutcome (stored : Option CircuitBreakerSnapshot) (outcome : CircuitBreakerOutcome)
    (now : Nat) : CircuitBreakerSnapshot :=
  let current := stored.getD (closedSnapshot now)
  match outcome with
  | .success => closedSnapshot now
  | .permanentFailure => { current with updatedAt := now }
  | .transientFailure =>
      let failureCount := current.failureCount + 1
      if current.status = .halfOpen ∨ service.failureThreshold ≤ failureCount then
        { current with status := .opened, failureCount := failureCount, openedAt := some now,
                       halfOpenProbeAt := none, updatedAt := now }
      else
        { current with status := .closed, failureCount := failureCount, openedAt := none,
                       halfOpenProbeAt := none, updatedAt := now }

end CircuitBreakerService

/-! ## Runs -/

/-- An operation on the breaker, with its time. -/
inductive BreakerCall where
  | before (now : Nat)
  | record (outcome : CircuitBreakerOutcome) (now : Nat)
deriving DecidableEq, Repr

namespace CircuitBreakerService

variable (service : CircuitBreakerService)

/-- One operation: the decision of a `before_call`, and the snapshot that is stored. -/
def operate (stored : Option CircuitBreakerSnapshot) :
    BreakerCall → Option CircuitBreakerDecision × Option CircuitBreakerSnapshot
  | .before now => (some (service.beforeCall stored now).1, (service.beforeCall stored now).2)
  | .record outcome now => (none, some (service.recordOutcome stored outcome now))

/-- From some time on a call is admitted. -/
def Recoverable (stored : Option CircuitBreakerSnapshot) : Prop :=
  ∃ t, ∀ now, t ≤ now → (service.beforeCall stored now).1.allowed = true

end CircuitBreakerService

/-- An operation of a run with its decision. -/
abbrev BreakerEvent :=
  Event (Option CircuitBreakerSnapshot) BreakerCall (Option CircuitBreakerDecision)

/-- A call was admitted. -/
def BreakerEvent.admits (e : BreakerEvent) : Bool := e.outcome.any (·.allowed)

/-- A call came to an open breaker whose reset window was over: it is the probe. -/
def CircuitBreakerService.probes (service : CircuitBreakerService) (e : BreakerEvent) : Bool :=
  match e.call with
  | .before now => e.before.any fun snapshot => snapshot.status == .opened &&
      decide (∃ t ∈ snapshot.openedAt, t + service.resetAfter ≤ now)
  | .record _ _ => false

/-- An outcome was recorded. -/
def BreakerEvent.records (e : BreakerEvent) : Bool :=
  match e.call with
  | .record _ _ => true
  | .before _ => false

/-- A success or a transient failure was recorded. -/
def BreakerEvent.decides (e : BreakerEvent) : Bool :=
  match e.call with
  | .record .success _ | .record .transientFailure _ => true
  | _ => false

/-- Every admitted call has had its outcome recorded. -/
def Settled (events : List BreakerEvent) : Prop :=
  events.countP BreakerEvent.admits = events.countP BreakerEvent.records

/-- After every probe a success or a transient failure is recorded. -/
def CircuitBreakerService.ProbesDecided (service : CircuitBreakerService)
    (events : List BreakerEvent) : Prop :=
  ∀ e later, e :: later <:+ events → service.probes e = true → ∃ e' ∈ later, e'.decides = true

/-- The stored breaker is half open. -/
def isHalfOpen (stored : Option CircuitBreakerSnapshot) : Bool :=
  stored.any fun snapshot => snapshot.status == .halfOpen

/-- An open breaker says since when. -/
def OpenedKnown (stored : Option CircuitBreakerSnapshot) : Prop :=
  ∀ snapshot ∈ stored, snapshot.status = .opened → snapshot.openedAt ≠ none

namespace CircuitBreakerService

variable {service : CircuitBreakerService} {stored : Option CircuitBreakerSnapshot}

lemma openedKnown_operate (call : BreakerCall) (h : OpenedKnown stored) :
    OpenedKnown (service.operate stored call).2 := by
  cases call with
  | before now =>
      cases stored with
      | none => simp [operate, beforeCall, closedSnapshot, OpenedKnown]
      | some snapshot =>
          have hknown := h snapshot rfl
          cases hstatus : snapshot.status with
          | closed => simp [operate, beforeCall, OpenedKnown, hstatus]
          | halfOpen => simp [operate, beforeCall, OpenedKnown, hstatus]
          | opened =>
              simp only [operate, beforeCall, Option.getD_some, hstatus]
              split_ifs
              · simp [OpenedKnown]
              · exact h
  | record outcome now =>
      cases outcome with
      | success => simp [operate, recordOutcome, closedSnapshot, OpenedKnown]
      | permanentFailure =>
          cases stored with
          | none => simp [operate, recordOutcome, closedSnapshot, OpenedKnown]
          | some snapshot => simpa [operate, recordOutcome, OpenedKnown] using h
      | transientFailure =>
          simp only [operate, recordOutcome]
          split_ifs
          · simp [OpenedKnown]
          · simp [OpenedKnown]

/-- A half-open breaker denies every call, and every other one admits a call in time. -/
lemma recoverable_iff_not_halfOpen (h : OpenedKnown stored) :
    service.Recoverable stored ↔ isHalfOpen stored = false := by
  cases stored with
  | none => exact iff_of_true ⟨0, by simp [beforeCall, closedSnapshot]⟩ rfl
  | some snapshot =>
      cases hstatus : snapshot.status with
      | closed => exact iff_of_true ⟨0, by simp [beforeCall, hstatus]⟩ (by simp [isHalfOpen, hstatus])
      | halfOpen =>
          refine iff_of_false ?_ (by simp [isHalfOpen, hstatus])
          rintro ⟨t, ht⟩
          simpa [beforeCall, hstatus] using ht t le_rfl
      | opened =>
          rcases Option.ne_none_iff_exists'.mp (h snapshot rfl hstatus) with ⟨since, hsince⟩
          refine iff_of_true ⟨since + service.resetAfter, ?_⟩ (by simp [isHalfOpen, hstatus])
          intro now hnow
          simp [beforeCall, hstatus, hsince, hnow]

/-- **What an operation does to a half-open breaker.**  The breaker is half open afterwards exactly
when it was and nothing was decided, or when the operation was a probe. -/
lemma isHalfOpen_operate (service : CircuitBreakerService)
    (stored : Option CircuitBreakerSnapshot) (call : BreakerCall) :
    isHalfOpen (service.operate stored call).2 = true ↔
      (isHalfOpen stored = true ∧ BreakerEvent.decides ⟨stored, call, (service.operate stored call).1,
        (service.operate stored call).2⟩ = false) ∨
      service.probes ⟨stored, call, (service.operate stored call).1,
        (service.operate stored call).2⟩ = true := by
  cases call with
  | before now =>
      cases stored with
      | none => simp [operate, beforeCall, closedSnapshot, isHalfOpen, probes]
      | some snapshot =>
          cases hstatus : snapshot.status with
          | closed => simp [operate, beforeCall, hstatus, isHalfOpen, probes]
          | halfOpen =>
              simp [operate, beforeCall, hstatus, isHalfOpen, probes,
                BreakerEvent.decides]
          | opened =>
              simp only [operate, beforeCall, Option.getD_some, hstatus]
              split_ifs with hwindow
              · simpa [isHalfOpen, probes, hstatus] using hwindow
              · simpa [isHalfOpen, probes, hstatus] using hwindow
  | record outcome now =>
      cases outcome with
      | success =>
          simp [operate, recordOutcome, closedSnapshot, isHalfOpen, probes,
            BreakerEvent.decides]
      | permanentFailure =>
          cases stored with
          | none =>
              simp [operate, recordOutcome, closedSnapshot, isHalfOpen, probes]
          | some snapshot =>
              simp [operate, recordOutcome, isHalfOpen, probes,
                BreakerEvent.decides]
      | transientFailure =>
          simp only [operate, recordOutcome]
          split_ifs
          · simp [isHalfOpen, probes, BreakerEvent.decides]
          · simp [isHalfOpen, probes, BreakerEvent.decides]

/-- A run ends half open exactly when it began so and nothing was decided, or when nothing was
decided after one of its probes. -/
lemma isHalfOpen_finish (service : CircuitBreakerService) (stored : Option CircuitBreakerSnapshot)
    (calls : List BreakerCall) :
    isHalfOpen (finish service.operate stored calls) = true ↔
      (isHalfOpen stored = true ∧ ∀ e ∈ trace service.operate stored calls,
        BreakerEvent.decides e = false) ∨
      ∃ e later, e :: later <:+ trace service.operate stored calls ∧
        service.probes e = true ∧ ∀ e' ∈ later, BreakerEvent.decides e' = false := by
  induction calls generalizing stored with
  | nil => simp [trace]
  | cons call calls ih =>
      rw [finish_cons, ih, isHalfOpen_operate]
      simp only [trace, List.forall_mem_cons, List.suffix_cons_iff]
      constructor
      · rintro (⟨⟨hhalf, hnot⟩ | hprobe, hlater⟩ | ⟨e, later, hsuffix, hprobe, hlater⟩)
        · exact Or.inl ⟨hhalf, hnot, hlater⟩
        · exact Or.inr ⟨_, _, Or.inl rfl, hprobe, hlater⟩
        · exact Or.inr ⟨e, later, Or.inr hsuffix, hprobe, hlater⟩
      · rintro (⟨hhalf, hnot, hlater⟩ | ⟨e, later, heq | hsuffix, hprobe, hlater⟩)
        · exact Or.inl ⟨Or.inl ⟨hhalf, hnot⟩, hlater⟩
        · cases heq
          exact Or.inl ⟨Or.inr hprobe, hlater⟩
        · exact Or.inr ⟨e, later, hsuffix, hprobe, hlater⟩

/-- **When the breaker recovers.**  After any run, with any thresholds and at any times, a call is
admitted again from some time on exactly when after every probe a success or a transient
failure was recorded. -/
theorem recoverable_iff (service : CircuitBreakerService) (calls : List BreakerCall) :
    service.Recoverable (finish service.operate none calls) ↔
      service.ProbesDecided (trace service.operate none calls) := by
  have hknown : OpenedKnown (finish service.operate none calls) :=
    finish_invariant (C := fun _ _ => True) (fun _ call hs _ => openedKnown_operate call hs)
      (by simp [OpenedKnown]) fun _ _ => trivial
  rw [recoverable_iff_not_halfOpen hknown, ← Bool.not_eq_true, isHalfOpen_finish]
  simp only [isHalfOpen, Option.any_none, Bool.false_eq_true, false_and, false_or, ProbesDecided]
  push Not
  simp

/-! ## A probe that fails for good -/

/-- A breaker that opens at the first failure and resets after a second. -/
def oneSecond : CircuitBreakerService := ⟨1, 1, by decide, by decide⟩

/-- A transient failure, and a probe that ends with a permanent one. -/
def permanentProbe : List BreakerCall :=
  [.before 0, .record .transientFailure 0, .before 2000000, .record .permanentFailure 3000000]

/-- Both admitted calls are recorded, and no call is ever admitted again. -/
theorem not_recoverable_permanent_probe :
    Settled (trace oneSecond.operate none permanentProbe) ∧
      ¬ oneSecond.Recoverable (finish oneSecond.operate none permanentProbe) := by
  refine ⟨by simp only [Settled]; decide, ?_⟩
  rintro ⟨t, ht⟩
  have hdenied : ∀ now, (oneSecond.beforeCall
      (some ⟨.halfOpen, 1, some 0, some 2000000, 3000000⟩) now).1.allowed = false := fun _ => rfl
  have hstuck : finish oneSecond.operate none permanentProbe =
      some ⟨.halfOpen, 1, some 0, some 2000000, 3000000⟩ := by decide
  have hallowed := ht t le_rfl
  rw [hstuck, hdenied] at hallowed
  cases hallowed

end CircuitBreakerService

end StockResearch.Providers
