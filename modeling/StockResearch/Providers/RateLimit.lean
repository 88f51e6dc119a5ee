import StockResearch.Core.Canonical
import StockResearch.Core.Decimal
import StockResearch.Core.Pacing
import StockResearch.Core.Transaction
import StockResearch.Core.Uuid
import StockResearch.Core.Zoned
import Mathlib.Data.List.MinMax

/-!
# The rate limiter

`ProviderRateLimiter.reserve` lets a request of some units start, or denies it.  A reservation is an
audit event; the decision reads the latest one of the scope alone and asks for the time that the
units of the new request take at the project's rate.  The clock may go back between two calls.

An accepted reservation is later than every one before it by at least that time, so the accepted
ones are paced (`paced_accepted`), and no window gets more units than the rate allows
(`reserve_within_rate`).

Times are moments of UTC.  Quotients are exact: both the interval and the seconds between two
moments are rational numbers.
-/

namespace StockResearch.Providers

open Txn PyTime PyJson PyDecimal Pacing

/-- `ProviderAuditEvent` -/
structure ProviderAuditEvent where
  providerDefinitionId : Uuid
  syncRunId : Option Uuid
  actorType : String
  actionCode : String
  decisionCode : String
  safeSummary : String
  eventChecksum : String
  createdAt : Instant
deriving DecidableEq

/-- `ProviderRateLimitScope` -/
structure ProviderRateLimitScope where
  providerDefinitionId : Uuid
  providerCapabilityId : Uuid
  credentialReferenceId : Option Uuid
  projectRatePerSecond : Decimal
  officialMaxRatePerSecond : Decimal
  positive : 0 < projectRatePerSecond.toRat ∧ 0 < officialMaxRatePerSecond.toRat
  below : projectRatePerSecond.toRat < officialMaxRatePerSecond.toRat

/-- `RateLimitDecision` -/
structure RateLimitDecision where
  allowed : Bool
  reasonCode : String
  retryAfterSeconds : ℚ
  scopeChecksum : String
deriving DecidableEq

structure RateLimitCall where
  now : Instant
  units : Int
deriving DecidableEq

/-- The digest of a canonical text: `provider_checksum` is this of the JSON of its argument. -/
abbrev Digest := List Char → String

/-- `scope.checksum()` -/
def ProviderRateLimitScope.checksum (digest : Digest) (scope : ProviderRateLimitScope) : String :=
  digest (canonicalText (.obj [
    ("provider_definition_id", .str scope.providerDefinitionId.str),
    ("provider_capability_id", .str scope.providerCapabilityId.str),
    ("credential_reference_id", (scope.credentialReferenceId.map fun id => .str id.str).getD .null),
    ("project_rate_per_second", .str scope.projectRatePerSecond.str),
    ("official_max_rate_per_second", .str scope.officialMaxRatePerSecond.str)]))

namespace PostgresRateLimitReservationStore

/-- `f"RATE_{scope_checksum}"` -/
def decisionCode (scopeChecksum : String) : String := "RATE_" ++ scopeChecksum

/-- An event is a reservation of the scope. -/
def isReservation (scopeChecksum : String) (providerDefinitionId : Uuid) (e : ProviderAuditEvent) :
    Bool :=
  e.providerDefinitionId = providerDefinitionId && e.actionCode = "RATE_LIMIT_RESERVATION" &&
    e.decisionCode = decisionCode scopeChecksum

/-- Times are compared in the order of the integers, which computes. -/
local instance intPreorder : Preorder ℤ := Int.instLinearOrder.toPreorder

/-- The time of the latest reservation of the scope. -/
def latest (scopeChecksum : String) (providerDefinitionId : Uuid)
    (events : List ProviderAuditEvent) : Option Instant :=
  ((events.filter (isReservation scopeChecksum providerDefinitionId)).map (·.createdAt)).argmax
    Instant.microseconds

/-- The event that a reservation is stored as. -/
def reservation (digest : Digest) (scopeChecksum : String) (providerDefinitionId : Uuid)
    (now : Instant) : ProviderAuditEvent where
  providerDefinitionId := providerDefinitionId
  syncRunId := none
  actorType := "SYSTEM"
  actionCode := "RATE_LIMIT_RESERVATION"
  decisionCode := decisionCode scopeChecksum
  safeSummary := "Rate limit reservation"
  eventChecksum := digest (canonicalText (.obj [
    ("provider_definition_id", .str providerDefinitionId.str),
    ("scope_checksum", .str scopeChecksum),
    ("reserved_at", .str (String.ofList (now.isoChars.dropLast ++ "+00:00".toList)))]))
  createdAt := now

/-- `reserve_slot`, under the lock of its scope. -/
def reserveSlot (digest : Digest) (scopeChecksum : String) (providerDefinitionId : Uuid)
    (now : Instant) (minimumIntervalSeconds : ℚ) (events : List ProviderAuditEvent) :
    Bool × List ProviderAuditEvent :=
  if (latest scopeChecksum providerDefinitionId events).any fun previous =>
      secondsBetween previous now < minimumIntervalSeconds then (false, events)
  else (true, events ++ [reservation digest scopeChecksum providerDefinitionId now])

end PostgresRateLimitReservationStore

open PostgresRateLimitReservationStore

/-- `ProviderRateLimiter.reserve`, over the stored audit events. -/
def reserve (digest : Digest) (scope : ProviderRateLimitScope) (events : List ProviderAuditEvent)
    (call : RateLimitCall) : Except String RateLimitDecision × List ProviderAuditEvent :=
  if ¬ (1 ≤ call.units ∧ call.units ≤ 100) then (.error "PROVIDER_RATE_LIMIT_UNITS_INVALID", events)
  else
    let interval := call.units / scope.projectRatePerSecond.toRat
    let checksum := scope.checksum digest
    let (allowed, events) :=
      reserveSlot digest checksum scope.providerDefinitionId call.now interval events
    (.ok {
      allowed := allowed
      reasonCode := if allowed then "PROVIDER_RATE_RESERVED" else "PROVIDER_RATE_LIMITED"
      retryAfterSeconds := if allowed then 0 else interval
      scopeChecksum := checksum }, events)

/-- A call of a run on one scope. -/
abbrev RateLimitEvent :=
  Event (List ProviderAuditEvent) RateLimitCall (Except String RateLimitDecision)

/-- The call of a scope over some stored events. -/
def RateLimitEvent.of (digest : Digest) (scope : ProviderRateLimitScope)
    (events : List ProviderAuditEvent) (call : RateLimitCall) : RateLimitEvent :=
  ⟨events, call, (reserve digest scope events call).1, (reserve digest scope events call).2⟩

/-- The call was granted. -/
def RateLimitEvent.accepted (e : RateLimitEvent) : Bool :=
  match e.outcome with
  | .ok decision => decision.allowed
  | .error _ => false

/-- The granted calls of a run, in order. -/
def accepted (digest : Digest) (scope : ProviderRateLimitScope) (events : List ProviderAuditEvent)
    (calls : List RateLimitCall) : List RateLimitCall :=
  ((trace (reserve digest scope) events calls).filter RateLimitEvent.accepted).map (·.call)

/-- A granted call as a start of its units, in seconds. -/
def RateLimitCall.start (call : RateLimitCall) : Start ℚ :=
  ⟨call.now.microseconds / 1000000, call.units⟩

/-- The units of the calls whose time is after `s` and no later than `t`. -/
def unitsWithin (s t : Instant) (calls : List RateLimitCall) : Int :=
  ((calls.filter fun call => s.microseconds < call.now.microseconds ∧
    call.now.microseconds ≤ t.microseconds).map (·.units)).sum

variable {digest : Digest} {scope : ProviderRateLimitScope} {events : List ProviderAuditEvent}
  {call : RateLimitCall} {calls : List RateLimitCall} {s t : Instant}

/-! ## One call -/

/-- The time of a stored reservation is the latest one when it is later than the one before. -/
lemma latest_reservation (digest : Digest) {scopeChecksum : String} {provider : Uuid}
    {now : Instant} (h : ∀ previous ∈ latest scopeChecksum provider events,
      previous.microseconds < now.microseconds) :
    latest scopeChecksum provider (events ++ [reservation digest scopeChecksum provider now]) =
      some now := by
  have hown : isReservation scopeChecksum provider
      (reservation digest scopeChecksum provider now) = true := by
    simp only [isReservation, reservation, decide_true, Bool.and_self]
  rw [latest, List.filter_append, List.filter_cons_of_pos hown, List.filter_nil, List.map_append,
    List.map_singleton, List.argmax_concat, ← latest]
  cases hlatest : latest scopeChecksum provider events with
  | none => simp only [reservation]
  | some previous =>
      simp only [reservation]
      exact if_pos (h previous hlatest)

/-- A slot is denied when it comes too soon after the latest reservation, and is stored otherwise. -/
lemma reserveSlot_cases (digest : Digest) (scopeChecksum : String) (provider : Uuid)
    (now : Instant) (interval : ℚ) (events : List ProviderAuditEvent) :
    reserveSlot digest scopeChecksum provider now interval events = (false, events) ∨
    reserveSlot digest scopeChecksum provider now interval events =
        (true, events ++ [reservation digest scopeChecksum provider now]) ∧
      ∀ previous ∈ latest scopeChecksum provider events,
        interval ≤ secondsBetween previous now := by
  unfold reserveSlot
  split_ifs with hsoon
  · exact Or.inl rfl
  · refine Or.inr ⟨rfl, fun previous hprevious => ?_⟩
    rw [Option.mem_def.mp hprevious, Option.any_some, decide_eq_true_eq] at hsoon
    exact not_lt.mp hsoon

/-- **What a call can do**: it is denied and stores nothing, or it is granted, late enough after the
latest reservation, and stores a reservation. -/
lemma reserve_cases (digest : Digest) (scope : ProviderRateLimitScope)
    (events : List ProviderAuditEvent) (call : RateLimitCall) :
    let e := RateLimitEvent.of digest scope events call
    (e.accepted = false ∧ e.after = events) ∨
    (e.accepted = true ∧ 1 ≤ call.units ∧
      e.after = events ++
        [reservation digest (scope.checksum digest) scope.providerDefinitionId call.now] ∧
      ∀ previous ∈ latest (scope.checksum digest) scope.providerDefinitionId events,
        call.units / scope.projectRatePerSecond.toRat ≤ secondsBetween previous call.now) := by
  dsimp only [RateLimitEvent.of]
  by_cases hunits : 1 ≤ call.units ∧ call.units ≤ 100
  · rw [reserve, if_neg (not_not_intro hunits)]
    rcases reserveSlot_cases digest (scope.checksum digest) scope.providerDefinitionId call.now
      (call.units / scope.projectRatePerSecond.toRat) events with hdenied | ⟨hgranted, hlate⟩
    · simp only [hdenied]
      exact Or.inl ⟨rfl, trivial⟩
    · simp only [hgranted]
      exact Or.inr ⟨rfl, hunits.1, trivial, hlate⟩
  · rw [reserve, if_pos hunits]
    exact Or.inl ⟨rfl, rfl⟩

/-- The units of a call fit into the time since the latest reservation. -/
lemma follows_start {previous : Instant} (hunits : 1 ≤ call.units)
    (h : call.units / scope.projectRatePerSecond.toRat ≤ secondsBetween previous call.now)
    (n : ℚ) : Follows scope.projectRatePerSecond.toRat
      ⟨previous.microseconds / 1000000, n⟩ call.start := by
  have hpos : (0 : ℚ) < call.units := by exact_mod_cast hunits
  have hbetween : secondsBetween previous call.now =
      call.start.time - previous.microseconds / 1000000 := by
    simp only [secondsBetween, RateLimitCall.start, Int.cast_sub, sub_div]
  refine ⟨hpos, ?_⟩
  rw [← hbetween, mul_comm]
  exact (div_le_iff₀ scope.positive.1).mp h

/-! ## Runs -/

/-- **The granted calls are paced**, from the latest stored reservation on. -/
lemma paced_accepted (events : List ProviderAuditEvent) (calls : List RateLimitCall) :
    Paced scope.projectRatePerSecond.toRat ((accepted digest scope events calls).map (·.start)) ∧
    ∀ previous ∈ latest (scope.checksum digest) scope.providerDefinitionId events, ∀ n,
      Paced scope.projectRatePerSecond.toRat (⟨previous.microseconds / 1000000, n⟩ ::
        (accepted digest scope events calls).map (·.start)) := by
  induction calls generalizing events with
  | nil => exact ⟨List.isChain_nil, fun _ _ _ => List.isChain_singleton _⟩
  | cons call calls ih =>
      have hcases := reserve_cases digest scope events call
      simp only [accepted, trace, RateLimitEvent.of] at hcases ⊢
      rcases hcases with ⟨hdenied, hsame⟩ | ⟨hgranted, hunits, hstored, hlate⟩
      · rw [List.filter_cons_of_neg (by simp [hdenied]), hsame]
        exact ih events
      · rw [List.filter_cons_of_pos hgranted, hstored]
        have hfollows := fun previous hprevious n =>
          follows_start hunits (hlate previous hprevious) n
        have hlater : ∀ previous ∈ latest (scope.checksum digest) scope.providerDefinitionId events,
            previous.microseconds < call.now.microseconds := by
          intro previous hprevious
          have hlt := (hfollows previous hprevious 0).lt scope.positive.1
          simpa [RateLimitCall.start, div_lt_div_iff_of_pos_right] using hlt
        have hnext := (ih _).2 call.now (latest_reservation digest hlater) call.units
        exact ⟨hnext, fun previous hprevious n =>
          List.isChain_cons_cons.mpr ⟨hfollows previous hprevious n, hnext⟩⟩

lemma units_window_start (calls : List RateLimitCall) :
    units (window (s.microseconds / 1000000 : ℚ) (t.microseconds / 1000000)
      (calls.map (·.start))) = unitsWithin s t calls := by
  have hwithin : ∀ call : RateLimitCall,
      ((s.microseconds / 1000000 : ℚ) < call.start.time ∧
        call.start.time ≤ (t.microseconds / 1000000 : ℚ)) ↔
      s.microseconds < call.now.microseconds ∧ call.now.microseconds ≤ t.microseconds := by
    intro call
    simp [RateLimitCall.start, div_lt_div_iff_of_pos_right, div_le_div_iff_of_pos_right]
  induction calls with
  | nil => rfl
  | cons call calls ih =>
      simp only [window, unitsWithin, List.map_cons, List.filter_cons, hwithin,
        decide_eq_true_eq] at ih ⊢
      split_ifs
      · rw [units_cons, ih, List.map_cons, List.sum_cons, Int.cast_add]
        rfl
      · exact ih

/-- A denied call leaves the store to the calls after it as it was. -/
lemma finish_of_denied
    (h : (RateLimitEvent.of digest scope events call).accepted = false) :
    (reserve digest scope events call).2 = events := by
  rcases reserve_cases digest scope events call with ⟨-, hsame⟩ | ⟨hgranted, -⟩
  · exact hsame
  · rw [h] at hgranted
    exact absurd hgranted Bool.false_ne_true

/-- **The limiter keeps to its rate.**  Whatever is stored at first, however the calls of a scope
follow one another and whatever the clock shows: after a granted reservation at `s` and until
one at `t`, the granted units are at most what the project's rate gives for the time between.  A
denied call stores nothing, and the run without it goes on in the same way. -/
theorem reserve_within_rate (digest : Digest) (scope : ProviderRateLimitScope)
    (events : List ProviderAuditEvent) (calls : List RateLimitCall) :
    (∀ s ∈ accepted digest scope events calls, ∀ t ∈ accepted digest scope events calls,
      s.now.microseconds ≤ t.now.microseconds →
      unitsWithin s.now t.now (accepted digest scope events calls) ≤
        scope.projectRatePerSecond.toRat * secondsBetween s.now t.now) ∧
    (∀ e ∈ trace (reserve digest scope) events calls, RateLimitEvent.accepted e = false →
      e.after = e.before) ∧
    ∀ before call after e, calls = before ++ call :: after →
      e = RateLimitEvent.of digest scope (finish (reserve digest scope) events before) call →
      e.accepted = false →
      ∃ later, trace (reserve digest scope) events calls =
          trace (reserve digest scope) events before ++ e :: later ∧
        trace (reserve digest scope) events (before ++ after) =
          trace (reserve digest scope) events before ++ later := by
  refine ⟨fun s hs t _ hst => ?_, fun e he hdenied => ?_, ?_⟩
  · have hpaced := (@paced_accepted digest scope events calls).1
    have hle : s.start.time ≤ t.start.time := by
      simpa [RateLimitCall.start, div_le_div_iff_of_pos_right] using hst
    have hwindow := units_window_le scope.positive.1 hpaced (List.mem_map_of_mem hs) hle
    rw [RateLimitCall.start, RateLimitCall.start, units_window_start] at hwindow
    simpa only [secondsBetween, Int.cast_sub, sub_div] using hwindow
  · have hstep := step_of_mem_trace he
    have hof : e = RateLimitEvent.of digest scope e.before e.call := by
      simp only [RateLimitEvent.of, hstep]
    rw [hof] at hdenied
    rw [← finish_of_denied hdenied, hstep]
  · rintro before call after e rfl rfl hdenied
    refine ⟨trace (reserve digest scope) (finish (reserve digest scope) events before) after,
      ?_, trace_append ..⟩
    rw [trace_append, trace, RateLimitEvent.of, finish_of_denied hdenied]

end StockResearch.Providers
