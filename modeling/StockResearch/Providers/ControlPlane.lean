import StockResearch.Core.Transaction
import StockResearch.Core.Uuid
import StockResearch.Core.Zoned
import Mathlib.Tactic.Linarith

/-!
# The budget of a sync run

A sync run has a budget of requests, bytes, attempts and time.  `_reserve_budget` takes one request
of some bytes from what is left of it, and two stores keep what is left: one in memory, one in the
rows of the run and of its request.

`BudgetKept` is what the budget is for: what was consumed is what the allowed reservations took, it
stays within the limits, a denied reservation changes nothing, and while bytes and time remain a
run can make all the requests of its budget.  The last point asks for more than the code does.
Every allowed reservation also counts as an attempt, and the attempts of a budget, three at most,
are meant for one request.  So a run stops after `max_attempts` requests (`room_iff`), and the
budget is kept exactly when it has no more requests than attempts (`budgetKept_iff`).
-/

namespace StockResearch.Providers

open Txn PyTime

inductive ProviderRunStatus where
  | planned | queued | running | paused | completed | partiallyDone | blocked | failed | cancelled
deriving DecidableEq, Repr

/-- The budget of a request, within `_BUDGET_BOUNDS`. -/
structure ProviderSyncBudget where
  maxRequests : Nat
  maxBytes : Nat
  maxAttempts : Nat
  maxDurationSeconds : Nat
  validRequests : 1 ≤ maxRequests ∧ maxRequests ≤ 10000
  validBytes : 1 ≤ maxBytes ∧ maxBytes ≤ 10737418240
  validAttempts : 1 ≤ maxAttempts ∧ maxAttempts ≤ 3
  validDuration : 1 ≤ maxDurationSeconds ∧ maxDurationSeconds ≤ 86400
deriving DecidableEq

structure Consumed where
  requests : Nat
  bytes : Nat
  attempts : Nat
deriving DecidableEq, Repr

/-- `ProviderBudgetSnapshot` -/
structure ProviderBudgetSnapshot extends ProviderSyncBudget where
  runId : Uuid
  consumed : Consumed
  startedAt : Instant
deriving DecidableEq

/-- `ProviderBudgetReservation` -/
structure ProviderBudgetReservation where
  allowed : Bool
  reasonCode : String
  consumed : Consumed
deriving DecidableEq, Repr

/-- What a reservation can raise. -/
inductive BudgetError where
  | lookup (code : String)
  /-- A field of a constructed value breaks its bound. -/
  | validation (field : String)
  /-- A method of `None` is called. -/
  | attribute (name : String)
deriving DecidableEq, Repr

/-- One reservation on a run: its size and the time. -/
structure BudgetCall where
  requestBytes : Int
  now : Instant
deriving DecidableEq

def reserveBudget (snapshot : ProviderBudgetSnapshot) (requestBytes : Int) (now : Instant) :
    Except BudgetError (ProviderBudgetReservation × ProviderBudgetSnapshot) :=
  let consumed := snapshot.consumed
  if snapshot.maxDurationSeconds ≤ secondsBetween snapshot.startedAt now then
    .ok (⟨false, "PROVIDER_DURATION_EXHAUSTED", consumed⟩, snapshot)
  else if snapshot.maxRequests < consumed.requests + 1 ∨
      snapshot.maxBytes < consumed.bytes + requestBytes ∨
      snapshot.maxAttempts < consumed.attempts + 1 then
    .ok (⟨false, "PROVIDER_BUDGET_EXHAUSTED", consumed⟩, snapshot)
  else if consumed.bytes + requestBytes < 0 then .error (.validation "consumed_bytes")
  else
    let updated : Consumed :=
      ⟨consumed.requests + 1, (consumed.bytes + requestBytes).toNat, consumed.attempts + 1⟩
    .ok (⟨true, "PROVIDER_BUDGET_RESERVED", updated⟩, { snapshot with consumed := updated })

/-! ## The two stores -/

/-- The snapshots of `InMemoryProviderBudgetStore`. -/
abbrev InMemoryProviderBudgetStore := Uuid → Option ProviderBudgetSnapshot

/-- The snapshot of a run is replaced by the updated one, if there is one. -/
def InMemoryProviderBudgetStore.keep (runId : Uuid) (snapshots : InMemoryProviderBudgetStore) :
    Except BudgetError (ProviderBudgetReservation × ProviderBudgetSnapshot) →
    Except BudgetError ProviderBudgetReservation × InMemoryProviderBudgetStore
  | .error e => (.error e, snapshots)
  | .ok (result, updated) => (.ok result, Function.update snapshots runId (some updated))

def InMemoryProviderBudgetStore.reserve (runId : Uuid) (snapshots : InMemoryProviderBudgetStore)
    (call : BudgetCall) :
    Except BudgetError ProviderBudgetReservation × InMemoryProviderBudgetStore :=
  match snapshots runId with
  | none => (.error (.lookup "PROVIDER_SYNC_RUN_NOT_FOUND"), snapshots)
  | some snapshot => snapshots.keep runId (reserveBudget snapshot call.requestBytes call.now)

/-- A row of `provider_sync_runs`. -/
structure ProviderSyncRun where
  syncRequestId : Uuid
  status : ProviderRunStatus
  consumed : Consumed
  startedAt : Option Instant
deriving DecidableEq

/-- The rows that `PostgresProviderBudgetStore` reads: the runs by their id, and the budgets of the
requests. -/
structure PostgresProviderBudgetStore where
  runs : Uuid → Option ProviderSyncRun
  budgets : Uuid → Option ProviderSyncBudget

/-- The row of a run is written when the reservation is allowed. -/
def PostgresProviderBudgetStore.keep (runId : Uuid) (db : PostgresProviderBudgetStore)
    (run : ProviderSyncRun) :
    Except BudgetError (ProviderBudgetReservation × ProviderBudgetSnapshot) →
    Except BudgetError ProviderBudgetReservation × PostgresProviderBudgetStore
  | .error e => (.error e, db)
  | .ok (result, updated) =>
      if result.allowed then
        (.ok result, { db with
          runs := Function.update db.runs runId (some { run with consumed := updated.consumed }) })
      else (.ok result, db)

/-- `PostgresProviderBudgetStore.reserve`, under the lock of the row of the run. -/
def PostgresProviderBudgetStore.reserve (runId : Uuid) (db : PostgresProviderBudgetStore)
    (call : BudgetCall) :
    Except BudgetError ProviderBudgetReservation × PostgresProviderBudgetStore :=
  match (db.runs runId).bind fun run => (db.budgets run.syncRequestId).map fun b => (run, b) with
  | none => (.error (.lookup "PROVIDER_SYNC_RUN_NOT_FOUND"), db)
  | some (run, budget) =>
      if run.status ≠ .running then
        (.ok ⟨false, "PROVIDER_RUN_NOT_RUNNING", run.consumed⟩, db)
      else
        match run.startedAt with
        | none => (.error (.attribute "tzinfo"), db)
        | some startedAt =>
            let snapshot : ProviderBudgetSnapshot := ⟨budget, runId, run.consumed, startedAt⟩
            db.keep runId run (reserveBudget snapshot call.requestBytes call.now)

/-! ## What the budget is for -/

/-- A reservation of a run of some store. -/
abbrev BudgetEvent (σ : Type) := Event σ BudgetCall (Except BudgetError ProviderBudgetReservation)

/-- The reservation was allowed. -/
def isAllowed : Except BudgetError ProviderBudgetReservation → Bool
  | .ok result => result.allowed
  | .error _ => false

/-- The allowed reservations of a run, in order. -/
def allowedCalls {σ : Type} (events : List (BudgetEvent σ)) : List BudgetCall :=
  (events.filter fun e => isAllowed e.outcome).map (·.call)

lemma allowedCalls_cons_of_allowed {σ : Type} {e : BudgetEvent σ} {events : List (BudgetEvent σ)}
    (h : isAllowed e.outcome = true) :
    allowedCalls (e :: events) = e.call :: allowedCalls events := by
  simp only [allowedCalls, List.filter_cons, h, if_true, List.map_cons]

lemma allowedCalls_cons_of_denied {σ : Type} {e : BudgetEvent σ} {events : List (BudgetEvent σ)}
    (h : isAllowed e.outcome = false) : allowedCalls (e :: events) = allowedCalls events := by
  simp only [allowedCalls, List.filter_cons, h, Bool.false_eq_true, if_false]

/-- The bytes of some reservations together. -/
def totalBytes (calls : List BudgetCall) : Int := (calls.map (·.requestBytes)).sum

lemma totalBytes_cons (call : BudgetCall) (calls : List BudgetCall) :
    totalBytes (call :: calls) = call.requestBytes + totalBytes calls := by
  rw [totalBytes, List.map_cons, List.sum_cons, ← totalBytes]

/-- Sizes that are not negative have a sum that is not. -/
lemma totalBytes_nonneg {calls : List BudgetCall} (h : ∀ call ∈ calls, 0 ≤ call.requestBytes) :
    0 ≤ totalBytes calls := by
  induction calls with
  | nil => exact le_rfl
  | cons call calls ih =>
      obtain ⟨hcall, hrest⟩ := List.forall_mem_cons.mp h
      rw [totalBytes_cons]
      exact add_nonneg hcall (ih hrest)

/-- **A budget is kept** by the runs of a store from `s`, where `consumed` reads the counters. -/
structure BudgetKept {σ : Type}
    (step : σ → BudgetCall → Except BudgetError ProviderBudgetReservation × σ)
    (consumed : σ → Option Consumed) (budget : ProviderSyncBudget) (startedAt : Instant) (s : σ) :
    Prop where
  /-- What was consumed is what the allowed reservations took. -/
  totals : ∀ calls, ∃ c, consumed (finish step s calls) = some c ∧
    c.requests = (allowedCalls (trace step s calls)).length ∧
    c.bytes = totalBytes (allowedCalls (trace step s calls)) ∧
    c.attempts = (allowedCalls (trace step s calls)).length
  /-- It stays within the limits. -/
  limits : ∀ calls, ∀ c ∈ consumed (finish step s calls),
    c.requests ≤ budget.maxRequests ∧ c.bytes ≤ budget.maxBytes ∧ c.attempts ≤ budget.maxAttempts
  /-- A denied reservation changes nothing. -/
  denied : ∀ calls, ∀ e ∈ trace step s calls, isAllowed e.outcome = false → e.after = e.before
  /-- While bytes and time remain, all requests of the budget can be made. -/
  room : ∀ calls : List BudgetCall, calls.length ≤ budget.maxRequests →
    (∀ call ∈ calls, 0 ≤ call.requestBytes ∧
      secondsBetween startedAt call.now < budget.maxDurationSeconds) →
    totalBytes calls ≤ budget.maxBytes → ∀ e ∈ trace step s calls, isAllowed e.outcome = true

/-- A store in memory where a run has consumed nothing yet. -/
def InMemoryProviderBudgetStore.fresh (others : InMemoryProviderBudgetStore) (runId : Uuid)
    (budget : ProviderSyncBudget) (startedAt : Instant) : InMemoryProviderBudgetStore :=
  Function.update others runId (some ⟨budget, runId, ⟨0, 0, 0⟩, startedAt⟩)

/-- Rows where a running run has consumed nothing yet. -/
def PostgresProviderBudgetStore.fresh (others : PostgresProviderBudgetStore)
    (runId syncRequestId : Uuid) (budget : ProviderSyncBudget) (startedAt : Instant) :
    PostgresProviderBudgetStore where
  runs := Function.update others.runs runId
    (some ⟨syncRequestId, .running, ⟨0, 0, 0⟩, some startedAt⟩)
  budgets := Function.update others.budgets syncRequestId (some budget)

/-! ## One reservation -/

/-- What is left of the budget is enough for a reservation. -/
structure Fits (budget : ProviderSyncBudget) (startedAt : Instant) (c : Consumed)
    (call : BudgetCall) : Prop where
  time : secondsBetween startedAt call.now < budget.maxDurationSeconds
  requests : c.requests + 1 ≤ budget.maxRequests
  bytes : c.bytes + call.requestBytes ≤ budget.maxBytes
  attempts : c.attempts + 1 ≤ budget.maxAttempts
  nonneg : 0 ≤ c.bytes + call.requestBytes

/-- What is consumed after a reservation. -/
def Consumed.take (c : Consumed) (call : BudgetCall) : Consumed :=
  ⟨c.requests + 1, (c.bytes + call.requestBytes).toNat, c.attempts + 1⟩

/-- A store meters a run: `At` is what is consumed, a reservation that fits is taken from it, and any
other leaves the store alone. -/
structure Meters {σ : Type}
    (step : σ → BudgetCall → Except BudgetError ProviderBudgetReservation × σ)
    (consumed : σ → Option Consumed) (budget : ProviderSyncBudget) (startedAt : Instant)
    (At : σ → Consumed → Prop) : Prop where
  reads : ∀ {s c}, At s c → consumed s = some c
  taken : ∀ {s c call}, At s c → Fits budget startedAt c call →
    isAllowed (step s call).1 = true ∧ At (step s call).2 (c.take call)
  refused : ∀ {s c call}, At s c → ¬ Fits budget startedAt c call →
    isAllowed (step s call).1 = false ∧ (step s call).2 = s

section OneReservation

variable {budget : ProviderSyncBudget} {startedAt : Instant} {c : Consumed} {runId : Uuid}
  {call : BudgetCall}

lemma reserveBudget_of_fits (h : Fits budget startedAt c call) :
    reserveBudget ⟨budget, runId, c, startedAt⟩ call.requestBytes call.now =
      .ok (⟨true, "PROVIDER_BUDGET_RESERVED", c.take call⟩,
        ⟨budget, runId, c.take call, startedAt⟩) := by
  obtain ⟨htime, hrequests, hbytes, hattempts, hnonneg⟩ := h
  have hleft : ¬ (budget.maxRequests < c.requests + 1 ∨
      (budget.maxBytes : Int) < c.bytes + call.requestBytes ∨
      budget.maxAttempts < c.attempts + 1) := by omega
  simp only [reserveBudget]
  rw [if_neg (not_le.mpr htime), if_neg hleft, if_neg (not_lt.mpr hnonneg)]
  rfl

/-- A reservation that does not fit is denied, or refused with an error. -/
lemma reserveBudget_of_not_fits (h : ¬ Fits budget startedAt c call) :
    (∃ e, reserveBudget ⟨budget, runId, c, startedAt⟩ call.requestBytes call.now = .error e) ∨
    ∃ reason, reserveBudget ⟨budget, runId, c, startedAt⟩ call.requestBytes call.now =
      .ok (⟨false, reason, c⟩, ⟨budget, runId, c, startedAt⟩) := by
  simp only [reserveBudget]
  split_ifs with htime hleft hnegative
  · exact Or.inr ⟨_, rfl⟩
  · exact Or.inr ⟨_, rfl⟩
  · exact Or.inl ⟨_, rfl⟩
  · push Not at htime hleft hnegative
    refine absurd ⟨htime, ?_, hleft.2.1, ?_, hnegative⟩ h
    · exact hleft.1
    · exact hleft.2.2

/-- What a run in memory stands at. -/
def InMemoryProviderBudgetStore.At (budget : ProviderSyncBudget) (startedAt : Instant)
    (runId : Uuid) (snapshots : InMemoryProviderBudgetStore) (c : Consumed) : Prop :=
  snapshots runId = some ⟨budget, runId, c, startedAt⟩

/-- The counters of a run in memory. -/
def InMemoryProviderBudgetStore.consumed (runId : Uuid) (snapshots : InMemoryProviderBudgetStore) :
    Option Consumed :=
  (snapshots runId).map (·.consumed)

lemma InMemoryProviderBudgetStore.reserve_eq {snapshots : InMemoryProviderBudgetStore}
    (h : snapshots.At budget startedAt runId c) :
    reserve runId snapshots call = snapshots.keep runId
      (reserveBudget ⟨budget, runId, c, startedAt⟩ call.requestBytes call.now) := by
  unfold At at h
  rw [reserve, h]

lemma InMemoryProviderBudgetStore.meters :
    Meters (reserve runId) (consumed runId) budget startedAt (At budget startedAt runId) where
  reads h := by rw [consumed, h, Option.map_some]
  taken h hfits := by
    rw [reserve_eq h, reserveBudget_of_fits hfits]
    exact ⟨rfl, Function.update_self ..⟩
  refused h hfits := by
    rw [reserve_eq h]
    rcases reserveBudget_of_not_fits hfits with ⟨e, he⟩ | ⟨reason, hreason⟩
    · rw [he]
      exact ⟨rfl, rfl⟩
    · rw [hreason]
      refine ⟨rfl, ?_⟩
      rw [keep, ← show _ = _ from h, Function.update_eq_self]

/-- What the row of a running run stands at. -/
def PostgresProviderBudgetStore.At (budget : ProviderSyncBudget) (startedAt : Instant)
    (runId syncRequestId : Uuid) (db : PostgresProviderBudgetStore) (c : Consumed) : Prop :=
  db.runs runId = some ⟨syncRequestId, .running, c, some startedAt⟩ ∧
    db.budgets syncRequestId = some budget

/-- The counters in the row of a run. -/
def PostgresProviderBudgetStore.consumed (runId : Uuid) (db : PostgresProviderBudgetStore) :
    Option Consumed :=
  (db.runs runId).map (·.consumed)

lemma PostgresProviderBudgetStore.reserve_eq {syncRequestId : Uuid}
    {db : PostgresProviderBudgetStore} (h : db.At budget startedAt runId syncRequestId c) :
    reserve runId db call = db.keep runId ⟨syncRequestId, .running, c, some startedAt⟩
      (reserveBudget ⟨budget, runId, c, startedAt⟩ call.requestBytes call.now) := by
  simp only [reserve, h.1, Option.bind_some, h.2, Option.map_some, ne_eq, not_true_eq_false,
    if_false]

lemma PostgresProviderBudgetStore.meters (syncRequestId : Uuid) :
    Meters (reserve runId) (consumed runId) budget startedAt
      (At budget startedAt runId syncRequestId) where
  reads h := by rw [consumed, h.1, Option.map_some]
  taken h hfits := by
    rw [reserve_eq h, reserveBudget_of_fits hfits]
    exact ⟨rfl, Function.update_self .., h.2⟩
  refused h hfits := by
    rw [reserve_eq h]
    rcases reserveBudget_of_not_fits hfits with ⟨e, he⟩ | ⟨reason, hreason⟩
    · rw [he]
      exact ⟨rfl, rfl⟩
    · rw [hreason]
      exact ⟨rfl, rfl⟩

end OneReservation

/-! ## Runs -/

section Runs

variable {σ : Type} {step : σ → BudgetCall → Except BudgetError ProviderBudgetReservation × σ}
  {consumed : σ → Option Consumed} {budget : ProviderSyncBudget} {startedAt : Instant}
  {At : σ → Consumed → Prop} {s : σ} {c : Consumed}

/-- What is consumed stays within the limits. -/
def Consumed.Within (budget : ProviderSyncBudget) (c : Consumed) : Prop :=
  c.requests ≤ budget.maxRequests ∧ c.bytes ≤ budget.maxBytes ∧ c.attempts ≤ budget.maxAttempts

lemma Fits.within {call : BudgetCall} (h : Fits budget startedAt c call) :
    (c.take call).Within budget := by
  refine ⟨h.requests, ?_, h.attempts⟩
  have hbytes := h.bytes
  simp only [Consumed.take]
  omega

/-- **What a run does to the counters**: it adds what its allowed reservations took. -/
lemma Meters.run (hm : Meters step consumed budget startedAt At) (h : At s c)
    (hwithin : c.Within budget) (calls : List BudgetCall) :
    ∃ c', At (finish step s calls) c' ∧ c'.Within budget ∧
      c'.requests = c.requests + (allowedCalls (trace step s calls)).length ∧
      (c'.bytes : Int) = c.bytes + totalBytes (allowedCalls (trace step s calls)) ∧
      c'.attempts = c.attempts + (allowedCalls (trace step s calls)).length := by
  induction calls generalizing s c with
  | nil => exact ⟨c, h, hwithin, rfl, (add_zero _).symm, rfl⟩
  | cons call calls ih =>
      by_cases hfits : Fits budget startedAt c call
      · obtain ⟨hallowed, hnext⟩ := hm.taken h hfits
        obtain ⟨c', hat, hw, hrequests, hbytes, hattempts⟩ := ih hnext hfits.within
        have hnonneg := hfits.nonneg
        simp only [Consumed.take] at hrequests hbytes hattempts
        rw [trace, allowedCalls_cons_of_allowed hallowed, List.length_cons, totalBytes_cons]
        dsimp only
        exact ⟨c', hat, hw, by omega, by omega, by omega⟩
      · obtain ⟨hdenied, hsame⟩ := hm.refused h hfits
        rw [finish_cons, trace, allowedCalls_cons_of_denied hdenied, hsame]
        exact ih h hwithin

/-- A denied reservation leaves the store alone. -/
lemma Meters.denied (hm : Meters step consumed budget startedAt At) (h : At s c)
    (calls : List BudgetCall) {e : BudgetEvent σ} (he : e ∈ trace step s calls) (hdenied : isAllowed e.outcome = false) : e.after = e.before := by
  have hstands : ∀ s o, (∃ c, At s c) → True → ∃ c, At (step s o).2 c := by
    rintro s o ⟨c, h⟩ -
    by_cases hfits : Fits budget startedAt c o
    · exact ⟨_, (hm.taken h hfits).2⟩
    · rw [(hm.refused h hfits).2]
      exact ⟨c, h⟩
  obtain ⟨⟨c, hc⟩, -⟩ :=
    trace_invariant (C := fun _ _ => True) hstands ⟨c, h⟩ (fun _ _ => trivial) e he
  have hstep := step_of_mem_trace he
  by_cases hfits : Fits budget startedAt c e.call
  · have hallowed := (hm.taken hc hfits).1
    rw [hstep, hdenied] at hallowed
    exact absurd hallowed Bool.false_ne_true
  · have hsame := (hm.refused hc hfits).2
    rwa [hstep] at hsame

/-- With no more requests than attempts, every request finds its attempt. -/
lemma Meters.room (hm : Meters step consumed budget startedAt At)
    (hle : budget.maxRequests ≤ budget.maxAttempts) (h : At s c) (hsame : c.attempts = c.requests)
    (calls : List BudgetCall) (hlength : c.requests + calls.length ≤ budget.maxRequests)
    (hcalls : ∀ call ∈ calls, 0 ≤ call.requestBytes ∧
      secondsBetween startedAt call.now < budget.maxDurationSeconds)
    (hbytes : c.bytes + totalBytes calls ≤ budget.maxBytes) :
    ∀ e ∈ trace step s calls, isAllowed e.outcome = true := by
  induction calls generalizing s c with
  | nil => exact fun e he => absurd he List.not_mem_nil
  | cons call calls ih =>
      obtain ⟨hcall, hrest⟩ := List.forall_mem_cons.mp hcalls
      have hlater := totalBytes_nonneg fun call' hmem => (hrest call' hmem).1
      rw [totalBytes_cons] at hbytes
      rw [List.length_cons] at hlength
      have hfits : Fits budget startedAt c call :=
        ⟨hcall.2, by omega, by omega, by omega, by omega⟩
      obtain ⟨hallowed, hnext⟩ := hm.taken h hfits
      intro e he
      rcases List.mem_cons.mp he with rfl | he
      · exact hallowed
      · refine ih hnext ?_ ?_ hrest ?_ e he
        · simp only [Consumed.take, hsame]
        · simp only [Consumed.take]
          omega
        · simp only [Consumed.take]
          omega

/-- Where every reservation is allowed, all of them are. -/
lemma allowedCalls_eq_self (s : σ) (calls : List BudgetCall)
    (h : ∀ e ∈ trace step s calls, isAllowed e.outcome = true) :
    allowedCalls (trace step s calls) = calls := by
  induction calls generalizing s with
  | nil => rfl
  | cons call calls ih =>
      obtain ⟨hfirst, hrest⟩ := List.forall_mem_cons.mp h
      rw [trace, allowedCalls_cons_of_allowed hfirst, ih _ hrest]

/-- **A metered budget is kept exactly when it has no more requests than attempts.** -/
lemma Meters.kept_iff (hm : Meters step consumed budget startedAt At) (h : At s ⟨0, 0, 0⟩) :
    BudgetKept step consumed budget startedAt s ↔ budget.maxRequests ≤ budget.maxAttempts := by
  have hwithin : Consumed.Within budget ⟨0, 0, 0⟩ := ⟨Nat.zero_le _, Nat.zero_le _, Nat.zero_le _⟩
  constructor
  · intro hkept
    -- A run of as many empty requests as the budget has, all made at the start.
    have hroom := hkept.room (List.replicate budget.maxRequests ⟨0, startedAt⟩)
      (List.length_replicate ..).le ?_ ?_
    · obtain ⟨c, hat, hlimits, -, -, hattempts⟩ :=
        hm.run h hwithin (List.replicate budget.maxRequests ⟨0, startedAt⟩)
      rw [allowedCalls_eq_self _ _ hroom, List.length_replicate, zero_add] at hattempts
      exact hattempts ▸ hlimits.2.2
    · intro call hcall
      obtain rfl := List.eq_of_mem_replicate hcall
      have hpos : (0 : ℚ) < budget.maxDurationSeconds := by exact_mod_cast budget.validDuration.1
      exact ⟨le_rfl, by simpa [secondsBetween] using hpos⟩
    · simp [totalBytes]
  · intro hle
    refine ⟨fun calls => ?_, fun calls c hc => ?_, fun calls e he => hm.denied h calls he,
      fun calls hlength hcalls hbytes => hm.room hle h rfl calls ?_ hcalls ?_⟩
    · obtain ⟨c, hat, -, hrequests, hbytes, hattempts⟩ := hm.run h hwithin calls
      dsimp only at hrequests hbytes hattempts
      exact ⟨c, hm.reads hat, by omega, by omega, by omega⟩
    · obtain ⟨c', hat, hlimits, -⟩ := hm.run h hwithin calls
      rw [hm.reads hat] at hc
      cases hc
      exact hlimits
    · rwa [Nat.zero_add]
    · rwa [Nat.cast_zero, Int.zero_add]

end Runs

/-- **Both stores keep the budget of a run exactly when it has no more requests than attempts.** -/
theorem budgetKept_iff (memory : InMemoryProviderBudgetStore) (db : PostgresProviderBudgetStore)
    (runId syncRequestId : Uuid) (budget : ProviderSyncBudget) (startedAt : Instant) :
    (BudgetKept (InMemoryProviderBudgetStore.reserve runId)
        (InMemoryProviderBudgetStore.consumed runId) budget startedAt
        (memory.fresh runId budget startedAt) ↔ budget.maxRequests ≤ budget.maxAttempts) ∧
    (BudgetKept (PostgresProviderBudgetStore.reserve runId)
        (PostgresProviderBudgetStore.consumed runId) budget startedAt
        (db.fresh runId syncRequestId budget startedAt) ↔
      budget.maxRequests ≤ budget.maxAttempts) := by
  refine ⟨InMemoryProviderBudgetStore.meters.kept_iff ?_,
    (PostgresProviderBudgetStore.meters syncRequestId).kept_iff ⟨?_, ?_⟩⟩
  · exact Function.update_self ..
  · exact Function.update_self ..
  · exact Function.update_self ..

def twoRequests : ProviderSyncBudget where
  maxRequests := 2
  maxBytes := 1000
  maxAttempts := 1
  maxDurationSeconds := 60
  validRequests := by decide
  validBytes := by decide
  validAttempts := by decide
  validDuration := by decide

def runStart : Instant where
  date := ⟨2024, 1, 1, validYear_2024, validMonth_1, validDay_2024_1_1⟩
  hour := 0
  minute := 0
  second := 0
  microsecond := 0
  validHour := validHour_0
  validMinute := validMinute_0
  validSecond := validMinute_0
  validMicrosecond := validMicrosecond_0

/-- The second of two empty requests is denied, one after the other in the first second. -/
theorem twoRequests_not_kept :
    (trace (InMemoryProviderBudgetStore.reserve 1)
      (InMemoryProviderBudgetStore.fresh (fun _ => none) 1 twoRequests runStart)
      [⟨0, runStart⟩, ⟨0, runStart⟩]).map (fun e => isAllowed e.outcome) = [true, false] ∧
    ¬ BudgetKept (InMemoryProviderBudgetStore.reserve 1) (InMemoryProviderBudgetStore.consumed 1)
      twoRequests runStart
      (InMemoryProviderBudgetStore.fresh (fun _ => none) 1 twoRequests runStart) := by
  refine ⟨by decide +kernel, fun hkept => ?_⟩
  have hroom := hkept.room [⟨0, runStart⟩, ⟨0, runStart⟩] (by decide) (by decide +kernel) (by decide)
  have hdenied : ∃ e ∈ trace (InMemoryProviderBudgetStore.reserve 1)
      (InMemoryProviderBudgetStore.fresh (fun _ => none) 1 twoRequests runStart)
      [⟨0, runStart⟩, ⟨0, runStart⟩], isAllowed e.outcome = false := by
    refine ⟨_, List.mem_cons_of_mem _ (List.mem_singleton_self _), ?_⟩
    decide +kernel
  obtain ⟨e, he, hfalse⟩ := hdenied
  rw [hroom e he] at hfalse
  exact Bool.false_ne_true hfalse.symm

end StockResearch.Providers
