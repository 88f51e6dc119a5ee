import StockResearch.LiveEvidence.Authorization
import Mathlib.Data.List.Dedup

/-!
# The attempt reservation port

`SqlAlchemySecAttemptReservationPort`: the two transactions that hand out live request permits.

* `Port.startExecution` validates the approval, the grant and the plan, marks the approval `CONSUMED`,
  appends the `CONSUME` event and reserves the first attempt.
* `Port.reserve` reserves every later attempt of the execution that was started.

Both end in `reserveAttempt`, which counts rows in two tables: consumptions by grant and attempts
by sync run.  `reserveAttempt_ok` states what an accepted reservation has checked and written;
`Port.startExecution_ok` and `Port.reserve_ok` reduce the two entry points to it.

Everything a call draws from outside (its `uuid4()` values and its clock readings) is an argument,
`Draws`, so that a statement over all calls is a statement over all of these.
-/

namespace StockResearch.LiveEvidence

open Txn

/-! ## Requests and ports -/

inductive SecAttemptKind where
  | initial | retry
deriving DecidableEq, Repr

structure SecAttemptReservationRequest where
  authorizationId : Uuid
  planId : Uuid
  planChecksum : String
  sliceId : String
  endpointId : String
  attemptNumber : Nat
  kind : SecAttemptKind
  sliceLength : 1 ≤ sliceId.length ∧ sliceId.length ≤ 64
  endpointLength : 1 ≤ endpointId.length ∧ endpointId.length ≤ 128
  numbered : 1 ≤ attemptNumber ∧ attemptNumber ≤ 4

structure SecAttemptPermit extends SecAttemptReservationRequest where
  requestAttemptId : Uuid

/-- The fields that `GateBAuthorizationValidation` and `AuthorizedGateBExecution` share. -/
structure GateBExecution where
  authorizationId : Uuid
  authorizationChecksum : String
  approvalId : Uuid
  planId : Uuid
  planChecksum : String
  provider : String
  securityId : Uuid
  issuerId : Uuid
  providerSecurityIdentifier : String
deriving DecidableEq, Repr

/-- What a port holds: a validation that grants nothing yet, or an execution that was started. -/
inductive PortExecution where
  | validation (execution : GateBExecution)
  | authorized (execution : GateBExecution)
deriving DecidableEq, Repr

def PortExecution.execution : PortExecution → GateBExecution
  | .validation e => e
  | .authorized e => e

/-- `isinstance(self._execution, AuthorizedGateBExecution)` -/
def PortExecution.isAuthorized : PortExecution → Bool
  | .validation _ => false
  | .authorized _ => true

structure Port where
  execution : PortExecution
  syncRunId : Uuid
  reservedBytes : Nat
deriving DecidableEq, Repr

structure SecExecutionStartResult where
  execution : GateBExecution
  initialPermit : SecAttemptPermit

/-- The identifiers a call draws and the clock readings it takes, in the order it takes them. -/
structure Draws where
  requestAttemptId : Uuid
  eventId : Uuid
  consumptionId : Uuid
  approvalCheckedAt : Timestamp
  grantCheckedAt : Timestamp
  reservedAt : Timestamp
  startedAt : Timestamp
deriving DecidableEq, Repr

/-! ## Reserving one attempt -/

/-- The attempts of a sync run. -/
def attemptsOf (syncRunId : Uuid) (db : Db) : List AttemptRow :=
  db.attempts.select fun r => r.syncRunId = syncRunId

/-- The run joined with its plan. -/
def planBinding (syncRunId : Uuid) (db : Db) : Option SyncPlanRow := do
  let run ← db.runs.selectOne fun r => r.id = syncRunId
  db.plans.selectOne fun p => p.id = run.syncPlanId

/-- A JSON value that is this text. -/
def isText (text : String) : Option PyJson.Value → Bool
  | some (.str s) => s == text
  | _ => false

/-- `_require_persisted_plan_resource`: exactly one slice of the plan has the requested id, and it
names the requested endpoint. -/
def planHasResource (request : SecAttemptReservationRequest) : PyJson.Value → Bool
  | .arr slices =>
      match slices.filter fun item => isText request.sliceId (item.get? "slice_id") with
      | [slice] =>
          match slice.get? "request_parameters" with
          | some parameters => isText request.endpointId (parameters.get? "endpoint_id")
          | none => false
      | _ => false
  | _ => false

/-- Rename what a transaction raises. -/
def mapRaise {α : Type} (f : Raised → Raised) (t : DbTransaction α) : DbTransaction α := fun db =>
  (t db).mapError f

lemma mapRaise_ok {α : Type} {f : Raised → Raised} {t : DbTransaction α} {db : Db} {r : α × Db} :
    mapRaise f t db = .ok r ↔ t db = .ok r := by
  unfold mapRaise
  cases t db <;> simp [Except.mapError]

/-- `AUTH_REQUEST_BUDGET_EXCEEDED` becomes `SEC_ATTEMPT_BUDGET_EXHAUSTED`. -/
def attemptBudgetRaise : Raised → Raised
  | .validation "AUTH_REQUEST_BUDGET_EXCEEDED" => .validation "SEC_ATTEMPT_BUDGET_EXHAUSTED"
  | e => e

/-- A repository conflict is reported as a validation error with its code. -/
def conflictRaise : Raised → Raised
  | .conflict code => .validation code
  | e => e

/-- The attempt a request asks for is already there. -/
def sameIdentity (syncRunId : Uuid) (request : SecAttemptReservationRequest) (r : AttemptRow) :
    Bool :=
  r.syncRunId = syncRunId ∧ r.sliceId = request.sliceId ∧ r.attemptNumber = request.attemptNumber

/-- An earlier attempt at the requested slice. -/
def priorOccurrence (syncRunId : Uuid) (request : SecAttemptReservationRequest) (r : AttemptRow) :
    Bool :=
  r.syncRunId = syncRunId ∧ r.sliceId = request.sliceId ∧ r.attemptNumber < request.attemptNumber

/-- The row of a new attempt. -/
def pendingAttempt (syncRunId : Uuid) (request : SecAttemptReservationRequest) (draws : Draws) :
    AttemptRow where
  id := draws.requestAttemptId
  syncRunId := syncRunId
  sliceId := request.sliceId
  attemptNumber := request.attemptNumber
  status := .pending
  endpointId := request.endpointId
  responseStatusCode := none
  responseBytes := 0
  startedAt := draws.startedAt
  completedAt := none
  safeErrorCode := none

/-- `_persist_gate_b_attempt` -/
def persistGateBAttempt (syncRunId : Uuid) (request : SecAttemptReservationRequest)
    (draws : Draws) : DbTransaction Unit := do
  let existing ← query fun db => db.attempts.count fun r =>
    r.id = draws.requestAttemptId ∨ sameIdentity syncRunId request r
  raiseIf (existing ≠ 0) (.conflict "PROVIDER_ATTEMPT_CONFLICT")
  insertInto Db.attempts (fun db t => { db with attempts := t })
    (pendingAttempt syncRunId request draws)
  pure ()

/-- The request that `_reserve_attempt` makes to the consumption ledger. -/
def consumptionRequest (port : Port) (request : SecAttemptReservationRequest) (draws : Draws) :
    Except Raised ConsumptionReservationRequest :=
  if h : reservedBytesBound port.reservedBytes then
    .ok { authorizationId := request.authorizationId, requestAttemptId := draws.requestAttemptId,
          reservedBytes := port.reservedBytes, reservedAt := draws.reservedAt, bounded := h }
  else .error (.value "reserved_bytes")

def reserveAttempt (port : Port) (request : SecAttemptReservationRequest) (draws : Draws) :
    DbTransaction Unit := do
  let consumption ← lift (consumptionRequest port request draws)
  let _ ← mapRaise attemptBudgetRaise (reserveConsumption consumption draws.consumptionId)
  let plan ← query (planBinding port.syncRunId)
  let plan ← fetch plan (.validation "SEC_SYNC_RUN_PLAN_MISMATCH")
  raiseIf (plan.id ≠ request.planId) (.validation "SEC_SYNC_RUN_PLAN_MISMATCH")
  raiseIf (plan.planChecksum ≠ request.planChecksum) (.validation "EXEC_APPROVAL_PLAN_MISMATCH")
  raiseIf (planHasResource request plan.slices = false)
    (.validation "SEC_ATTEMPT_RESERVATION_REQUIRED")
  let attempts ← query (attemptsOf port.syncRunId)
  let totalAttempts := attempts.length
  let retryAttempts := totalAttempts - (attempts.map AttemptRow.sliceId).dedup.length
  raiseIf (4 ≤ totalAttempts) (.validation "SEC_ATTEMPT_BUDGET_EXHAUSTED")
  let existingIdentity ← query fun db => db.attempts.count (sameIdentity port.syncRunId request)
  raiseIf (existingIdentity = 0 ∧ request.attemptNumber ≠ totalAttempts + 1)
    (.validation "SEC_ATTEMPT_SEQUENCE_INVALID")
  let prior ← query fun db => db.attempts.count (priorOccurrence port.syncRunId request)
  let expectedKind : SecAttemptKind := if prior ≠ 0 then .retry else .initial
  raiseIf (request.kind ≠ expectedKind) (.validation "SEC_ATTEMPT_RESERVATION_REQUIRED")
  raiseIf (expectedKind = .retry ∧ 1 ≤ retryAttempts) (.validation "SEC_RETRY_BUDGET_EXHAUSTED")
  let requestLimit ← query fun db => (grantOf request.authorizationId db).map GrantRow.requestLimit
  raiseIf (request.attemptNumber = 4 ∧
      (port.execution.execution.provider ≠ "SEC_EDGAR_PUBLIC_V1" ∨ requestLimit ≠ some 4))
    (.validation "SEC_ATTEMPT_BUDGET_EXHAUSTED")
  persistGateBAttempt port.syncRunId request draws

lemma mapRaise_bind_ok {α β : Type} {f : Raised → Raised} {t : DbTransaction α}
    {k : α → DbTransaction β} {db : Db} {r : β × Db} :
    (mapRaise f t >>= k) db = .ok r ↔ ∃ a db', t db = .ok (a, db') ∧ k a db' = .ok r := by
  simp only [bind_ok, mapRaise_ok]

/-- What an accepted attempt reservation has checked and written, after its consumption was
reserved and the database was `db`. -/
structure AttemptReserved (port : Port) (request : SecAttemptReservationRequest) (draws : Draws)
    (db db' : Db) : Prop where
  plan : ∃ plan, planBinding port.syncRunId db = some plan ∧ plan.id = request.planId ∧
    plan.planChecksum = request.planChecksum ∧ planHasResource request plan.slices = true
  /-- the next number of the run -/
  next : request.attemptNumber = (attemptsOf port.syncRunId db).length + 1
  room : (attemptsOf port.syncRunId db).length < 4
  /-- a repeated slice is the first repetition of the run -/
  retry : db.attempts.count (priorOccurrence port.syncRunId request) ≠ 0 →
    (attemptsOf port.syncRunId db).length =
      ((attemptsOf port.syncRunId db).map AttemptRow.sliceId).dedup.length
  fourth : request.attemptNumber = 4 →
    port.execution.execution.provider = "SEC_EDGAR_PUBLIC_V1" ∧
      (grantOf request.authorizationId db).map GrantRow.requestLimit = some 4
  written : ∃ t, db.attempts.insert (pendingAttempt port.syncRunId request draws) = some t ∧
    db' = { db with attempts := t }

lemma persistGateBAttempt_ok {syncRunId : Uuid} {request : SecAttemptReservationRequest}
    {draws : Draws} {db : Db} {r : Unit × Db}
    (h : persistGateBAttempt syncRunId request draws db = .ok r) :
    db.attempts.count (sameIdentity syncRunId request) = 0 ∧
      ∃ t, db.attempts.insert (pendingAttempt syncRunId request draws) = some t ∧
        r.2 = { db with attempts := t } := by
  simp only [persistGateBAttempt, query_bind, raiseIf_bind_ok, insertInto_bind_ok] at h
  obtain ⟨hnone, t, ht, h⟩ := h
  cases h
  refine ⟨Table.count_eq_zero.mpr ?_, t, ht, rfl⟩
  intro row hrow hsame
  refine Table.count_eq_zero.mp (not_not.mp hnone) row hrow ?_
  simp [hsame]

/-- **What an accepted attempt reservation has done.**  A consumption was reserved, and in the
database it left one attempt was added under the next free number. -/
theorem reserveAttempt_ok {port : Port} {request : SecAttemptReservationRequest} {draws : Draws}
    {db : Db} {r : Unit × Db} (h : reserveAttempt port request draws db = .ok r) :
    ∃ consumption reservation db₁,
      consumption.authorizationId = request.authorizationId ∧
      consumption.requestAttemptId = draws.requestAttemptId ∧
      consumption.reservedAt = draws.reservedAt ∧
      reserveConsumption consumption draws.consumptionId db = .ok (reservation, db₁) ∧
      AttemptReserved port request draws db₁ r.2 := by
  simp only [reserveAttempt, lift_bind_ok, mapRaise_bind_ok, query_bind, fetch_bind_ok,
    raiseIf_bind_ok] at h
  obtain ⟨consumption, hconsumption, reservation, db₁, hreserve, plan, hplan, hid, hchecksum,
    hresource, hroom, hsequence, hkind, hretry, hfourth, hpersist⟩ := h
  obtain ⟨hidentity, t, ht, hdb⟩ := persistGateBAttempt_ok hpersist
  unfold consumptionRequest at hconsumption
  split at hconsumption
  · cases hconsumption
    refine ⟨_, reservation, db₁, rfl, rfl, rfl, hreserve, ?_⟩
    refine
      { plan := ⟨plan, hplan, not_not.mp hid, not_not.mp hchecksum, by simpa using hresource⟩
        next := ?_
        room := by omega
        retry := ?_
        fourth := ?_
        written := ⟨t, ht, hdb⟩ }
    · by_contra hne
      exact hsequence ⟨hidentity, hne⟩
    · intro hprior
      have hdistinct := (List.dedup_sublist
        ((attemptsOf port.syncRunId db₁).map AttemptRow.sliceId)).length_le
      simp only [hprior, ne_eq, not_false_eq_true, if_true, true_and, List.length_map] at hretry hdistinct
      omega
    · intro hfour
      by_contra hne
      exact hfourth ⟨hfour, not_and_or.mp hne⟩
  · cases hconsumption

/-! ## The two entry points -/

/-- `_require_scope` -/
def inScope (port : Port) (request : SecAttemptReservationRequest) : Prop :=
  request.authorizationId = port.execution.execution.authorizationId ∧
    request.planId = port.execution.execution.planId ∧
    request.planChecksum = port.execution.execution.planChecksum ∧
    (request.attemptNumber = 1 → request.kind = .initial)

instance (port : Port) (request : SecAttemptReservationRequest) :
    Decidable (inScope port request) := inferInstanceAs (Decidable (_ ∧ _))

def Port.reserve (port : Port) (request : SecAttemptReservationRequest) (draws : Draws) :
    DbTransaction SecAttemptPermit := do
  raiseIf (port.execution.isAuthorized = false) (.validation "SEC_EXECUTION_START_REQUIRED")
  raiseIf (¬ inScope port request) (.validation "SEC_ATTEMPT_RESERVATION_REQUIRED")
  mapRaise conflictRaise (reserveAttempt port request draws)
  pure { request with requestAttemptId := draws.requestAttemptId }

/-- The scope of a grant names the execution's security, issuer and provider identifier.  Only a
string can be equal to the text of a UUID. -/
def scopeMatches (execution : GateBExecution) (scope : PyJson.Value) : Bool :=
  isText execution.securityId.str (scope.get? "security_id") &&
    isText execution.issuerId.str (scope.get? "issuer_id") &&
    isText execution.providerSecurityIdentifier (scope.get? "provider_security_identifier")

def approvalOf (approvalId : Uuid) (db : Db) : Option ApprovalRow :=
  db.approvals.selectOne fun r => r.id = approvalId

def lockAndValidateExecutionStart (port : Port) (draws : Draws) : DbTransaction Unit := do
  let execution := port.execution.execution
  let approval ← query (approvalOf execution.approvalId)
  let approval ← fetch approval (.validation "EXEC_APPROVAL_INVALID")
  raiseIf (approval.state = .consumed) (.validation "EXEC_APPROVAL_REPLAYED")
  raiseIf (approval.state ≠ .valid) (.validation "EXEC_APPROVAL_INVALID")
  raiseIf (approval.expiresAt ≤ draws.approvalCheckedAt) (.validation "EXEC_APPROVAL_EXPIRED")
  raiseIf (approval.authorizationId ≠ execution.authorizationId ∨
      approval.planId ≠ execution.planId ∨ approval.planChecksum ≠ execution.planChecksum)
    (.validation "EXEC_APPROVAL_PLAN_MISMATCH")
  let grant ← query (grantOf execution.authorizationId)
  let grant ← fetch grant (.validation "AUTH_RESERVATION_INVALID")
  raiseIf (grant.canonicalChecksum ≠ execution.authorizationChecksum ∨
      grant.expiresAt ≤ draws.grantCheckedAt)
    (.validation "AUTH_RESERVATION_INVALID")
  raiseIf (scopeMatches execution grant.scope = false) (.validation "AUTH_SECURITY_MISMATCH")
  let planId ← query fun db =>
    (db.runs.selectOne fun r => r.id = port.syncRunId).map SyncRunRow.syncPlanId
  raiseIf (planId ≠ some execution.planId) (.validation "SEC_SYNC_RUN_PLAN_MISMATCH")
  let planChecksum ← query fun db =>
    (db.plans.selectOne fun p => p.id = execution.planId).map SyncPlanRow.planChecksum
  raiseIf (planChecksum ≠ some execution.planChecksum) (.validation "EXEC_APPROVAL_PLAN_MISMATCH")

def Port.startExecution (port : Port) (request : SecAttemptReservationRequest) (draws : Draws) :
    DbTransaction SecExecutionStartResult := do
  raiseIf (port.execution.isAuthorized = true)
    (.validation "SEC_EXECUTION_START_VALIDATION_REQUIRED")
  raiseIf (request.kind ≠ .initial ∨ request.attemptNumber ≠ 1)
    (.validation "SEC_EXECUTION_START_INITIAL_REQUIRED")
  raiseIf (¬ inScope port request) (.validation "SEC_ATTEMPT_RESERVATION_REQUIRED")
  mapRaise conflictRaise do
    lockAndValidateExecutionStart port draws
    updateIn Db.approvals (fun db t => { db with approvals := t })
      (fun r => r.id = port.execution.execution.approvalId ∧ r.state = .valid)
      (fun r => { r with state := .consumed })
    let _ ← consumeAuthorization port.execution.execution.authorizationId draws.eventId
    reserveAttempt port request draws
  pure { execution := port.execution.execution,
         initialPermit := { request with requestAttemptId := draws.requestAttemptId } }

theorem Port.reserve_ok {port : Port} {request : SecAttemptReservationRequest} {draws : Draws}
    {db : Db} {r : SecAttemptPermit × Db} (h : port.reserve request draws db = .ok r) :
    port.execution.isAuthorized = true ∧ inScope port request ∧
      reserveAttempt port request draws db = .ok ((), r.2) := by
  simp only [Port.reserve, raiseIf_bind_ok, mapRaise_bind_ok, not_not] at h
  obtain ⟨hauthorized, hscope, _, db', hreserve, h⟩ := h
  cases h
  exact ⟨by simpa using hauthorized, hscope, hreserve⟩

structure StartValidated (port : Port) (draws : Draws) (db : Db) : Prop where
  approval : ∃ approval, approvalOf port.execution.execution.approvalId db = some approval ∧
    approval.state = .valid ∧ draws.approvalCheckedAt < approval.expiresAt ∧
    approval.authorizationId = port.execution.execution.authorizationId
  grant : ∃ grant, grantOf port.execution.execution.authorizationId db = some grant ∧
    draws.grantCheckedAt < grant.expiresAt

lemma lockAndValidateExecutionStart_bind_ok {β : Type} {port : Port} {draws : Draws}
    {k : Unit → DbTransaction β} {db : Db} {r : β × Db}
    (h : (lockAndValidateExecutionStart port draws >>= k) db = .ok r) :
    StartValidated port draws db ∧ k () db = .ok r := by
  obtain ⟨_, db', hlock, hk⟩ := bind_ok.mp h
  simp only [lockAndValidateExecutionStart, query_bind, fetch_bind_ok, raiseIf_bind_ok] at hlock
  obtain ⟨approval, happroval, -, hvalid, hexpiry, hbinding, grant, hgrant, hgrantCheck, -, -,
    hlast⟩ := hlock
  rw [raiseIf_apply] at hlast
  split at hlast
  · cases hlast
  · cases hlast
    simp only [not_or, not_not, not_le] at hbinding hgrantCheck
    exact ⟨⟨⟨approval, happroval, not_not.mp hvalid, not_le.mp hexpiry, hbinding.1⟩,
      ⟨grant, hgrant, hgrantCheck.2⟩⟩, hk⟩

/-- **What an accepted start has done.**  The approval was `VALID` and is now `CONSUMED`, the
events replayed to `ACTIVE` and end in `CONSUME`, and the first attempt was reserved. -/
theorem Port.startExecution_ok {port : Port} {request : SecAttemptReservationRequest} {draws : Draws}
    {db : Db} {r : SecExecutionStartResult × Db}
    (h : port.startExecution request draws db = .ok r) :
    port.execution.isAuthorized = false ∧ inScope port request ∧ StartValidated port draws db ∧
      ∃ approvals state db₁,
        db.approvals.update
          (fun a => a.id = port.execution.execution.approvalId ∧ a.state = .valid)
          (fun a => { a with state := .consumed }) = some approvals ∧
        consumeAuthorization port.execution.execution.authorizationId draws.eventId
          { db with approvals := approvals } = .ok (state, db₁) ∧
        reserveAttempt port request draws db₁ = .ok ((), r.2) := by
  simp only [Port.startExecution, raiseIf_bind_ok, mapRaise_bind_ok, not_not] at h
  obtain ⟨hvalidation, -, hscope, _, db', hbody, h⟩ := h
  cases h
  obtain ⟨hstart, hbody⟩ := lockAndValidateExecutionStart_bind_ok hbody
  obtain ⟨approvals, happrovals, hbody⟩ := updateIn_bind_ok.mp hbody
  obtain ⟨state, db₁, hconsume, hreserve⟩ := bind_ok.mp hbody
  exact ⟨by simpa using hvalidation, hscope, hstart, approvals, state, db₁, happrovals, hconsume,
    hreserve⟩

end StockResearch.LiveEvidence
