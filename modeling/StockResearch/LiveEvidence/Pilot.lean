import Mathlib.Data.List.Infix
import StockResearch.Core.Program
import StockResearch.LiveEvidence.Budget
import StockResearch.LiveEvidence.TerminalStore

/-!
# The Gate B pilot

`SecGateBPilotApplication.execute_authorized`: three resources in turn, each reserved, fetched
through the transport controller (which may reserve one retry of its own), validated and settled,
and at the end the document and data quality gates.

The pilot is a `Program`: every settlement is a transaction of its own, so what has been settled
stays settled when a later step raises.  Everything the pilot meets from outside is an input: what
the reservation port answers, what each HTTP exchange gives, whether the storage write and the
manifest construction go through (`ResourceInput`), and what the collaborators return
(`PilotPorts`).  The settlement itself is `settleConsumption` on the database.

A settlement transaction also writes the attempt, artifact and manifest rows.  Their validation is
modelled where it can raise; the writes are part of the commit and are left out.
-/

namespace StockResearch

/-- The exceptions that `except ValueError` catches. -/
def Raised.isValueError : Raised → Bool
  | .validation _ | .conflict _ | .value _ => true
  | _ => false

namespace LiveEvidence

open Txn Program

/-! ## Resources and attempts -/

structure SecAuthorizedResource where
  planId : Uuid
  planChecksum : String
  sliceId : String
  ordinal : Nat
  endpointId : String
  path : String
  maxResponseBytes : Nat
  sliceLength : 1 ≤ sliceId.length ∧ sliceId.length ≤ 64
  endpointLength : 1 ≤ endpointId.length ∧ endpointId.length ≤ 128
  ordinalBound : ordinal ≤ 2

structure HttpResult where
  statusCode : Nat
  body : List UInt8
  contentType : Option String
deriving DecidableEq, Repr

/-- What one HTTP exchange comes to: a response, one of the three errors that `_send` turns into an
attempt, or an exception that it lets through. -/
inductive HttpOutcome where
  | response (result : HttpResult)
  | httpTimeoutError
  | retryExhaustedError
  | providerHttpError
  | raises (raised : Raised)

structure SecPhysicalAttempt where
  permit : SecAttemptPermit
  response : Option HttpResult
  safeErrorCode : Option String
  completedAt : Timestamp
  socketOpened : Option Bool

/-- `len(response.body) if response is not None else 0` -/
def SecPhysicalAttempt.responseBytes (attempt : SecPhysicalAttempt) : Nat :=
  match attempt.response with
  | some response => response.body.length
  | none => 0

/-- `200 <= attempt.response.status_code < 300` -/
def SecPhysicalAttempt.succeeded (attempt : SecPhysicalAttempt) : Bool :=
  match attempt.response with
  | some response => 200 ≤ response.statusCode ∧ response.statusCode < 300
  | none => false

inductive SecTransportStatus where
  | completed | blocked
deriving DecidableEq, Repr

structure SecTransportResult where
  status : SecTransportStatus
  reasonCode : String
  attempts : List SecPhysicalAttempt

/-- What the reservation port wrote for a permit that it granted. -/
structure Reservation where
  requestAttemptId : Uuid
  consumptionId : Uuid
  reservedBytes : Nat
  reservedAt : Timestamp
  bounded : reservedBytesBound reservedBytes

inductive PortAnswer where
  | refused (raised : Raised)
  | granted (reservation : Reservation)

/-- What a run meets at one resource. -/
structure ResourceInput where
  /-- the port's answer to the reservation of the resource, from the second one on -/
  reservation : PortAnswer
  /-- `resolve_sec_request_identity` -/
  identity : Except Raised Unit
  sent : HttpOutcome
  completedAt : Timestamp
  /-- the port's answer to the reservation of a retry, if one is asked for -/
  retryReservation : PortAnswer
  retried : HttpOutcome
  retryCompletedAt : Timestamp
  /-- `self._storage.write` -/
  storage : Except Raised Unit
  /-- the artifact record and `build_ingestion_manifest` -/
  manifest : Except Raised Unit

/-- The two texts of a parsed record that the dependency check reads. -/
structure RecordTexts where
  primaryDocument : Option String
  accessionNumber : Option String
deriving DecidableEq, Repr

structure ValidatedSecSettlement where
  requestAttemptId : Uuid
  body : List UInt8
  records : List RecordTexts

/-- The collaborators of the pilot. -/
structure PilotPorts where
  /-- the ingestion context factory and `_require_context` -/
  ingestionContext : SecAuthorizedResource → Except Raised Unit
  /-- the media type of a response is one that the resource accepts -/
  acceptsMime : SecAuthorizedResource → Option String → Bool
  /-- `adapter.parse_response` -/
  parse : SecAuthorizedResource → List UInt8 → Except Raised (List RecordTexts)
  /-- `self._documents.admit` -/
  admitDocuments : Except Raised Unit
  /-- `self._data_quality.evaluate`, up to its commit -/
  evaluate : Except Raised TerminalStatus

structure TerminalRecord where
  status : TerminalStatus
  requestAttemptId : Uuid
  stopReason : String
  failedOrdinal : Option Nat
  failedSliceId : Option String
deriving DecidableEq, Repr

structure PilotState where
  db : Db
  /-- the permits that have been handed to the transport -/
  handed : List Uuid
  /-- the terminal records that have been committed for the run -/
  terminals : List TerminalRecord

/-- A program of the pilot. -/
abbrev Pilot (α : Type) := Program Raised PilotState α

def onDb {α : Type} (t : DbTransaction α) : Pilot α := transact (·.db) (fun s db => { s with db }) t

/-! ## Reserving -/

/-- The schema check of `SecAttemptReservationRequest`. -/
def reservationRequest (execution : GateBExecution) (resource : SecAuthorizedResource)
    (attemptNumber : Nat) (kind : SecAttemptKind) : Except Raised SecAttemptReservationRequest :=
  if h : 1 ≤ attemptNumber ∧ attemptNumber ≤ 4 then
    .ok { authorizationId := execution.authorizationId, planId := execution.planId,
          planChecksum := execution.planChecksum, sliceId := resource.sliceId,
          endpointId := resource.endpointId, attemptNumber, kind,
          sliceLength := resource.sliceLength, endpointLength := resource.endpointLength,
          numbered := h }
  else .error (.value "attempt_number must be between 1 and 4")

/-- The consumption row of a granted permit. -/
def Reservation.row (r : Reservation) (authorizationId : Uuid) : ConsumptionRow where
  id := r.consumptionId
  authorizationId := authorizationId
  requestAttemptId := r.requestAttemptId
  reservedBytes := r.reservedBytes
  actualBytes := none
  socketOpened := none
  state := .reserved
  reservedAt := r.reservedAt
  settledAt := none

def Reservation.permit (r : Reservation) (request : SecAttemptReservationRequest) :
    SecAttemptPermit :=
  { request with requestAttemptId := r.requestAttemptId }

/-- `reservations.reserve`: a granted permit repeats its request. -/
def reserve (request : SecAttemptReservationRequest) : PortAnswer → Pilot SecAttemptPermit
  | .refused raised => throw raised
  | .granted r => do
      onDb (insertInto (·.consumptions) (fun db t => { db with consumptions := t })
        (r.row request.authorizationId))
      pure (r.permit request)

/-- The comparison that `_require_permit` and `_require_matching_permit` make. -/
def permitMatches (execution : GateBExecution) (resource : SecAuthorizedResource)
    (permit : SecAttemptPermit) (attemptNumber : Nat) (kind : SecAttemptKind) : Prop :=
  permit.authorizationId = execution.authorizationId ∧ permit.planId = execution.planId ∧
    permit.planChecksum = execution.planChecksum ∧ permit.sliceId = resource.sliceId ∧
    permit.endpointId = resource.endpointId ∧ permit.attemptNumber = attemptNumber ∧
    permit.kind = kind

instance (execution : GateBExecution) (resource : SecAuthorizedResource)
    (permit : SecAttemptPermit) (attemptNumber : Nat) (kind : SecAttemptKind) :
    Decidable (permitMatches execution resource permit attemptNumber kind) :=
  inferInstanceAs (Decidable (_ ∧ _))

def requirePermit (execution : GateBExecution) (resource : SecAuthorizedResource)
    (permit : SecAttemptPermit) (expectedAttempt : Nat) : Pilot Unit :=
  if permitMatches execution resource permit expectedAttempt .initial then pure ()
  else throw (.validation "SEC_ATTEMPT_RESERVATION_REQUIRED")

def reserveResource (execution : GateBExecution) (resource : SecAuthorizedResource)
    (attemptNumber : Nat) (answer : PortAnswer) : Pilot SecAttemptPermit := do
  let request ← call (reservationRequest execution resource attemptNumber .initial)
  let permit ← reserve request answer
  requirePermit execution resource permit attemptNumber
  pure permit

/-! ## The transport controller -/

/-- The permit is now in the transport's hands. -/
def hand (permit : SecAttemptPermit) : Pilot Unit :=
  update fun s => { s with handed := s.handed ++ [permit.requestAttemptId] }

def send (permit : SecAttemptPermit) (outcome : HttpOutcome) (completedAt : Timestamp) :
    Except Raised SecPhysicalAttempt :=
  let failed (code : String) : SecPhysicalAttempt :=
    { permit, response := none, safeErrorCode := some code, completedAt, socketOpened := none }
  match outcome with
  | .response result =>
      .ok { permit, response := some result, safeErrorCode := none, completedAt,
            socketOpened := some true }
  | .httpTimeoutError => .ok (failed "READ_TIMEOUT")
  | .retryExhaustedError => .ok (failed "CONNECT_TIMEOUT")
  | .providerHttpError => .ok (failed "SEC_TRANSPORT_BLOCKED")
  | .raises raised => .error raised

/-- The attempt that stands for a contact identity that could not be resolved. -/
def unresolvedAttempt (permit : SecAttemptPermit) (completedAt : Timestamp) :
    SecPhysicalAttempt where
  permit := permit
  response := none
  safeErrorCode := some "SEC_CONTACT_RESOLUTION_FAILED"
  completedAt := completedAt
  socketOpened := some false

/-- Why `SecGateBRetryController.classify` does not even ask for a retry, if it does not. -/
def retryRefusal (execution : GateBExecution) (resource : SecAuthorizedResource)
    (attempt : SecPhysicalAttempt) : Option String :=
  let status := attempt.response.map (·.statusCode)
  let eligible := status ∈ [some 500, some 502, some 503, some 504] ∨
    attempt.safeErrorCode ∈ [some "CONNECT_TIMEOUT", some "READ_TIMEOUT"]
  let previous := attempt.permit
  if status = some 429 then some "SEC_HTTP_429_ABORT"
  else if ¬ eligible then some "SEC_RETRY_NOT_ELIGIBLE"
  else if previous.authorizationId ≠ execution.authorizationId ∨ previous.planId ≠ execution.planId ∨
      previous.planChecksum ≠ execution.planChecksum ∨ previous.sliceId ≠ resource.sliceId ∨
      previous.endpointId ≠ resource.endpointId ∨ 4 ≤ previous.attemptNumber then
    some "SEC_ATTEMPT_RESERVATION_REQUIRED"
  else none

/-- The result of a retry that was sent. -/
def retriedResult (attempt retryAttempt : SecPhysicalAttempt) : SecTransportResult :=
  if retryAttempt.succeeded then
    { status := .completed, reasonCode := "SEC_TRANSPORT_COMPLETED",
      attempts := [attempt, retryAttempt] }
  else
    { status := .blocked
      reasonCode := if retryAttempt.response.map (·.statusCode) = some 429 then "SEC_HTTP_429_ABORT"
        else "SEC_TRANSIENT_RETRY_EXHAUSTED"
      attempts := [attempt, retryAttempt] }

/-- The retry that `classify` asks the port for, and its exchange.  A granted permit repeats its
request, so the checks on what the port returned pass. -/
def retryStep (execution : GateBExecution) (resource : SecAuthorizedResource)
    (attempt : SecPhysicalAttempt) (x : ResourceInput) : Pilot SecTransportResult := do
  let request ← call
    (reservationRequest execution resource (attempt.permit.attemptNumber + 1) .retry)
  let decision ← catching Raised.isValueError (some <$> reserve request x.retryReservation)
    fun _ => pure none
  match decision with
  | none =>
      pure { status := .blocked, reasonCode := "SEC_RETRY_BUDGET_EXHAUSTED", attempts := [attempt] }
  | some retryPermit => do
      hand retryPermit
      let retryAttempt ← call (send retryPermit x.retried x.retryCompletedAt)
      pure (retriedResult attempt retryAttempt)

/-- `SecGateBTransportController.execute` -/
def transportExecute (execution : GateBExecution) (resource : SecAuthorizedResource)
    (permit : SecAttemptPermit) (x : ResourceInput) : Pilot SecTransportResult := do
  hand permit
  if ¬ permitMatches execution resource permit permit.attemptNumber .initial then
    throw (.value "SEC_ATTEMPT_RESERVATION_REQUIRED")
  match x.identity with
  | .error raised =>
      if raised.isValueError then
        pure { status := .blocked, reasonCode := "SEC_CONTACT_RESOLUTION_FAILED",
               attempts := [unresolvedAttempt permit x.completedAt] }
      else throw raised
  | .ok () => do
      let attempt ← call (send permit x.sent x.completedAt)
      if attempt.succeeded then
        pure { status := .completed, reasonCode := "SEC_TRANSPORT_COMPLETED", attempts := [attempt] }
      else
        match retryRefusal execution resource attempt with
        | some reasonCode => pure { status := .blocked, reasonCode, attempts := [attempt] }
        | none => retryStep execution resource attempt x

/-! ## Settling -/

/-- The schema checks of `ProviderRequestAttemptSettlement`. -/
def attemptSettlementValid (statusCode : Option Nat) (errorCode : Option String) : Prop :=
  (∀ code ∈ statusCode, 100 ≤ code ∧ code ≤ 599) ∧ ∀ code ∈ errorCode, code.length ≤ 128

instance (statusCode : Option Nat) (errorCode : Option String) :
    Decidable (attemptSettlementValid statusCode errorCode) :=
  inferInstanceAs (Decidable (_ ∧ _))

/-- The schema check of `ConsumptionSettlementRequest`. -/
def settlementRequest (attempt : SecPhysicalAttempt) (unstarted : Bool) :
    Except Raised ConsumptionSettlementRequest :=
  if h : attempt.responseBytes ≤ 52428800 then
    .ok { authorizationId := attempt.permit.authorizationId
          requestAttemptId := attempt.permit.requestAttemptId
          actualBytes := attempt.responseBytes
          socketOpened := !unstarted
          state := if unstarted then .abandoned else .settled
          settledAt := attempt.completedAt
          bounded := h
          isTerminal := by cases unstarted <;> simp }
  else .error (.value "actual_bytes must be at most 52428800")

/-- One settlement transaction: the attempt with its error code, and its consumption. -/
def settlementTransaction (attempt : SecPhysicalAttempt) (errorCode : Option String)
    (unstarted : Bool) : DbTransaction Unit := do
  raiseIf (¬ attemptSettlementValid (attempt.response.map (·.statusCode)) errorCode)
    (.value "PROVIDER_ATTEMPT_SETTLEMENT_INVALID")
  let settlement ← lift (settlementRequest attempt unstarted)
  let _ ← settleConsumption settlement
  pure ()

/-- `attempt.socket_opened is False and response_bytes == 0` -/
def SecPhysicalAttempt.demonstrablyUnstarted (attempt : SecPhysicalAttempt) : Bool :=
  attempt.socketOpened = some false ∧ attempt.responseBytes = 0

/-- `attempt.safe_error_code or "SEC_TRANSPORT_BLOCKED"` -/
def SecPhysicalAttempt.errorCodeOr (attempt : SecPhysicalAttempt) (fallback : String) : String :=
  match attempt.safeErrorCode with
  | some "" => fallback
  | some code => code
  | none => fallback

/-- `SecArtifactSettlementService.settle_failure` -/
def settleFailure (attempt : SecPhysicalAttempt) : Pilot Unit :=
  onDb (settlementTransaction attempt (some (attempt.errorCodeOr "SEC_TRANSPORT_BLOCKED"))
    attempt.demonstrablyUnstarted)

/-- `SecArtifactSettlementService.settle` -/
def settle (value : ValidatedSecSettlement) (attempt : SecPhysicalAttempt) (x : ResourceInput) :
    Pilot Unit := do
  if attempt.permit.requestAttemptId ≠ value.requestAttemptId then
    throw (.value "SEC_SETTLEMENT_ATTEMPT_MISMATCH")
  if attempt.response = none ∨ attempt.socketOpened ≠ some true then
    throw (.value "SEC_SETTLEMENT_RESPONSE_REQUIRED")
  call x.storage
  call x.manifest
  onDb (settlementTransaction attempt none false)

/-- `SecDataQualityStopService.block_resource_failure` -/
def blockResourceFailure (resource : SecAuthorizedResource) (requestAttemptId : Uuid)
    (stopReason : String) : Pilot Unit := do
  if ¬ (1 ≤ stopReason.length ∧ stopReason.length ≤ 128) then
    throw (.value "stop_reason must have between 1 and 128 characters")
  update fun s => { s with terminals := s.terminals ++
    [{ status := .blocked, requestAttemptId, stopReason, failedOrdinal := some resource.ordinal
       failedSliceId := some resource.sliceId }] }

/-! ## One resource -/

def validateSecResponse (ports : PilotPorts) (resource : SecAuthorizedResource)
    (attempt : SecPhysicalAttempt) : Except Raised ValidatedSecSettlement :=
  match attempt.response with
  | none => .error (.value "SEC_RESPONSE_NOT_SUCCESSFUL")
  | some response =>
      if ¬ (200 ≤ response.statusCode ∧ response.statusCode < 300) then
        .error (.value "SEC_RESPONSE_NOT_SUCCESSFUL")
      else if response.body = [] ∨ resource.maxResponseBytes < response.body.length then
        .error (.value "SEC_RESPONSE_SIZE_INVALID")
      else if ports.acceptsMime resource response.contentType = false then
        .error (.value "SEC_RESPONSE_MIME_INVALID")
      else if attempt.permit.planId ≠ resource.planId ∨
          attempt.permit.planChecksum ≠ resource.planChecksum ∨
          attempt.permit.sliceId ≠ resource.sliceId ∨
          attempt.permit.endpointId ≠ resource.endpointId then
        .error (.value "SEC_SETTLEMENT_RESOURCE_MISMATCH")
      else
        (ports.parse resource response.body).map fun records =>
          { requestAttemptId := attempt.permit.requestAttemptId, body := response.body, records }

/-- The body of the `try`: the context and the validated response. -/
def validate (ports : PilotPorts) (resource : SecAuthorizedResource)
    (attempt : SecPhysicalAttempt) : Except Raised ValidatedSecSettlement :=
  match ports.ingestionContext resource with
  | .error raised => .error raised
  | .ok () => validateSecResponse ports resource attempt

/-- The failure code of a response that was not validated. -/
def failureCode : Raised → String
  | .validation code => code
  | .conflict message | .value message =>
      if "SEC_".toList.isPrefixOf message.toList then message else "SEC_RESPONSE_VALIDATION_FAILED"
  | _ => "SEC_RESPONSE_VALIDATION_FAILED"

structure CompletedSecResource where
  resource : SecAuthorizedResource
  validated : ValidatedSecSettlement

/-- `for prior_attempt in transport_result.attempts[:-1]: settle_failure(prior_attempt)` -/
def settlePrior : List SecPhysicalAttempt → Pilot Unit
  | [] => pure ()
  | attempt :: attempts => do
      settleFailure attempt
      settlePrior attempts

/-- What follows on the last attempt of a transport result. -/
def settleLast (ports : PilotPorts) (resource : SecAuthorizedResource) (x : ResourceInput)
    (result : SecTransportResult) (attempt : SecPhysicalAttempt) :
    Pilot (CompletedSecResource × Nat) :=
  match result.status with
  | .blocked => do
      settleFailure attempt
      blockResourceFailure resource attempt.permit.requestAttemptId
        (attempt.errorCodeOr "SEC_RESOURCE_EXECUTION_BLOCKED")
      throw (.validation result.reasonCode)
  | .completed =>
      match validate ports resource attempt with
      | .error raised =>
          if raised.isValueError then do
            settleFailure { attempt with safeErrorCode := some (failureCode raised) }
            blockResourceFailure resource attempt.permit.requestAttemptId (failureCode raised)
            throw (.validation (failureCode raised))
          else throw raised
      | .ok validated => do
          settle validated attempt x
          pure ({ resource, validated }, attempt.permit.attemptNumber)

def executeResource (ports : PilotPorts) (execution : GateBExecution)
    (resource : SecAuthorizedResource) (permit : SecAttemptPermit) (x : ResourceInput) :
    Pilot (CompletedSecResource × Nat) := do
  let result ← transportExecute execution resource permit x
  settlePrior result.attempts.dropLast
  match result.attempts.getLast? with
  | some attempt => settleLast ports resource x result attempt
  | none => throw (.validation result.reasonCode)

/-! ## The whole run -/

/-- `path.rsplit("/", maxsplit=1)[-1]` -/
def fileName (path : String) : List Char := (path.toList.reverse.takeWhile (· ≠ '/')).reverse

/-- `_require_dependency_lineage` finds the lineage broken. -/
def lineageBroken (indexPath primaryPath : String) : List CompletedSecResource → Bool
  | [first] => ¬ ∃ record ∈ first.validated.records,
      record.primaryDocument.map (·.toList) = some (fileName primaryPath) ∧
        (record.accessionNumber.getD "").toList.filter (· ≠ '-') <:+: indexPath.toList
  | [_, second] =>
      ¬ (String.ofList (fileName primaryPath)).toUTF8.toList <:+: second.validated.body
  | _ => false

/-- The three resources of an authorized plan, in order. -/
structure SecAuthorizedPlan where
  submissions : SecAuthorizedResource
  filingIndex : SecAuthorizedResource
  primaryDocument : SecAuthorizedResource
  firstOrdinal : submissions.ordinal = 0
  secondOrdinal : filingIndex.ordinal = 1
  thirdOrdinal : primaryDocument.ordinal = 2

/-- The permit of a resource: the initial one, or one that is reserved now. -/
def acquire (execution : GateBExecution) (initialPermit : SecAttemptPermit)
    (resource : SecAuthorizedResource) (attemptNumber : Nat) (x : ResourceInput) :
    Pilot SecAttemptPermit :=
  if resource.ordinal = 0 then do
    requirePermit execution resource initialPermit 1
    pure initialPermit
  else reserveResource execution resource attemptNumber x.reservation

/-- The loop of `execute_authorized`. -/
def executeResources (ports : PilotPorts) (execution : GateBExecution) (plan : SecAuthorizedPlan)
    (initialPermit : SecAttemptPermit) :
    List (SecAuthorizedResource × ResourceInput) → Nat → List CompletedSecResource →
      Pilot (List CompletedSecResource)
  | [], _, completed => pure completed
  | (resource, x) :: rest, attemptNumber, completed => do
      let permit ← acquire execution initialPermit resource attemptNumber x
      let (done, lastAttempt) ← executeResource ports execution resource permit x
      if lineageBroken plan.filingIndex.path plan.primaryDocument.path (completed ++ [done]) then do
        blockResourceFailure resource done.validated.requestAttemptId
          "SEC_RESOURCE_DEPENDENCY_INVALID"
        throw (.validation "SEC_RESOURCE_DEPENDENCY_INVALID")
      else
        executeResources ports execution plan initialPermit rest (lastAttempt + 1)
          (completed ++ [done])

/-- What a run meets at each of the three resources. -/
structure PilotInputs where
  submissions : ResourceInput
  filingIndex : ResourceInput
  primaryDocument : ResourceInput

def SecAuthorizedPlan.resources (plan : SecAuthorizedPlan) (inputs : PilotInputs) :
    List (SecAuthorizedResource × ResourceInput) :=
  [(plan.submissions, inputs.submissions), (plan.filingIndex, inputs.filingIndex),
    (plan.primaryDocument, inputs.primaryDocument)]

/-- The end of `execute_authorized`: the document gate and the data quality gate. -/
def finishRun (ports : PilotPorts) (completed : List CompletedSecResource) :
    Pilot TerminalStatus := do
  call ports.admitDocuments
  let status ← call ports.evaluate
  update fun s => { s with terminals := s.terminals ++
    [{ status, requestAttemptId := (completed.getLast?.map (·.validated.requestAttemptId)).getD 0
       stopReason := "DATA_QUALITY_STOP", failedOrdinal := none, failedSliceId := none }] }
  pure status

/-- `SecGateBPilotApplication.execute_authorized` -/
def executeAuthorized (ports : PilotPorts) (plan : SecAuthorizedPlan)
    (start : SecExecutionStartResult) (inputs : PilotInputs) : Pilot TerminalStatus := do
  let completed ← executeResources ports start.execution plan start.initialPermit
    (plan.resources inputs) 1 []
  finishRun ports completed

end LiveEvidence

end StockResearch
