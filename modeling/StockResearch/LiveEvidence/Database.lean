import StockResearch.Core.Table
import StockResearch.Core.Uuid

/-!
# The live-evidence tables

The rows that a live execution reads and writes, with the primary keys, unique constraints and
check constraints of `db/models/live_evidence.py` and `db/models/providers.py`.  `Db` holds one
table of each kind.  Because a `Table` carries its constraints, no value of `Db` has two
consumptions of one attempt on one grant, or two attempts of one run with the same slice and
number.

Columns that none of the modelled transactions reads or writes are left out, as are the
regular-expression checks on checksums.  Instants are integers (microseconds since the epoch) and
every clock is aware, so the `_utc` conversions of the source are the identity here.
-/

namespace StockResearch

open Txn

/-- An instant, in microseconds since the epoch. -/
abbrev Timestamp := Int

/-- What a call can raise.  The first three are `ValueError`s of the source. -/
inductive Raised where
  /-- `LiveEvidenceValidationError(code)` -/
  | validation (code : String)
  /-- `ProviderRepositoryConflict(code)` -/
  | conflict (code : String)
  /-- any other `ValueError`, a schema validation included -/
  | value (message : String)
  /-- `LookupError(message)` -/
  | lookup (message : String)
  /-- `TypeError(message)` -/
  | type (message : String)
  /-- a constraint of the database refused a row -/
  | integrity
  /-- an exception of any other kind -/
  | other (message : String)
deriving DecidableEq, Repr

namespace LiveEvidence

/-! ## The states a row can be in -/

inductive LiveAuthorizationState where
  | draft | approved | active | consumed | expired | revoked | cancelled
deriving DecidableEq, Repr

inductive LiveAuthorizationEventType where
  | approve | activate | consume | expire | revoke | cancel
deriving DecidableEq, Repr

inductive ConsumptionState where
  | reserved | settled | abandoned
deriving DecidableEq, Repr

inductive ExecutionApprovalState where
  | valid | expired | consumed | blocked
deriving DecidableEq, Repr

inductive ProviderSyncSliceStatus where
  | pending | running | completed | blocked | failed | cancelled
deriving DecidableEq, Repr

/-! ## Authorization -/

/-- `live_authorization_grants` -/
structure GrantRow where
  id : Uuid
  requestLimit : Nat
  byteLimit : Nat
  canonicalChecksum : String
  scope : PyJson.Value
  expiresAt : Timestamp

instance : Schema GrantRow where
  clash a b := a.id = b.id ∨ a.canonicalChecksum = b.canonicalChecksum
  check r := (1 ≤ r.requestLimit ∧ r.requestLimit ≤ 100) ∧ 1 ≤ r.byteLimit ∧ r.byteLimit ≤ 52428800
  clash_symm _ _ h := h.imp Eq.symm Eq.symm
  decClash _ _ := inferInstance
  decCheck _ := inferInstance

/-- `live_authorization_events` -/
structure EventRow where
  id : Uuid
  authorizationId : Uuid
  sequence : Nat
  eventType : LiveAuthorizationEventType
deriving DecidableEq, Repr

instance : Schema EventRow where
  clash a b := a.id = b.id ∨ (a.authorizationId = b.authorizationId ∧ a.sequence = b.sequence)
  check _ := True
  clash_symm _ _ h := h.imp Eq.symm fun h => ⟨h.1.symm, h.2.symm⟩
  decClash _ _ := inferInstance
  decCheck _ := inferInstance

/-- `live_authorization_consumptions` -/
structure ConsumptionRow where
  id : Uuid
  authorizationId : Uuid
  requestAttemptId : Uuid
  reservedBytes : Nat
  actualBytes : Option Nat
  socketOpened : Option Bool
  state : ConsumptionState
  reservedAt : Timestamp
  settledAt : Option Timestamp
deriving DecidableEq, Repr

instance : Schema ConsumptionRow where
  clash a b := a.id = b.id ∨
    (a.authorizationId = b.authorizationId ∧ a.requestAttemptId = b.requestAttemptId)
  check r := 0 < r.reservedBytes
  clash_symm _ _ h := h.imp Eq.symm fun h => ⟨h.1.symm, h.2.symm⟩
  decClash _ _ := inferInstance
  decCheck _ := inferInstance

/-- `live_execution_approvals` -/
structure ApprovalRow where
  id : Uuid
  authorizationId : Uuid
  planId : Uuid
  planChecksum : String
  state : ExecutionApprovalState
  expiresAt : Timestamp
deriving DecidableEq, Repr

instance : Schema ApprovalRow where
  clash a b := a.id = b.id
  check _ := True
  clash_symm _ _ h := h.symm
  decClash _ _ := inferInstance
  decCheck _ := inferInstance

/-! ## Sync runs and their attempts -/

/-- `provider_sync_plans` -/
structure SyncPlanRow where
  id : Uuid
  planChecksum : String
  slices : PyJson.Value

instance : Schema SyncPlanRow where
  clash a b := a.id = b.id
  check _ := True
  clash_symm _ _ h := h.symm
  decClash _ _ := inferInstance
  decCheck _ := inferInstance

/-- `provider_sync_runs` -/
structure SyncRunRow where
  id : Uuid
  syncPlanId : Uuid
deriving DecidableEq, Repr

instance : Schema SyncRunRow where
  clash a b := a.id = b.id
  check _ := True
  clash_symm _ _ h := h.symm
  decClash _ _ := inferInstance
  decCheck _ := inferInstance

/-- `provider_request_attempts` -/
structure AttemptRow where
  id : Uuid
  syncRunId : Uuid
  sliceId : String
  attemptNumber : Nat
  status : ProviderSyncSliceStatus
  endpointId : String
  responseStatusCode : Option Nat
  responseBytes : Nat
  startedAt : Timestamp
  completedAt : Option Timestamp
  safeErrorCode : Option String
deriving DecidableEq, Repr

instance : Schema AttemptRow where
  clash a b := a.id = b.id ∨
    (a.syncRunId = b.syncRunId ∧ a.sliceId = b.sliceId ∧ a.attemptNumber = b.attemptNumber)
  check r := (1 ≤ r.attemptNumber ∧ r.attemptNumber ≤ 4) ∧
    (∀ code ∈ r.responseStatusCode, 100 ≤ code ∧ code ≤ 599) ∧
    (∀ done ∈ r.completedAt, r.startedAt ≤ done)
  clash_symm _ _ h := h.imp Eq.symm fun h => ⟨h.1.symm, h.2.1.symm, h.2.2.symm⟩
  decClash _ _ := inferInstance
  decCheck _ := inferInstance

/-- `provider_raw_artifacts` -/
structure RawArtifactRow where
  id : Uuid
  syncRunId : Uuid
  requestAttemptId : Uuid
deriving DecidableEq, Repr

instance : Schema RawArtifactRow where
  clash a b := a.id = b.id
  check _ := True
  clash_symm _ _ h := h.symm
  decClash _ _ := inferInstance
  decCheck _ := inferInstance

/-- `provider_ingestion_manifests` -/
structure ManifestRow where
  id : Uuid
  rawArtifactId : Uuid
deriving DecidableEq, Repr

instance : Schema ManifestRow where
  clash a b := a.id = b.id
  check _ := True
  clash_symm _ _ h := h.symm
  decClash _ _ := inferInstance
  decCheck _ := inferInstance

/-! ## Terminal records -/

/-- `provider_data_quality_issues` -/
structure QualityIssueRow where
  id : Uuid
  syncRunId : Uuid
  manifestId : Uuid
  ruleCode : String
  severity : String
  status : String
  safeDetail : String
deriving DecidableEq, Repr

instance : Schema QualityIssueRow where
  clash a b := a.id = b.id
  check r := r.severity ∈ ["CRITICAL", "HIGH", "MEDIUM", "LOW"] ∧
    r.status ∈ ["OPEN", "RESOLVED", "ACCEPTED"] ∧ r.ruleCode.length ≤ 128 ∧
    r.safeDetail.length ≤ 1024
  clash_symm _ _ h := h.symm
  decClash _ _ := inferInstance
  decCheck _ := inferInstance

/-- `provider_live_validation_runs` -/
structure ValidationRunRow where
  id : Uuid
  providerDefinitionId : Uuid
  providerCapabilityId : Uuid
  authorizationId : String
  liveAuthorizationGrantId : Uuid
  status : String
  maxRequests : Nat
  maxBytes : Nat
  consumedRequests : Nat
  consumedBytes : Nat
  expiresAt : Timestamp
  startedAt : Timestamp
  completedAt : Timestamp
deriving DecidableEq, Repr

instance : Schema ValidationRunRow where
  clash a b := a.id = b.id
  check r := r.status ∈ ["NOT_ATTEMPTED", "AUTHORIZED", "RUNNING", "PASS", "FAILED", "BLOCKED"] ∧
    (1 ≤ r.maxRequests ∧ r.maxRequests ≤ 100) ∧ (1 ≤ r.maxBytes ∧ r.maxBytes ≤ 52428800) ∧
    r.consumedRequests ≤ r.maxRequests ∧ r.consumedBytes ≤ r.maxBytes ∧ r.startedAt < r.expiresAt
  clash_symm _ _ h := h.symm
  decClash _ _ := inferInstance
  decCheck _ := inferInstance

/-- `provider_audit_events` -/
structure AuditEventRow where
  id : Uuid
  providerDefinitionId : Uuid
  syncRunId : Option Uuid
  actorType : String
  actionCode : String
  decisionCode : String
  safeSummary : List Char
  eventChecksum : String
deriving DecidableEq, Repr

instance : Schema AuditEventRow where
  clash a b := a.id = b.id
  check r := (1 ≤ r.actorType.length ∧ r.actorType.length ≤ 64) ∧
    (1 ≤ r.actionCode.length ∧ r.actionCode.length ≤ 128) ∧
    (1 ≤ r.decisionCode.length ∧ r.decisionCode.length ≤ 128) ∧
    (1 ≤ r.safeSummary.length ∧ r.safeSummary.length ≤ 1024)
  clash_symm _ _ h := h.symm
  decClash _ _ := inferInstance
  decCheck _ := inferInstance

/-! ## The database -/

structure Db where
  grants : Table GrantRow
  events : Table EventRow
  consumptions : Table ConsumptionRow
  approvals : Table ApprovalRow
  plans : Table SyncPlanRow
  runs : Table SyncRunRow
  attempts : Table AttemptRow
  artifacts : Table RawArtifactRow
  manifests : Table ManifestRow
  issues : Table QualityIssueRow
  validationRuns : Table ValidationRunRow
  auditEvents : Table AuditEventRow

instance : EmptyCollection Db := ⟨⟨∅, ∅, ∅, ∅, ∅, ∅, ∅, ∅, ∅, ∅, ∅, ∅⟩⟩

/-- A transaction on the live-evidence tables. -/
abbrev DbTransaction (α : Type) := Transaction Raised Db α

/-- Insert into the table seen by `get` and written by `set`. -/
def insertInto {ρ : Type} [Schema ρ] (get : Db → Table ρ) (set : Db → Table ρ → Db) (row : ρ) :
    DbTransaction Unit :=
  write (fun db => ((get db).insert row).map (set db)) .integrity

/-- Insert the rows of one flush into the table seen by `get` and written by `set`. -/
def insertAllInto {ρ : Type} [Schema ρ] (get : Db → Table ρ) (set : Db → Table ρ → Db)
    (rows : List ρ) : DbTransaction Unit :=
  write (fun db => ((get db).insertAll rows).map (set db)) .integrity

/-- Update the rows of the table seen by `get` that satisfy `p`. -/
def updateIn {ρ : Type} [Schema ρ] (get : Db → Table ρ) (set : Db → Table ρ → Db) (p : ρ → Bool)
    (f : ρ → ρ) : DbTransaction Unit :=
  write (fun db => ((get db).update p f).map (set db)) .integrity

lemma insertInto_bind_ok {ρ β : Type} [Schema ρ] {get : Db → Table ρ} {set : Db → Table ρ → Db}
    {row : ρ} {k : Unit → DbTransaction β} {db : Db} {r : β × Db} :
    (insertInto get set row >>= k) db = .ok r ↔
      ∃ t, (get db).insert row = some t ∧ k () (set db t) = .ok r :=
  write_map_bind_ok

lemma insertAllInto_bind_ok {ρ β : Type} [Schema ρ] {get : Db → Table ρ}
    {set : Db → Table ρ → Db} {rows : List ρ} {k : Unit → DbTransaction β} {db : Db} {r : β × Db} :
    (insertAllInto get set rows >>= k) db = .ok r ↔
      ∃ t, (get db).insertAll rows = some t ∧ k () (set db t) = .ok r :=
  write_map_bind_ok

lemma updateIn_bind_ok {ρ β : Type} [Schema ρ] {get : Db → Table ρ} {set : Db → Table ρ → Db}
    {p : ρ → Bool} {f : ρ → ρ} {k : Unit → DbTransaction β} {db : Db} {r : β × Db} :
    (updateIn get set p f >>= k) db = .ok r ↔
      ∃ t, (get db).update p f = some t ∧ k () (set db t) = .ok r :=
  write_map_bind_ok

end LiveEvidence

end StockResearch
