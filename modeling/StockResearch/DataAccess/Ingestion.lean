import StockResearch.Core.Canonical
import StockResearch.Core.Chronology
import StockResearch.Core.Program
import StockResearch.Core.Table
import StockResearch.Core.Uuid

/-!
# Ingestion of provider evidence

`IngestionService` of `domain/data_access/ingestion.py`, with the repository methods it calls.

A request is identified by a key.  The first request with a key opens a run, asks the provider and
stores what it answers: the raw bytes as a blob and, inside a savepoint, the rows that refer to it.  If
storing fails, the savepoint is undone, the blob is deleted again and the run is marked as failed.

The provider, the blob store and every call of the repository may fail; `Surroundings` says how they
behave during one request.  A call of the repository that raises has written nothing, except for the
read-back at the end of an update, which is an operation of its own.
-/

namespace StockResearch.Ingestion

open PyTime PyJson Txn

/-! ## Contracts -/

inductive DataCategory where
  | dailyPrices | corporateActions | financialFacts | filingMetadata | sourceDocuments
deriving DecidableEq, Repr

def DataCategory.value : DataCategory → String
  | .dailyPrices => "DAILY_PRICES"
  | .corporateActions => "CORPORATE_ACTIONS"
  | .financialFacts => "FINANCIAL_FACTS"
  | .filingMetadata => "FILING_METADATA"
  | .sourceDocuments => "SOURCE_DOCUMENTS"

inductive ProviderCapability where
  | securityReference | dailyPrices | corporateActions | financialFacts | filingMetadata
  | documentDownload
deriving DecidableEq, Repr

inductive ProviderStatus where
  | approved | approvedForPersonalResearchOnly | needsCredentials | needsLicenseConfirmation
  | experimental | notAllowed
deriving DecidableEq, Repr

inductive ProviderType where
  | fixture | marketData | financialData | filings | multiSource
deriving DecidableEq, Repr

inductive QualityStatus where
  | pass | partly | blocked | fail
deriving DecidableEq, Repr

inductive DataOrigin where
  | fixture | live
deriving DecidableEq, Repr

inductive AccessMode where
  | offline | online
deriving DecidableEq, Repr

inductive LiveStatus where
  | notLive | live
deriving DecidableEq, Repr

/-- The three markers that say where an answer comes from. -/
abbrev Markers := DataOrigin × AccessMode × LiveStatus

inductive IngestionErrorCode where
  | providerNotFound | mappingNotActive | providerNotAllowed | providerDisabled
  | providerCredentialsBlocked | providerLicenseBlocked | providerCapabilityMismatch
  | providerMetadataMismatch | providerBlocked | providerContractFailed | persistenceFailed
deriving DecidableEq, Repr

inductive IngestionStatus where
  | queued | running | pass | partly | blocked | fail | cancelled
deriving DecidableEq, Repr

def IngestionStatus.terminal : IngestionStatus → Bool
  | .queued | .running => false
  | .pass | .partly | .blocked | .fail | .cancelled => true

structure IngestionRequest where
  requestId : Uuid
  securityId : Uuid
  providerCode : String
  category : DataCategory
  researchAsOfTime : Instant
  dateFrom : Option Date
  dateTo : Option Date
  parameters : List (String × Value)
  parserVersion : String
  schemaVersion : String

structure DataProviderRecord where
  id : Uuid
  code : String
  providerType : ProviderType
  status : ProviderStatus
  capabilities : List ProviderCapability

structure ProviderDescriptor where
  version : String
  status : ProviderStatus
  capabilities : List ProviderCapability
  isEnabled : Bool
  requiresCredentials : Bool
  credentialsConfigured : Bool

structure Adapter where
  code : String
  version : String
  capabilities : List ProviderCapability

/-- A record of an answer: its type, the names of its fields, and whether the write schema of its
category accepts their values. -/
structure ProviderRecord where
  recordType : String
  fields : List String
  valid : Bool
deriving DecidableEq

inductive RawContent where
  | bytes (data : List UInt8)
  | json
deriving DecidableEq

structure ProviderEnvelope where
  providerCode : String
  providerVersion : String
  category : DataCategory
  records : List ProviderRecord
  rawPayload : RawContent
  warnings : List String
  quality : QualityStatus
  qualityWarnings : List String
  markers : Markers

structure IngestionRunRecord where
  id : Uuid
  providerId : Uuid
  securityId : Uuid
  category : DataCategory
  status : IngestionStatus
  researchAsOfTime : Instant
  idempotencyKey : String
  requestedAt : Instant
  startedAt : Option Instant
  completedAt : Option Instant
  requestCount : Nat
  recordsReceived : Nat
  recordsStored : Nat
  warningCount : Nat
  errorCode : Option IngestionErrorCode
  safeErrorMessage : Option String
deriving DecidableEq

structure IngestionResult where
  runId : Option Uuid
  status : IngestionStatus
  idempotencyKey : String
  requestCount : Nat
  recordsReceived : Nat
  recordsStored : Nat
  warningCount : Nat
  warnings : List String
  markers : Option Markers
  errorCode : Option IngestionErrorCode
  safeErrorMessage : Option String
deriving DecidableEq

/-- What is raised inside a request. -/
inductive Failure where
  | blobStorageError | providerContractError | other
deriving DecidableEq, Repr

/-! ## Surroundings -/

/-- `hashlib.sha256(…).hexdigest()` of a text and of bytes. -/
structure Platform where
  sha256 : List Char → String
  sha256Bytes : List UInt8 → String

/-- The operations that may raise. -/
inductive Operation where
  | findRun | getOrCreate | createRun | startRun | readStarted
  | logFailure
  | deleteBlob
  | savepoint | addRequestLog | addRawPayload | addEvidence (index : Nat)
  | completeRun | readCompleted | release
  | blockRun | readBlocked | failRun | readFailed
deriving DecidableEq

structure BlobMetadata where
  uri : String
  checksumSha256 : String
  sizeBytes : Nat
deriving DecidableEq

/-- What `put` does: it stores the bytes and answers, or it raises, and then it may have left them
behind under a name. -/
inductive Put where
  | stored (blob : BlobMetadata)
  | refused (f : Failure) (leftover : Option String)

/-- What a request meets. -/
structure Surroundings where
  provider : Except Failure (Option DataProviderRecord)
  descriptor : Option ProviderDescriptor
  adapter : Adapter
  /-- `get_active_mapping`: whether there is one. -/
  mapping : Except Failure Bool
  fetch : Except Failure ProviderEnvelope
  put : Put
  fault : Operation → Option Failure
  requestedAt : Instant
  startedAt : Instant
  completedAt : Instant
  blockedAt : Instant
  failedAt : Instant
  runId : Uuid
  requestLogId : Uuid
  payloadId : Uuid

/-- A call that raises, if it is to. -/
def Surroundings.perform (env : Surroundings) (op : Operation) : Except Failure Unit :=
  match env.fault op with
  | some f => .error f
  | none => .ok ()

/-! ## Identity -/

def optionalDate : Option Date → Value
  | none => .null
  | some d => .str d.isoformat

def computeIngestionIdempotencyKey (platform : Platform) (request : IngestionRequest)
    (providerVersion : Option String) : String :=
  "ingest:v1:" ++ platform.sha256 (canonicalText (.obj [
    ("category", .str request.category.value),
    ("date_from", optionalDate request.dateFrom),
    ("date_to", optionalDate request.dateTo),
    ("parameters", .obj request.parameters),
    ("parser_version", .str request.parserVersion),
    ("provider_code", .str request.providerCode),
    ("provider_version", match providerVersion with
      | none => .null
      | some version => .str version),
    ("research_as_of_time", .str request.researchAsOfTime.isoformat),
    ("schema_version", .str request.schemaVersion),
    ("security_id", .str request.securityId.str),
    ("version", .str "ingestion-request-v1")]))

/-- The key of a request, as it depends on whether its adapter is registered. -/
def Surroundings.key (env : Surroundings) (platform : Platform) (request : IngestionRequest) :
    String :=
  computeIngestionIdempotencyKey platform request (env.descriptor.map (·.version))

/-! ## The store -/

/-- `_validate_ingestion_state`, which the check constraints of the table repeat. -/
def IngestionRunRecord.lifecycle (r : IngestionRunRecord) : Prop :=
  (∀ started ∈ r.startedAt, ¬ started < r.requestedAt) ∧
    (∀ completed ∈ r.completedAt, ¬ completed < r.startedAt.getD r.requestedAt) ∧
    (r.status = .queued → r.startedAt = none ∧ r.completedAt = none) ∧
    (r.status = .running → r.startedAt ≠ none ∧ r.completedAt = none) ∧
    (r.status.terminal = true → r.completedAt ≠ none)

instance (r : IngestionRunRecord) : Decidable r.lifecycle :=
  inferInstanceAs (Decidable (_ ∧ _ ∧ _ ∧ _ ∧ _))

instance : Schema IngestionRunRecord where
  clash a b := a.id = b.id ∨ a.idempotencyKey = b.idempotencyKey
  check r := r.lifecycle
  clash_symm _ _ := Or.imp Eq.symm Eq.symm
  decClash _ _ := inferInstance
  decCheck _ := inferInstance

structure RequestLog where
  id : Uuid
  ingestionRunId : Uuid
  callerRequestId : Uuid
  errorCode : Option IngestionErrorCode
deriving DecidableEq

structure RawPayload where
  id : Uuid
  ingestionRunId : Uuid
  requestLogId : Uuid
  storageUri : String
  checksum : String
  byteSize : Nat
deriving DecidableEq

instance : Schema RawPayload where
  clash a b := a.id = b.id
  check _ := True
  clash_symm _ _ := Eq.symm
  decClash _ _ := inferInstance
  decCheck _ := inferInstance

/-- A row of one of the four evidence tables. -/
structure EvidenceRow where
  category : DataCategory
  sourcePayloadId : Uuid
  record : ProviderRecord
deriving DecidableEq

structure Store where
  runs : Table IngestionRunRecord
  requestLogs : List RequestLog
  rawPayloads : Table RawPayload
  evidence : List EvidenceRow

/-- The payload rows of a run. -/
def Store.payloadsOf (s : Store) (runId : Uuid) : List RawPayload :=
  s.rawPayloads.select (·.ingestionRunId = runId)

/-- The evidence rows of a run: those that refer to one of its payloads. -/
def Store.evidenceOf (s : Store) (runId : Uuid) : List EvidenceRow :=
  s.evidence.filter fun r => (s.payloadsOf runId).any (·.id = r.sourcePayloadId)

structure Blob where
  uri : String
  runId : Uuid
deriving DecidableEq

/-- What has happened so far, for the laws to speak about: the keys the provider was asked for, and
the runs whose evidence could not be stored. -/
structure History where
  fetched : List String
  unstored : List Uuid

structure World where
  store : Store
  blobs : List Blob
  history : History

/-! ## The repository -/

/-- `get_ingestion_run_by_idempotency_key` -/
def Store.runOfKey (s : Store) (key : String) : Option IngestionRunRecord :=
  s.runs.selectOne (·.idempotencyKey = key)

def newRun (env : Surroundings) (request : IngestionRequest) (provider : DataProviderRecord)
    (key : String) : IngestionRunRecord where
  id := env.runId
  providerId := provider.id
  securityId := request.securityId
  category := request.category
  status := .queued
  researchAsOfTime := request.researchAsOfTime
  idempotencyKey := key
  requestedAt := env.requestedAt
  startedAt := none
  completedAt := none
  requestCount := 0
  recordsReceived := 0
  recordsStored := 0
  warningCount := 0
  errorCode := none
  safeErrorMessage := none

/-- `get_or_create_ingestion_run`.  A row that is refused makes it look again, and it is not there. -/
def getOrCreateIngestionRun (env : Surroundings) (run : IngestionRunRecord) :
    Transaction Failure Store (IngestionRunRecord × Bool) := do
  lift (env.perform .getOrCreate)
  match ← query (·.runOfKey run.idempotencyKey) with
  | some existing => return (existing, false)
  | none =>
      lift (env.perform .createRun)
      write (fun s => (s.runs.insert run).map fun t => { s with runs := t }) .other
      return (run, true)

/-- `update_ingestion_run`, up to its flush. -/
def updateIngestionRun (runId : Uuid) (patch : IngestionRunRecord → IngestionRunRecord) :
    Transaction Failure Store IngestionRunRecord := do
  let row ← fetch (← query (·.runs.selectOne (·.id = runId))) .other
  raiseIf (¬ (patch row).lifecycle) .other
  write (fun s => (s.runs.update (·.id = runId) patch).map fun t => { s with runs := t }) .other
  return patch row

def addRequestLog (log : RequestLog) : Transaction Failure Store Unit :=
  write (fun s => some { s with requestLogs := s.requestLogs ++ [log] }) .other

def addRawPayload (payload : RawPayload) : Transaction Failure Store Unit :=
  write (fun s => (s.rawPayloads.insert payload).map fun t => { s with rawPayloads := t }) .other

/-- `add_daily_price_bar`, `add_corporate_action`, `add_financial_fact` and `add_source_document` -/
def addEvidence (row : EvidenceRow) : Transaction Failure Store Unit :=
  write (fun s => some { s with evidence := s.evidence ++ [row] }) .other

/-- The updates that the service makes. -/
def IngestionRunRecord.started (r : IngestionRunRecord) (at_ : Instant) : IngestionRunRecord :=
  { r with status := .running, startedAt := some at_ }

def IngestionRunRecord.blocked (at_ : Instant) (code : IngestionErrorCode) (message : String)
    (r : IngestionRunRecord) : IngestionRunRecord :=
  { r with status := .blocked, completedAt := some at_, errorCode := some code,
           safeErrorMessage := some message }

def IngestionRunRecord.failed (at_ : Instant) (code : IngestionErrorCode) (message : String)
    (r : IngestionRunRecord) : IngestionRunRecord :=
  { r with status := .fail, completedAt := some at_, requestCount := 1, errorCode := some code,
           safeErrorMessage := some message }

def IngestionRunRecord.completed (status : IngestionStatus) (at_ : Instant)
    (received stored warningCount : Nat) (error : Option (IngestionErrorCode × String))
    (r : IngestionRunRecord) : IngestionRunRecord :=
  { r with status := status, completedAt := some at_, requestCount := 1, recordsReceived := received,
           recordsStored := stored, warningCount := warningCount, errorCode := error.map Prod.fst,
           safeErrorMessage := error.map Prod.snd }

/-! ## Admission -/

def capabilityFor : DataCategory → ProviderCapability
  | .sourceDocuments => .documentDownload
  | .dailyPrices => .dailyPrices
  | .corporateActions => .corporateActions
  | .financialFacts => .financialFacts
  | .filingMetadata => .filingMetadata

/-- The tables of `_persisted_policy_error` and `_descriptor_policy_error`, which differ in what they
call the provider. -/
def policyError (subject : String) : ProviderStatus → Option (IngestionErrorCode × String)
  | .notAllowed => some (.providerNotAllowed, subject ++ " is not allowed")
  | .needsCredentials =>
      some (.providerCredentialsBlocked, "Provider credentials are not configured")
  | .needsLicenseConfirmation =>
      some (.providerLicenseBlocked, "Provider license requires confirmation")
  | .approved | .approvedForPersonalResearchOnly | .experimental => none

def persistedPolicyError (provider : DataProviderRecord) : Option (IngestionErrorCode × String) :=
  policyError "Provider" provider.status

def descriptorPolicyError (status : ProviderStatus) : Option (IngestionErrorCode × String) :=
  policyError "Provider adapter" status

/-- `ProviderRegistry.get`, with what `_registry_error` makes of its errors. -/
def registryError (descriptor : ProviderDescriptor) (required : ProviderCapability) :
    Option (IngestionErrorCode × String) :=
  if ¬ descriptor.isEnabled then some (.providerDisabled, "Provider adapter is disabled")
  else if descriptor.status = .notAllowed then
    some (.providerNotAllowed, "Provider adapter is not allowed")
  else if required ∉ descriptor.capabilities then
    some (.providerCapabilityMismatch, "Provider capability is not available")
  else if descriptor.requiresCredentials ∧ ¬ descriptor.credentialsConfigured then
    some (.providerCredentialsBlocked, "Provider credentials are not configured")
  else none

/-- `set(a) != set(b)` -/
def differ (a b : List ProviderCapability) : Prop := ¬ (a ⊆ b ∧ b ⊆ a)

instance (a b : List ProviderCapability) : Decidable (differ a b) :=
  inferInstanceAs (Decidable (¬ (_ ∧ _)))

/-- Why a run is blocked before the provider is asked, if it is: the checks of `ingest` in order. -/
def refusal (env : Surroundings) (provider : DataProviderRecord) (descriptor : ProviderDescriptor)
    (category : DataCategory) : Option (IngestionErrorCode × String) :=
  persistedPolicyError provider <|>
  (if capabilityFor category ∉ provider.capabilities then
    some (.providerMetadataMismatch, "Persisted provider metadata is incompatible with the request")
  else none) <|>
  descriptorPolicyError descriptor.status <|>
  registryError descriptor (capabilityFor category) <|>
  (if env.adapter.code ≠ provider.code ∨ env.adapter.version ≠ descriptor.version ∨
      descriptor.status ≠ provider.status ∨ differ env.adapter.capabilities descriptor.capabilities ∨
      differ descriptor.capabilities provider.capabilities then
    some (.providerMetadataMismatch,
      "Provider adapter metadata is incompatible with persisted metadata")
  else none) <|>
  (if provider.providerType ≠ .fixture then
    some (.providerMetadataMismatch, "Provider mode is not approved for ingestion")
  else none)

/-! ## The answer of the provider -/

def fixtureMarkers : Markers := (.fixture, .offline, .notLive)

def liveMarkers : Markers := (.live, .online, .live)

def validateEnvelope (env : Surroundings) (request : IngestionRequest)
    (provider : DataProviderRecord) (envelope : ProviderEnvelope) : Except Failure Unit :=
  if envelope.markers ≠ fixtureMarkers ∧ envelope.markers ≠ liveMarkers then
    .error .providerContractError
  else if provider.providerType = .fixture ∧ envelope.markers ≠ fixtureMarkers then
    .error .providerContractError
  else if envelope.providerCode ≠ env.adapter.code ∨ envelope.providerVersion ≠ env.adapter.version ∨
      envelope.category ≠ request.category then
    .error .providerContractError
  else .ok ()

def rawBytes : RawContent → Except Failure (List UInt8)
  | .bytes data => .ok data
  | .json => .error .providerContractError

/-- The two `try` blocks around the call of the provider: what it answers, and the bytes of it. -/
def fetchEnvelope (env : Surroundings) (request : IngestionRequest) (provider : DataProviderRecord) :
    Except Failure (ProviderEnvelope × List UInt8) := do
  let envelope ← env.fetch
  validateEnvelope env request provider envelope
  let raw ← rawBytes envelope.rawPayload
  return (envelope, raw)

/-- `[A-Z][A-Z0-9_:-]{0,127}\Z` -/
def isSafeWarning (warning : String) : Bool :=
  match warning.toList with
  | [] => false
  | c :: rest => c.isUpper && rest.length ≤ 127 &&
      rest.all fun d => d.isUpper || d.isDigit || d == '_' || d == ':' || d == '-'

/-- `dict.fromkeys`: the first of each value is kept. -/
def fromKeys : List String → List String
  | [] => []
  | w :: ws => w :: (fromKeys ws).filter (· ≠ w)

def safeWarnings (envelope : ProviderEnvelope) : List String :=
  fromKeys ((envelope.warnings ++ envelope.qualityWarnings).map fun warning =>
    if isSafeWarning warning then warning else "PROVIDER_WARNING_REDACTED")

def qualityStatus : QualityStatus → IngestionStatus
  | .pass => .pass
  | .partly => .partly
  | .blocked => .blocked
  | .fail => .fail

/-- The error of a run whose evidence was stored but is of no use. -/
def qualityError : QualityStatus → Option (IngestionErrorCode × String)
  | .blocked => some (.providerBlocked, "Provider returned blocked evidence")
  | .fail => some (.providerContractFailed, "Provider evidence failed quality checks")
  | .pass | .partly => none

/-! ## Storing evidence -/

/-- The type that the records of a category have, the fields they cannot be without, and what is
raised if they are. -/
structure Projection where
  recordType : String
  required : List String
  incomplete : Failure

/-- The branches of `_persist_attempt`. -/
def projection : DataCategory → Option Projection
  | .dailyPrices => some ⟨"daily_price", ["trading_date", "currency_code"], .other⟩
  | .corporateActions => some ⟨"corporate_action", [], .other⟩
  | .financialFacts => some ⟨"financial_fact", [], .other⟩
  | .filingMetadata =>
      some ⟨"filing_metadata", ["document_type", "title", "source_url", "document_status"],
        .providerContractError⟩
  | .sourceDocuments => none

/-- The loop of `_persist_attempt` over the records of a category, from the record `index` on. -/
def addRecords (env : Surroundings) (category : DataCategory) (p : Projection) :
    Nat → List ProviderRecord → Transaction Failure Store Unit
  | _, [] => pure ()
  | index, record :: rest => do
      raiseIf (record.recordType ≠ p.recordType) .providerContractError
      raiseIf (¬ p.required ⊆ record.fields) p.incomplete
      raiseIf (record.valid = false) .other
      lift (env.perform (.addEvidence index))
      addEvidence ⟨category, env.payloadId, record⟩
      addRecords env category p (index + 1) rest

/-- The category projection of `_persist_attempt`: how many rows it has stored. -/
def addEvidenceRows (env : Surroundings) (request : IngestionRequest) (envelope : ProviderEnvelope) :
    Transaction Failure Store Nat :=
  match projection request.category with
  | some p => do
      addRecords env request.category p 0 envelope.records
      return envelope.records.length
  | none => do
      raiseIf (envelope.records ≠ []) .providerContractError
      return 0

def persistAttempt (env : Surroundings) (runId : Uuid) (request : IngestionRequest)
    (envelope : ProviderEnvelope) (blob : BlobMetadata) : Transaction Failure Store Nat := do
  lift (env.perform .addRequestLog)
  addRequestLog ⟨env.requestLogId, runId, request.requestId, none⟩
  lift (env.perform .addRawPayload)
  addRawPayload
    ⟨env.payloadId, runId, env.requestLogId, blob.uri, blob.checksumSha256, blob.sizeBytes⟩
  if envelope.quality = .blocked ∨ envelope.quality = .fail then return 0
  else addEvidenceRows env request envelope

/-- The savepoint of `ingest`. -/
def ingestionAttempt (env : Surroundings) (runId : Uuid) (request : IngestionRequest)
    (envelope : ProviderEnvelope) (blob : BlobMetadata) :
    Transaction Failure Store IngestionRunRecord := do
  lift (env.perform .savepoint)
  let stored ← persistAttempt env runId request envelope blob
  lift (env.perform .completeRun)
  let completed ← updateIngestionRun runId (.completed (qualityStatus envelope.quality)
    env.completedAt envelope.records.length stored (safeWarnings envelope).length
    (qualityError envelope.quality))
  lift (env.perform .readCompleted)
  lift (env.perform .release)
  return completed

/-! ## Results -/

def fromRun (run : IngestionRunRecord) (warnings : List String) (markers : Option Markers) :
    IngestionResult where
  runId := some run.id
  status := run.status
  idempotencyKey := run.idempotencyKey
  requestCount := run.requestCount
  recordsReceived := run.recordsReceived
  recordsStored := run.recordsStored
  warningCount := run.warningCount
  warnings :=
    if warnings = [] ∧ 0 < run.warningCount then ["PREVIOUS_INGESTION_COMPLETED_WITH_WARNINGS"]
    else warnings
  markers := markers
  errorCode := run.errorCode
  safeErrorMessage := run.safeErrorMessage

/-- The markers of a run that was there already. -/
def replayMarkers (provider : DataProviderRecord) : Option Markers :=
  if provider.providerType = .fixture then some fixtureMarkers else none

def safePersistenceFailure (key : String) (run : Option IngestionRunRecord) : IngestionResult where
  runId := run.map (·.id)
  status := .fail
  idempotencyKey := key
  requestCount := (run.map (·.requestCount)).getD 0
  recordsReceived := (run.map (·.recordsReceived)).getD 0
  recordsStored := (run.map (·.recordsStored)).getD 0
  warningCount := (run.map (·.warningCount)).getD 0
  warnings := []
  markers := none
  errorCode := some .persistenceFailed
  safeErrorMessage := some "Ingestion persistence failed safely"

def prerunBlocked (key : String) (code : IngestionErrorCode) (message : String) :
    IngestionResult where
  runId := none
  status := .blocked
  idempotencyKey := key
  requestCount := 0
  recordsReceived := 0
  recordsStored := 0
  warningCount := 0
  warnings := []
  markers := none
  errorCode := some code
  safeErrorMessage := some message

/-! ## Ingesting -/

/-- A transaction on the store of the world. -/
def onStore {α : Type} (t : Transaction Failure Store α) : Program Failure World α :=
  Program.transact (·.store) (fun w s => { w with store := s }) t

/-- An update outside any savepoint: the read-back comes after the write. -/
def updateRun (env : Surroundings) (op readBack : Operation) (runId : Uuid)
    (patch : IngestionRunRecord → IngestionRunRecord) : Program Failure World IngestionRunRecord := do
  Program.call (env.perform op)
  let row ← onStore (updateIngestionRun runId patch)
  Program.call (env.perform readBack)
  return row

/-- `_finish_blocked` and `_finish_failed`: the run is closed, or the answer says that it could not
be. -/
def finishRun (env : Surroundings) (op readBack : Operation) (run : IngestionRunRecord)
    (patch : IngestionRunRecord → IngestionRunRecord) : Program Failure World IngestionResult := do
  match ← Program.attempt (updateRun env op readBack run.id patch) with
  | .error _ => return safePersistenceFailure run.idempotencyKey (some run)
  | .ok completed => return fromRun completed [] none

def finishBlocked (env : Surroundings) (run : IngestionRunRecord) (code : IngestionErrorCode)
    (message : String) : Program Failure World IngestionResult :=
  finishRun env .blockRun .readBlocked run (.blocked env.blockedAt code message)

def finishFailed (env : Surroundings) (run : IngestionRunRecord) (code : IngestionErrorCode)
    (message : String) : Program Failure World IngestionResult :=
  finishRun env .failRun .readFailed run (.failed env.failedAt code message)

/-- The log row of an answer that is of no use. -/
def logFailure (env : Surroundings) (run : IngestionRunRecord) (request : IngestionRequest) :
    Transaction Failure Store Unit := do
  lift (env.perform .logFailure)
  addRequestLog ⟨env.requestLogId, run.id, request.requestId, some .providerContractFailed⟩

def finishFetchFailure (env : Surroundings) (run : IngestionRunRecord) (request : IngestionRequest) :
    Program Failure World IngestionResult := do
  let _ ← Program.attempt (onStore (logFailure env run request))
  finishFailed env run .providerContractFailed "Provider response failed safe validation"

/-- `blob_storage.put` -/
def putBlob (env : Surroundings) (runId : Uuid) : Program Failure World BlobMetadata := fun w =>
  match env.put with
  | .stored blob =>
      if w.blobs.any (·.uri = blob.uri) then (.error .blobStorageError, w)
      else (.ok blob, { w with blobs := w.blobs ++ [⟨blob.uri, runId⟩] })
  | .refused f leftover =>
      (.error f, { w with blobs := w.blobs ++ leftover.toList.map fun uri => ⟨uri, runId⟩ })

/-- `blob_storage.delete`, with the `BlobStorageError` suppressed. -/
def deleteBlob (env : Surroundings) (uri : String) : Program Failure World Unit :=
  Program.catching (· = .blobStorageError)
    (do
      Program.call (env.perform .deleteBlob)
      Program.update fun w => { w with blobs := w.blobs.filter (·.uri ≠ uri) })
    fun _ => pure ()

/-- The end of a run whose evidence could not be stored. -/
def compensate (env : Surroundings) (run : IngestionRunRecord) (blobUri : Option String) :
    Program Failure World IngestionResult := do
  Program.update fun w =>
    { w with history := { w.history with unstored := w.history.unstored ++ [run.id] } }
  match blobUri with
  | none => pure ()
  | some uri => deleteBlob env uri
  finishFailed env run .persistenceFailed "Ingestion persistence failed safely"

/-- The last `try` block of `ingest`, with its handler. -/
def storeEvidence (platform : Platform) (env : Surroundings) (run : IngestionRunRecord)
    (request : IngestionRequest) (envelope : ProviderEnvelope) (raw : List UInt8) :
    Program Failure World IngestionResult := do
  match ← Program.attempt (putBlob env run.id) with
  | .error _ => compensate env run none
  | .ok blob =>
      if blob.checksumSha256 ≠ platform.sha256Bytes raw ∨ blob.sizeBytes ≠ raw.length then
        compensate env run (some blob.uri)
      else
        match ← Program.attempt (onStore (ingestionAttempt env run.id request envelope blob)) with
        | .error _ => compensate env run (some blob.uri)
        | .ok completed => return fromRun completed (safeWarnings envelope) (some envelope.markers)

/-- The call of the provider and what comes after it. -/
def fetchAndStore (platform : Platform) (env : Surroundings) (run : IngestionRunRecord)
    (request : IngestionRequest) (provider : DataProviderRecord) :
    Program Failure World IngestionResult := do
  Program.update fun w =>
    { w with history := { w.history with fetched := w.history.fetched ++ [run.idempotencyKey] } }
  match fetchEnvelope env request provider with
  | .error _ => finishFetchFailure env run request
  | .ok (envelope, raw) => storeEvidence platform env run request envelope raw

/-- A run that has just been started. -/
def executeRun (platform : Platform) (env : Surroundings) (run : IngestionRunRecord)
    (request : IngestionRequest) (provider : DataProviderRecord) (descriptor : ProviderDescriptor) :
    Program Failure World IngestionResult :=
  match env.mapping with
  | .error _ => finishFailed env run .persistenceFailed "Ingestion persistence failed safely"
  | .ok false => finishBlocked env run .mappingNotActive "Provider mapping is not active"
  | .ok true =>
      match refusal env provider descriptor request.category with
      | some (code, message) => finishBlocked env run code message
      | none => fetchAndStore platform env run request provider

/-- The run of a key is opened: if it was there its result is returned, else it is started and handed
on. -/
def openRun (env : Surroundings) (run : IngestionRunRecord) (existing : Option Markers)
    (next : IngestionRunRecord → Program Failure World IngestionResult) :
    Program Failure World IngestionResult := do
  match ← Program.attempt (onStore (getOrCreateIngestionRun env run)) with
  | .error _ => return safePersistenceFailure run.idempotencyKey none
  | .ok (run, false) => return fromRun run [] existing
  | .ok (run, true) =>
      match ← Program.attempt
        (updateRun env .startRun .readStarted run.id (·.started env.startedAt)) with
      | .error _ => return safePersistenceFailure run.idempotencyKey (some run)
      | .ok running => next running

/-- `IngestionService.ingest`, with `_blocked_run` for an adapter that is not registered. -/
def ingest (platform : Platform) (env : Surroundings) (request : IngestionRequest) :
    Program Failure World IngestionResult :=
  let key := env.key platform request
  match env.provider with
  | .error _ =>
      return safePersistenceFailure (computeIngestionIdempotencyKey platform request none) none
  | .ok none =>
      return prerunBlocked (computeIngestionIdempotencyKey platform request none) .providerNotFound
        "Provider is not configured"
  | .ok (some provider) =>
      match env.descriptor with
      | none =>
          openRun env (newRun env request provider key) none fun run =>
            finishBlocked env run .providerNotFound "Provider adapter is not registered"
      | some descriptor => do
          match ← Program.attempt (onStore (do
              lift (env.perform .findRun)
              query (·.runOfKey key))) with
          | .error _ => return safePersistenceFailure key none
          | .ok (some existing) => return fromRun existing [] (replayMarkers provider)
          | .ok none =>
              openRun env (newRun env request provider key) (replayMarkers provider) fun run =>
                executeRun platform env run request provider descriptor

end StockResearch.Ingestion
