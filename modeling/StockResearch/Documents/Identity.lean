import StockResearch.Documents.Citations

/-!
# Registering the versions of a document

`DocumentVersionService.register` of `domain/documents/identity.py` over the table
`document_versions`, with the repository methods it calls.

A call looks a version up, chooses a number, validates what the version supersedes and inserts a
row.  What it reads outside the table of versions (source bodies, logical documents, blobs, a new
identifier and the clock) comes with its `Surroundings`.
-/

namespace StockResearch.Documents

open PyTime Txn

/-! ## Contracts -/

structure SourceBodyRecord where
  sourceDocumentId : Uuid
  securityId : Uuid
  providerId : Uuid
  sourcePayloadId : Uuid
  storageUri : String
  checksum : String
  byteSize : Nat
  mimeType : String
  publishedAt : Option Instant
  filedAt : Option Instant
  periodEnd : Option Date
  retrievedAt : Instant
  byteSize_bounds : 1 ≤ byteSize ∧ byteSize ≤ 10000000
deriving DecidableEq

structure RegisterDocumentVersionRequest where
  logicalDocumentId : Option Uuid
  sourceBody : SourceBodyRecord
  versionNumber : Option Nat
  supersedesDocumentVersionId : Option Uuid
  documentLanguage : DocumentLanguage
  trustLevel : TrustLevel
  evidenceOrigin : EvidenceOrigin
  accessMode : AccessMode
  liveStatus : LiveStatus
  sourceVersionStatus : SourceVersionStatus
  versionNumber_pos : ∀ n ∈ versionNumber, 1 ≤ n
deriving DecidableEq

structure DocumentVersionWrite where
  logicalDocumentId : Uuid
  sourceDocumentId : Uuid
  securityId : Uuid
  providerId : Uuid
  sourcePayloadId : Uuid
  versionNumber : Nat
  supersedesDocumentVersionId : Option Uuid
  storageUri : String
  mimeType : String
  checksumAlgorithm : String
  checksum : String
  byteSize : Nat
  publishedAt : Option Instant
  filedAt : Option Instant
  periodEnd : Option Date
  retrievedAt : Instant
  documentLanguage : DocumentLanguage
  trustLevel : TrustLevel
  evidenceOrigin : EvidenceOrigin
  accessMode : AccessMode
  liveStatus : LiveStatus
  sourceVersionStatus : SourceVersionStatus
deriving DecidableEq

/-- A row of `document_versions` with all its columns. -/
structure DocumentVersionRecord extends DocumentVersionWrite where
  id : Uuid
  createdAt : Instant
deriving DecidableEq

instance : Schema DocumentVersionRecord where
  clash a b := a.id = b.id ∨ a.logicalDocumentId = b.logicalDocumentId ∧
    (a.versionNumber = b.versionNumber ∨ a.checksum = b.checksum)
  check r := 0 < r.versionNumber ∧ (1 ≤ r.byteSize ∧ r.byteSize ≤ 26214400) ∧
    r.checksumAlgorithm = "sha256"
  clash_symm _ _ := Or.imp Eq.symm (And.imp Eq.symm (Or.imp Eq.symm Eq.symm))
  decClash _ _ := inferInstance
  decCheck _ := inferInstance

inductive VersionStatus where
  | created | reused | blocked
deriving DecidableEq, Repr

structure DocumentVersionResult where
  status : VersionStatus
  version : Option DocumentVersionRecord
  warnings : List String
deriving DecidableEq

def DocumentVersionResult.blocked (warning : String) : DocumentVersionResult :=
  ⟨.blocked, none, [warning]⟩

/-- What a step meets outside the table of versions.  A blob that cannot be read raises
`BlobStorageError`, whose text is all that is kept of it. -/
structure Surroundings where
  getSourceBody : Uuid → Option SourceBodyRecord
  getLogicalDocumentSecurityId : Uuid → Option Uuid
  metadata : String → Except String BlobMetadata
  get : String → Except String (List UInt8)
  checksum : String → Except String String
  newId : Uuid
  now : Instant

/-! ## The repository -/

def findVersion (versions : Table DocumentVersionRecord) (logicalDocumentId : Uuid)
    (checksum : String) : Option DocumentVersionRecord :=
  versions.selectOne fun row => row.logicalDocumentId = logicalDocumentId ∧ row.checksum = checksum

def nextVersionNumber (versions : Table DocumentVersionRecord) (logicalDocumentId : Uuid) : Nat :=
  (versions.select (·.logicalDocumentId = logicalDocumentId)).foldl
    (fun current row => max current row.versionNumber) 0 + 1

def getDocumentVersion (versions : Table DocumentVersionRecord) (id : Uuid) :
    Option DocumentVersionRecord :=
  versions.selectOne (·.id = id)

/-- The new row of `acquire_version`, flushed inside a savepoint. -/
inductive Flush where
  | stored (row : DocumentVersionRecord) (versions : Table DocumentVersionRecord)
  | integrityError
  | dataError

/-- A number that does not fit the integer column is no integrity error. -/
def flushVersion (env : Surroundings) (versions : Table DocumentVersionRecord)
    (value : DocumentVersionWrite) : Flush :=
  if 2147483647 < value.versionNumber then .dataError
  else
    match versions.insert ⟨value, env.newId, env.now⟩ with
    | some versions' => .stored ⟨value, env.newId, env.now⟩ versions'
    | none => .integrityError

def acquireVersion (env : Surroundings) (versions : Table DocumentVersionRecord)
    (value : DocumentVersionWrite) :
    Except String (DocumentVersionRecord × Bool) × Table DocumentVersionRecord :=
  match findVersion versions value.logicalDocumentId value.checksum with
  | some existing => (.ok (existing, false), versions)
  | none =>
      match flushVersion env versions value with
      | .stored row versions' => (.ok (row, true), versions')
      | .dataError => (.error "DataError", versions)
      | .integrityError =>
          match findVersion versions value.logicalDocumentId value.checksum with
          | some winner => (.ok (winner, false), versions)
          | none => (.error "IntegrityError", versions)

/-! ## The service -/

def sameContentMetadata (version : DocumentVersionRecord) (body : SourceBodyRecord) : Prop :=
  version.sourceDocumentId = body.sourceDocumentId ∧ version.securityId = body.securityId ∧
    version.providerId = body.providerId ∧ version.sourcePayloadId = body.sourcePayloadId ∧
    version.storageUri = body.storageUri ∧ version.mimeType = body.mimeType ∧
    version.checksum = body.checksum ∧ version.byteSize = body.byteSize

instance (version : DocumentVersionRecord) (body : SourceBodyRecord) :
    Decidable (sameContentMetadata version body) :=
  inferInstanceAs (Decidable (_ ∧ _))

def samePolicy (version : DocumentVersionRecord) (request : RegisterDocumentVersionRequest) :
    Prop :=
  version.supersedesDocumentVersionId = request.supersedesDocumentVersionId ∧
    version.publishedAt = request.sourceBody.publishedAt ∧
    version.filedAt = request.sourceBody.filedAt ∧
    version.periodEnd = request.sourceBody.periodEnd ∧
    version.retrievedAt = request.sourceBody.retrievedAt ∧
    version.documentLanguage = request.documentLanguage ∧
    version.trustLevel = request.trustLevel ∧ version.evidenceOrigin = request.evidenceOrigin ∧
    version.accessMode = request.accessMode ∧ version.liveStatus = request.liveStatus ∧
    version.sourceVersionStatus = request.sourceVersionStatus

instance (version : DocumentVersionRecord) (request : RegisterDocumentVersionRequest) :
    Decidable (samePolicy version request) :=
  inferInstanceAs (Decidable (_ ∧ _))

/-- `_blob_matches`.  The checksum is read outside the `try`, and only when all else matches. -/
def blobMatches (env : Surroundings) (body : SourceBodyRecord) : Except String Bool :=
  match env.metadata body.storageUri, env.get body.storageUri with
  | .ok metadata, .ok content =>
      if metadata.checksum = body.checksum ∧ metadata.sizeBytes = body.byteSize ∧
          metadata.contentType = body.mimeType ∧ content.length = body.byteSize then do
        return (← env.checksum body.storageUri) = body.checksum
      else .ok false
  | _, _ => .ok false

def validateSupersedesRelation (versions : Table DocumentVersionRecord)
    (logicalDocumentId : Uuid) (versionNumber : Nat)
    (supersedesDocumentVersionId : Option Uuid) : Option String :=
  match supersedesDocumentVersionId with
  | none => none
  | some id =>
      match getDocumentVersion versions id with
      | none => some "SUPERSEDES_VERSION_NOT_FOUND"
      | some superseded =>
          if superseded.logicalDocumentId ≠ logicalDocumentId then
            some "SUPERSEDES_VERSION_LOGICAL_DOCUMENT_MISMATCH"
          else if versionNumber ≤ superseded.versionNumber then
            some "SUPERSEDES_VERSION_ORDER_INVALID"
          else none

/-- The row that a request writes, under a number. -/
def RegisterDocumentVersionRequest.write (request : RegisterDocumentVersionRequest)
    (logicalDocumentId : Uuid) (versionNumber : Nat) : DocumentVersionWrite where
  logicalDocumentId := logicalDocumentId
  sourceDocumentId := request.sourceBody.sourceDocumentId
  securityId := request.sourceBody.securityId
  providerId := request.sourceBody.providerId
  sourcePayloadId := request.sourceBody.sourcePayloadId
  versionNumber := versionNumber
  supersedesDocumentVersionId := request.supersedesDocumentVersionId
  storageUri := request.sourceBody.storageUri
  mimeType := request.sourceBody.mimeType
  checksumAlgorithm := "sha256"
  checksum := request.sourceBody.checksum
  byteSize := request.sourceBody.byteSize
  publishedAt := request.sourceBody.publishedAt
  filedAt := request.sourceBody.filedAt
  periodEnd := request.sourceBody.periodEnd
  retrievedAt := request.sourceBody.retrievedAt
  documentLanguage := request.documentLanguage
  trustLevel := request.trustLevel
  evidenceOrigin := request.evidenceOrigin
  accessMode := request.accessMode
  liveStatus := request.liveStatus
  sourceVersionStatus := request.sourceVersionStatus

/-- The first half of `register`: an answer, or the logical document to write a version of. -/
def lookUp (env : Surroundings) (versions : Table DocumentVersionRecord)
    (request : RegisterDocumentVersionRequest) :
    Except String (DocumentVersionResult ⊕ Uuid) :=
  match request.logicalDocumentId with
  | none => .ok (.inl (.blocked "STABLE_DOCUMENT_IDENTITY_REQUIRED"))
  | some logicalDocumentId =>
      let body := request.sourceBody
      if env.getSourceBody body.sourceDocumentId ≠ some body then
        .ok (.inl (.blocked "SOURCE_BODY_RECORD_MISMATCH"))
      else
        match env.getLogicalDocumentSecurityId logicalDocumentId with
        | none => .ok (.inl (.blocked "LOGICAL_DOCUMENT_NOT_FOUND"))
        | some logicalSecurityId =>
            if logicalSecurityId ≠ body.securityId then
              .ok (.inl (.blocked "LOGICAL_DOCUMENT_SECURITY_MISMATCH"))
            else
              let existing := findVersion versions logicalDocumentId body.checksum
              if ∃ version ∈ existing, ¬ sameContentMetadata version body then
                .ok (.inl (.blocked "DOCUMENT_VERSION_METADATA_CONFLICT"))
              else do
                if !(← blobMatches env body) then
                  return .inl (.blocked "SOURCE_BODY_BLOB_METADATA_MISMATCH")
                match existing with
                | some version =>
                    if ¬ samePolicy version request then
                      return .inl (.blocked "DOCUMENT_VERSION_POLICY_CONFLICT")
                    return .inl ⟨.reused, some version, []⟩
                | none => return .inr logicalDocumentId

/-- `request.version_number or self._repository.next_version_number(logical_document_id)` -/
def chosenNumber (versions : Table DocumentVersionRecord)
    (request : RegisterDocumentVersionRequest) (logicalDocumentId : Uuid) : Nat :=
  request.versionNumber.getD (nextVersionNumber versions logicalDocumentId)

/-- What `register` returns for the row that it acquired. -/
def acquiredResult (request : RegisterDocumentVersionRequest) (record : DocumentVersionRecord)
    (acquired : Bool) : DocumentVersionResult :=
  if ¬ sameContentMetadata record request.sourceBody then
    .blocked "DOCUMENT_VERSION_METADATA_CONFLICT"
  else if ¬ samePolicy record request then
    .blocked "DOCUMENT_VERSION_POLICY_CONFLICT"
  else ⟨if acquired then .created else .reused, some record, []⟩

/-- `DocumentVersionService.register`, without another session in between. -/
def register (env : Surroundings) (versions : Table DocumentVersionRecord)
    (request : RegisterDocumentVersionRequest) :
    Except String DocumentVersionResult × Table DocumentVersionRecord :=
  match lookUp env versions request with
  | .error e => (.error e, versions)
  | .ok (.inl result) => (.ok result, versions)
  | .ok (.inr logicalDocumentId) =>
      let versionNumber := chosenNumber versions request logicalDocumentId
      match validateSupersedesRelation versions logicalDocumentId versionNumber
          request.supersedesDocumentVersionId with
      | some warning => (.ok (.blocked warning), versions)
      | none =>
          match acquireVersion env versions (request.write logicalDocumentId versionNumber) with
          | (.error e, versions') => (.error e, versions')
          | (.ok (record, acquired), versions') =>
              (.ok (acquiredResult request record acquired), versions')

end StockResearch.Documents
