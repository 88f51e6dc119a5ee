import StockResearch.Core.Calendar
import StockResearch.Core.Table
import StockResearch.Documents.Schemas

/-!
# The rows of the document store

The tables of `db/models/knowledge.py` that documents, chunks and citations are kept in, with the
columns that are read and the constraints that matter: primary keys, the unique constraints that
order pages, sections and chunks, and the length of an excerpt.

The locator column of a citation is a JSON object.  `optionalInt` and `optionalStr` read a member of
it as the repository does: a value of another type counts as missing.
-/

namespace StockResearch.Documents

open PyText PyTime Txn

inductive EvidenceOrigin where
  | source | syntheticTestOnly
deriving DecidableEq, Repr

inductive AccessMode where
  | offline | online
deriving DecidableEq, Repr

inductive LiveStatus where
  | notLive | live
deriving DecidableEq, Repr

inductive DocumentType where
  | annualReport | quarterlyReport | interimReport | earningsRelease | materialAnnouncement
  | sec10K | sec10Q | sec8K | investorPresentation | other
deriving DecidableEq, Repr

structure LogicalDocument where
  id : Uuid
  documentType : DocumentType
deriving DecidableEq

structure DocumentVersion where
  id : Uuid
  logicalDocumentId : Uuid
  sourceDocumentId : Uuid
  providerId : Uuid
  versionNumber : Nat
  supersedesDocumentVersionId : Option Uuid
  storageUri : String
  mimeType : String
  checksum : String
  byteSize : Nat
  publishedAt : Option Instant
  trustLevel : TrustLevel
  evidenceOrigin : EvidenceOrigin
  accessMode : AccessMode
  liveStatus : LiveStatus
  sourceVersionStatus : SourceVersionStatus
deriving DecidableEq

structure DocumentParseRun where
  id : Uuid
  documentVersionId : Uuid
  parserVersion : String
  sanitizerVersion : String
  status : ParseStatus
  canonicalText : Option Text
  canonicalTextChecksum : Option String
  warnings : List String
  completedAt : Option Instant
deriving DecidableEq

structure DocumentPage where
  id : Uuid
  parseRunId : Uuid
  pageNumber : Nat
  text : Text
  textChecksum : String
  characterCount : Nat
  status : PageStatus
  warnings : List String
deriving DecidableEq

structure DocumentSection where
  id : Uuid
  parseRunId : Uuid
  parentSectionId : Option Uuid
  sectionPath : String
  level : Nat
  title : Text
  locatorType : LocatorType
  startPage : Option Int
  endPage : Option Int
  startOffset : Option Int
  endOffset : Option Int
  textChecksum : String
  contentKind : ContentKind
deriving DecidableEq

structure DocumentChunk where
  id : Uuid
  parseRunId : Uuid
  documentVersionId : Uuid
  chunkVersion : String
  chunkIndex : Nat
  text : Text
  checksum : String
deriving DecidableEq

structure CitationAnchor where
  id : Uuid
  documentVersionId : Uuid
  parseRunId : Uuid
  pageId : Option Uuid
  sectionId : Option Uuid
  chunkId : Option Uuid
  locatorType : LocatorType
  locator : List (String × PyJson.Value)
  excerpt : Text
  excerptChecksum : String
  canonicalTextChecksum : String
  documentChecksum : String
  locatorChecksum : String
  citationVersion : String
  parserVersion : String
  sanitizerVersion : String

structure SnapshotDocumentVersion where
  snapshotId : Uuid
  documentVersionId : Uuid
deriving DecidableEq

/-- `_optional_int(locator.get(key))` -/
def optionalInt (locator : List (String × PyJson.Value)) (key : String) : Option Int :=
  match (PyJson.Value.obj locator).get? key with
  | some (.int n) => some n
  | _ => none

/-- `_optional_str(locator.get(key))` -/
def optionalStr (locator : List (String × PyJson.Value)) (key : String) : Option String :=
  match (PyJson.Value.obj locator).get? key with
  | some (.str s) => some s
  | _ => none

/-! ## Constraints -/

instance : Schema LogicalDocument where
  clash a b := a.id = b.id
  check _ := True
  clash_symm _ _ h := h.symm
  decClash _ _ := inferInstance
  decCheck _ := inferInstance

instance : Schema DocumentVersion where
  clash a b := a.id = b.id
  check _ := True
  clash_symm _ _ h := h.symm
  decClash _ _ := inferInstance
  decCheck _ := inferInstance

instance : Schema DocumentParseRun where
  clash a b := a.id = b.id
  check _ := True
  clash_symm _ _ h := h.symm
  decClash _ _ := inferInstance
  decCheck _ := inferInstance

instance : Schema DocumentPage where
  clash a b := a.id = b.id ∨ a.parseRunId = b.parseRunId ∧ a.pageNumber = b.pageNumber
  check r := 0 < r.pageNumber
  clash_symm _ _ := Or.imp Eq.symm (And.imp Eq.symm Eq.symm)
  decClash _ _ := inferInstance
  decCheck _ := inferInstance

instance : Schema DocumentSection where
  clash a b := a.id = b.id ∨ a.parseRunId = b.parseRunId ∧ a.sectionPath = b.sectionPath
  check r := 1 ≤ r.level ∧ r.level ≤ 64 ∧ ∀ s ∈ r.startOffset, ∀ e ∈ r.endOffset, s < e
  clash_symm _ _ := Or.imp Eq.symm (And.imp Eq.symm Eq.symm)
  decClash _ _ := inferInstance
  decCheck _ := inferInstance

instance : Schema DocumentChunk where
  clash a b := a.id = b.id ∨ a.parseRunId = b.parseRunId ∧
    (a.chunkVersion = b.chunkVersion ∧ a.chunkIndex = b.chunkIndex ∨ a.checksum = b.checksum)
  check _ := True
  clash_symm _ _ := Or.imp Eq.symm
    (And.imp Eq.symm (Or.imp (And.imp Eq.symm Eq.symm) Eq.symm))
  decClash _ _ := inferInstance
  decCheck _ := inferInstance

instance : Schema CitationAnchor where
  clash a b := a.id = b.id ∨ a.documentVersionId = b.documentVersionId ∧
    a.parseRunId = b.parseRunId ∧ a.locatorChecksum = b.locatorChecksum
  check r := (1 ≤ r.excerpt.length ∧ r.excerpt.length ≤ 1000) ∧
    (r.locatorType = .pdfPageRange → r.pageId ≠ none) ∧
    (r.locatorType = .htmlAnchorRange ∨ r.locatorType = .jsonPointer ∨
      r.locatorType = .sectionRange → r.sectionId ≠ none)
  clash_symm _ _ := Or.imp Eq.symm (And.imp Eq.symm (And.imp Eq.symm Eq.symm))
  decClash _ _ := inferInstance
  decCheck _ := inferInstance

instance : Schema SnapshotDocumentVersion where
  clash a b := a.snapshotId = b.snapshotId ∧ a.documentVersionId = b.documentVersionId
  check _ := True
  clash_symm _ _ := And.imp Eq.symm Eq.symm
  decClash _ _ := inferInstance
  decCheck _ := inferInstance

end StockResearch.Documents
