import StockResearch.Documents.Chunking
import StockResearch.Documents.Records

/-!
# Citations

`create_citation` makes the anchor of an exact excerpt, and `CitationVerifier.verify` checks an
anchor against the sources that it names: the version of the document, the parse run, the blob and
the text.

The verifier is given a context that a repository has read.  A `BlobStorage` may fail to find a
blob.
-/

namespace StockResearch.Documents

open PyText PyTime Slice

/-! ## Making a citation -/

/-- What the checksum of a locator is taken of. -/
def locatorPayload (f : CitationFields) : PyJson.Value := .obj [
  ("document_version_id", .str f.documentVersionId.str),
  ("parse_run_id", .str f.parseRunId.str),
  ("locator_type", .str f.locator.locatorType.value),
  ("start_page", jsonInt f.locator.startPage),
  ("end_page", jsonInt f.locator.endPage),
  ("html_anchor", jsonStr f.locator.htmlAnchor),
  ("json_pointer", jsonStr f.locator.jsonPointer),
  ("start_offset", jsonInt f.locator.startOffset),
  ("end_offset", jsonInt f.locator.endOffset),
  ("excerpt_checksum", .str f.excerptChecksum),
  ("citation_version", .str f.citationVersion)]

section

variable (hash : PyJson.IdealHash)

def locatorChecksum (f : CitationFields) : String :=
  hash.digest (PyJson.asciiText (locatorPayload f))

def createCitation (request : CreateCitationRequest) : Except String CitationAnchorDraft := do
  Checked.check (request.1.excerptChecksum ≠ hash.digest request.1.excerpt)
    "excerpt checksum does not match exact excerpt"
  Checked.check (∃ s ∈ request.1.locator.startOffset, ∃ e ∈ request.1.locator.endOffset,
    e - s ≠ request.1.excerpt.length) "locator range does not match exact excerpt length"
  Checked.validated AnchorFields.validate
    { request.1 with locatorChecksum := locatorChecksum hash request.1 }

/-- The fields of the citation of a chunk, as `add_chunks_and_citations` gives them. -/
def citationFields (run : DocumentParseRun) (version : DocumentVersion)
    (canonicalTextChecksum : String) (pageId sectionId : Option Uuid) (chunkId : Uuid)
    (draft : DocumentChunkDraft) : CitationFields where
  documentVersionId := version.id
  parseRunId := run.id
  pageId := pageId
  sectionId := sectionId
  chunkId := some chunkId
  locator := draft.1.locator
  excerpt := draft.1.text
  excerptChecksum := hash.digest draft.1.text
  canonicalTextChecksum := canonicalTextChecksum
  documentChecksum := version.checksum
  citationVersion := "citation-v1"
  parserVersion := run.parserVersion
  sanitizerVersion := run.sanitizerVersion

/-- `create_citation(CreateCitationRequest(…))` for a chunk. -/
def citeChunk (run : DocumentParseRun) (version : DocumentVersion) (canonicalTextChecksum : String)
    (pageId sectionId : Option Uuid) (chunkId : Uuid) (draft : DocumentChunkDraft) :
    Except String CitationAnchorDraft := do
  let request ← Checked.validated CitationFields.validate
    (citationFields hash run version canonicalTextChecksum pageId sectionId chunkId draft)
  createCitation hash request

end

/-! ## Verifying a citation -/

structure BlobMetadata where
  checksum : String
  sizeBytes : Nat
  contentType : String
deriving DecidableEq

/-- A blob storage; nothing is found where it raises. -/
structure BlobStorage where
  metadata : String → Option BlobMetadata
  get : String → Option (List UInt8)
  /-- The SHA-256 digest of the bytes of a blob. -/
  digest : List UInt8 → String

/-- What a repository has read for a citation.  Dictionaries are lists of their items. -/
structure CitationContext where
  citation : CitationAnchorDraft
  documentVersion : DocumentVersion
  canonicalSourceText : Text
  blobBytes : List UInt8
  blobMimeType : String
  blobChecksum : String
  blobSize : Nat
  versionInSnapshot : Option Bool
  snapshotIds : List Uuid
  supersededByDocumentVersionId : Option Uuid
  supersededAt : Option Instant
  supersessionTimeUnknown : Bool
  availablePageNumbers : List Nat
  pageTexts : List (Nat × Text)
  availableSectionIds : List Uuid
  sectionPaths : List (Uuid × String)
  sectionRanges : List (Uuid × Option Int × Option Int)
  availableHtmlAnchors : List String
  availableJsonPointers : List String
  chunkText : Option Text
  parserVersion : String
  sanitizerVersion : String

structure CitationScope where
  researchAsOfTime : Option Instant
  strictHistorical : Bool
  snapshotId : Option Uuid
  explicitDocumentVersionId : Option Uuid
  exact_scope : snapshotId.isNone ≠ researchAsOfTime.isNone

structure CitationVerification where
  status : CitationStatus
  citationId : Uuid
  warnings : List String
deriving DecidableEq

def supersededForScope (context : CitationContext) (scope : CitationScope) : Bool :=
  if context.supersededByDocumentVersionId = none then false
  else if scope.explicitDocumentVersionId = some context.documentVersion.id then false
  else if scope.snapshotId ≠ none ∧ context.versionInSnapshot = some true then false
  else if context.supersessionTimeUnknown then true
  else match scope.researchAsOfTime with
    | none => true
    | some asOf =>
        match context.supersededAt with
        | none => true
        | some superseded => !decide (asOf < superseded)

def BlobStorage.validBlob (storage : BlobStorage) (context : CitationContext) : Bool :=
  let version := context.documentVersion
  match storage.metadata version.storageUri, storage.get version.storageUri with
  | some metadata, some content =>
      decide (context.blobBytes = content) &&
      decide (context.blobChecksum = storage.digest content ∧
        storage.digest content = version.checksum ∧ version.checksum = metadata.checksum) &&
      decide (context.blobSize = content.length ∧ content.length = version.byteSize ∧
        version.byteSize = metadata.sizeBytes) &&
      decide (context.blobMimeType = version.mimeType ∧ version.mimeType = metadata.contentType)
  | _, _ => false

def locatorChecksumMatches (hash : PyJson.IdealHash) (citation : CitationAnchorDraft) : Bool :=
  match Checked.validated CitationFields.validate citation.1.toCitationFields >>=
      createCitation hash with
  | .ok rebuilt => rebuilt.1.locatorChecksum == citation.1.locatorChecksum
  | .error _ => false

def locatorExists (context : CitationContext) : Bool :=
  let citation := context.citation.1
  if citation.sectionId.any fun id => !context.availableSectionIds.contains id then false
  else match citation.locator.locatorType with
    | .pdfPageRange =>
        match citation.locator.startPage, citation.locator.endPage with
        | some first, some last =>
            (List.range (last + 1 - first).toNat).all fun k =>
              context.availablePageNumbers.any fun number => (number : Int) == first + k
        | _, _ => false
    | .htmlAnchorRange =>
        citation.sectionId.any fun id =>
          decide (context.sectionPaths.lookup id = citation.locator.htmlAnchor) &&
            citation.locator.htmlAnchor.any context.availableHtmlAnchors.contains
    | .jsonPointer =>
        citation.sectionId.any fun id =>
          decide (context.sectionPaths.lookup id = citation.locator.jsonPointer) &&
            citation.locator.jsonPointer.any context.availableJsonPointers.contains
    | .sectionRange => citation.sectionId.isSome
    | .textOffsetRange => true

/-- `_page_spans`: the pages in order, each with its bounds. -/
def pageSpans (context : CitationContext) : List ((Nat × Text) × Nat × Nat) :=
  laidOut Prod.snd 3 0 (context.pageTexts.insertionSort fun a b => a.1 ≤ b.1)

/-- `spans[number]` -/
def spanOf (context : CitationContext) (number : Int) : Option (Nat × Nat) :=
  ((pageSpans context).find? fun span => (span.1.1 : Int) = number).map Prod.snd

def rangeIsInsideLocator (context : CitationContext) (start stop : Int) : Bool :=
  let citation := context.citation.1
  match citation.locator.locatorType with
  | .pdfPageRange =>
      match citation.locator.startPage, citation.locator.endPage with
      | some first, some last =>
          match spanOf context first, spanOf context last with
          | some (locatorStart, _), some (_, locatorEnd) =>
              decide (locatorStart ≤ start ∧ start < stop ∧ stop ≤ locatorEnd)
          | _, _ => false
      | _, _ => false
  | .htmlAnchorRange | .jsonPointer | .sectionRange =>
      match citation.sectionId.bind fun id => context.sectionRanges.lookup id with
      | some (some sectionStart, some sectionEnd) =>
          decide (sectionStart ≤ start ∧ start < stop ∧ stop ≤ sectionEnd)
      | _ => false
  | .textOffsetRange => true

/-- The excerpt that a locator without offsets names on its pages. -/
def pageExcerpt (context : CitationContext) : Option Text :=
  let citation := context.citation.1
  match citation.locator.locatorType, citation.locator.startPage, citation.locator.endPage with
  | .pdfPageRange, some first, some last =>
      let claimed := ['\n', '\x0c', '\n'].intercalate
        ((List.range (last + 1 - first).toNat).map fun k =>
          ((context.pageTexts.find? fun page => (page.1 : Int) = first + k).map Prod.snd).getD [])
      some (if citation.excerpt <:+: claimed then citation.excerpt else [])
  | _, _, _ => none

def excerptMatches (hash : PyJson.IdealHash) (context : CitationContext) : Bool :=
  let citation := context.citation.1
  let excerpt :=
    match citation.locator.startOffset, citation.locator.endOffset with
    | some start, some stop =>
        if rangeIsInsideLocator context start stop then
          some (slice context.canonicalSourceText start stop)
        else none
    | _, _ => pageExcerpt context
  excerpt.any fun excerpt =>
    decide (excerpt = citation.excerpt) && hash.digest excerpt == citation.excerptChecksum &&
      context.chunkText.all fun chunk => decide (excerpt <:+: chunk)

/-- `CitationVerifier.verify` on what the repository has read. -/
def BlobStorage.verify (hash : PyJson.IdealHash) (storage : BlobStorage) (citationId : Uuid)
    (scope : CitationScope) (context : Option CitationContext) : CitationVerification :=
  let result (status : CitationStatus) (warning : String) : CitationVerification :=
    ⟨status, citationId, [warning]⟩
  match context with
  | none => result .sourceMissing "CITATION_SOURCE_NOT_FOUND"
  | some context =>
      let citation := context.citation.1
      let version := context.documentVersion
      if citation.documentVersionId ≠ version.id ∨ citation.documentChecksum ≠ version.checksum then
        result .staleReference "DOCUMENT_VERSION_MISMATCH"
      else if ¬ locatorChecksumMatches hash context.citation then
        result .invalid "CITATION_LOCATOR_CHECKSUM_MISMATCH"
      else if citation.parserVersion ≠ context.parserVersion ∨
          citation.sanitizerVersion ≠ context.sanitizerVersion then
        result .parseVersionMismatch "PARSE_GENERATION_MISMATCH"
      else if context.versionInSnapshot ≠ some true ∧
          ∃ snapshot ∈ scope.snapshotId, snapshot ∉ context.snapshotIds then
        result .staleReference "SNAPSHOT_MEMBERSHIP_MISMATCH"
      else if version.sourceVersionStatus = .withdrawn then
        result .staleReference "DOCUMENT_VERSION_WITHDRAWN"
      else if supersededForScope context scope then
        result .staleReference "DOCUMENT_VERSION_SUPERSEDED"
      else if scope.strictHistorical ∧ version.publishedAt = none then
        result .invalid "SOURCE_PUBLISHED_AT_UNKNOWN"
      else if ∃ asOf ∈ scope.researchAsOfTime, ∃ published ∈ version.publishedAt,
          asOf < published then
        result .futureData "SOURCE_PUBLISHED_AFTER_AS_OF"
      else if ¬ storage.validBlob context then
        result .sourceMissing "DOCUMENT_BLOB_MISMATCH"
      else if ¬ locatorExists context then
        result .invalid "CITATION_LOCATOR_NOT_FOUND"
      else if hash.digest context.canonicalSourceText ≠ citation.canonicalTextChecksum then
        result .invalid "CANONICAL_TEXT_CHECKSUM_MISMATCH"
      else if ¬ excerptMatches hash context then
        result .invalid "CITATION_EXCERPT_MISMATCH"
      else ⟨.valid, citationId, []⟩

/-- A check that is passed over. -/
lemma status_ite {p : Prop} [Decidable p] {found rest : CitationVerification}
    (hfound : found.status ≠ .valid) :
    (if p then found else rest).status = .valid ↔ ¬ p ∧ rest.status = .valid := by
  split_ifs with hp <;> simp [hp, hfound]

/-- **A citation is valid exactly when nothing is found wrong with it.** -/
lemma BlobStorage.verify_valid {hash : PyJson.IdealHash} {storage : BlobStorage} {citationId : Uuid}
    {scope : CitationScope} {context : CitationContext} :
    (storage.verify hash citationId scope (some context)).status = .valid ↔
      context.citation.1.documentVersionId = context.documentVersion.id ∧
      context.citation.1.documentChecksum = context.documentVersion.checksum ∧
      locatorChecksumMatches hash context.citation = true ∧
      context.citation.1.parserVersion = context.parserVersion ∧
      context.citation.1.sanitizerVersion = context.sanitizerVersion ∧
      (context.versionInSnapshot ≠ some true →
        ∀ snapshot ∈ scope.snapshotId, snapshot ∈ context.snapshotIds) ∧
      context.documentVersion.sourceVersionStatus ≠ .withdrawn ∧
      supersededForScope context scope = false ∧
      (scope.strictHistorical = true → context.documentVersion.publishedAt ≠ none) ∧
      (∀ asOf ∈ scope.researchAsOfTime, ∀ published ∈ context.documentVersion.publishedAt,
        ¬ asOf < published) ∧
      storage.validBlob context = true ∧ locatorExists context = true ∧
      hash.digest context.canonicalSourceText = context.citation.1.canonicalTextChecksum ∧
      excerptMatches hash context = true := by
  unfold BlobStorage.verify
  dsimp only
  iterate 12 rw [status_ite (by simp)]
  simp only [not_or, ne_eq, not_not, not_and, not_exists, Bool.not_eq_true, Bool.not_eq_false,
    and_true, and_assoc]

end StockResearch.Documents
