import StockResearch.Core.Checked
import StockResearch.Core.Regex
import StockResearch.Core.Unicode
import StockResearch.Core.Uuid

/-!
# The contracts of parsed documents, chunks and citations

The models of `domain/documents/schemas.py`.  The fields of a model are a structure, what its
constructor validates is a computation that raises, and the model itself is the fields that pass.

The limits are declared field by field: a chunk has up to 1600 characters, its normal form too, an
excerpt up to 1000, a section path up to 512 and an HTML anchor up to 256.

Checksums are the texts of digests, which always have the form that the models ask for.
-/

namespace StockResearch.Documents

open PyText

/-! ## Vocabularies -/

inductive DocumentLanguage where
  | zhCn | enUs | mixed | unknown
deriving DecidableEq, Repr

inductive ParseStatus where
  | running | pass | partly | blocked | fail
deriving DecidableEq, Repr

inductive PageStatus where
  | pass | blank | noText | partly
deriving DecidableEq, Repr

inductive LocatorType where
  | pdfPageRange | htmlAnchorRange | textOffsetRange | jsonPointer | sectionRange
deriving DecidableEq, Repr

inductive ContentKind where
  | text | heading | table | json
deriving DecidableEq, Repr

inductive CitationStatus where
  | valid | invalid | staleReference | futureData | sourceMissing | parseVersionMismatch
deriving DecidableEq, Repr

inductive SourceVersionStatus where
  | active | withdrawn | unknown
deriving DecidableEq, Repr

inductive TrustLevel where
  | officialRegulatory | officialCompany | approvedProvider | testFixture | unknown
deriving DecidableEq, Repr

inductive SafetyMarker where
  | promptInjectionCandidate | systemPromptImitation | credentialRequest | toolInvocationText
  | exfiltrationUrl
deriving DecidableEq, Repr

def LocatorType.value : LocatorType → String
  | .pdfPageRange => "PDF_PAGE_RANGE"
  | .htmlAnchorRange => "HTML_ANCHOR_RANGE"
  | .textOffsetRange => "TEXT_OFFSET_RANGE"
  | .jsonPointer => "JSON_POINTER"
  | .sectionRange => "SECTION_RANGE"

def SafetyMarker.value : SafetyMarker → String
  | .promptInjectionCandidate => "PROMPT_INJECTION_CANDIDATE"
  | .systemPromptImitation => "SYSTEM_PROMPT_IMITATION"
  | .credentialRequest => "CREDENTIAL_REQUEST"
  | .toolInvocationText => "TOOL_INVOCATION_TEXT"
  | .exfiltrationUrl => "EXFILTRATION_URL"

/-- A lower-case letter. -/
def isLower (c : Char) : Bool := 'a' ≤ c && c ≤ 'z'

def versionPattern : Regex :=
  .inTurn (.char isLower) [
    .rep 0 (some 31) (.char fun c => isLower c || c.isDigit || c == '_' || c == '-'),
    .text "-v", .char (fun c => '1' ≤ c && c ≤ '9'), .rep 0 none (.char Char.isDigit)]

/-- `_version` -/
def isVersion (value : String) : Bool := versionPattern.fullmatch value.toList

/-! ## Locators -/

/-- Where a chunk or a citation stands in its document. -/
structure Locator where
  locatorType : LocatorType
  startPage : Option Int
  endPage : Option Int
  htmlAnchor : Option String
  jsonPointer : Option String
  startOffset : Option Int
  endOffset : Option Int
deriving DecidableEq, Repr

def validateLocatorRanges (locatorType : LocatorType)
    (startPage endPage startOffset endOffset : Option Int) : Except String Unit := do
  Checked.check (startPage.isNone ≠ endPage.isNone) "page range requires both bounds"
  Checked.check (∃ s ∈ startPage, ∃ e ∈ endPage, e < s) "page range is reversed"
  Checked.check (startOffset.isNone ≠ endOffset.isNone) "offset range requires both bounds"
  Checked.check (∃ s ∈ startOffset, ∃ e ∈ endOffset, e ≤ s) "offset range is empty or reversed"
  Checked.check (locatorType = .pdfPageRange ∧ startPage.isNone)
    "PDF locator requires a page range"
  Checked.check (locatorType = .textOffsetRange ∧ startOffset.isNone)
    "text locator requires an offset range"

/-- The limits of the single fields of a locator. -/
def Locator.validateLimits (l : Locator) : Except String Unit := do
  Checked.check (∃ p ∈ l.startPage, p < 1) "start_page"
  Checked.check (∃ p ∈ l.endPage, p < 1) "end_page"
  Checked.check (∃ a ∈ l.htmlAnchor, 256 < a.length) "html_anchor"
  Checked.check (∃ p ∈ l.jsonPointer, 1000 < p.length) "json_pointer"
  Checked.check (∃ n ∈ l.startOffset, n < 0) "start_offset"
  Checked.check (∃ n ∈ l.endOffset, n < 0) "end_offset"

/-- `validate_ranges`, with the texts of the model that it belongs to. -/
def Locator.validateRanges (l : Locator) (anchorMissing pointerMissing : String) :
    Except String Unit := do
  validateLocatorRanges l.locatorType l.startPage l.endPage l.startOffset l.endOffset
  Checked.check (l.locatorType = .htmlAnchorRange ∧ l.htmlAnchor.isNone) anchorMissing
  Checked.check (l.locatorType = .jsonPointer ∧ l.jsonPointer.isNone) pointerMissing

lemma validateLocatorRanges_ok {locatorType : LocatorType}
    {startPage endPage startOffset endOffset : Option Int} :
    validateLocatorRanges locatorType startPage endPage startOffset endOffset = .ok () ↔
      startPage.isNone = endPage.isNone ∧ (∀ s ∈ startPage, ∀ e ∈ endPage, s ≤ e) ∧
      startOffset.isNone = endOffset.isNone ∧ (∀ s ∈ startOffset, ∀ e ∈ endOffset, s < e) ∧
      (locatorType = .pdfPageRange → startPage ≠ none) ∧
      (locatorType = .textOffsetRange → startOffset ≠ none) := by
  simp [validateLocatorRanges, Checked.check_bind_ok, Checked.check_ok]

lemma Locator.validateLimits_ok {l : Locator} :
    l.validateLimits = .ok () ↔ (∀ n ∈ l.startPage, 1 ≤ n) ∧ (∀ n ∈ l.endPage, 1 ≤ n) ∧
      (∀ a ∈ l.htmlAnchor, a.length ≤ 256) ∧ (∀ p ∈ l.jsonPointer, p.length ≤ 1000) ∧
      (∀ n ∈ l.startOffset, 0 ≤ n) ∧ ∀ n ∈ l.endOffset, 0 ≤ n := by
  simp [Locator.validateLimits, Checked.check_bind_ok, Checked.check_ok]

lemma Locator.validateRanges_ok {l : Locator} {anchorMissing pointerMissing : String} :
    l.validateRanges anchorMissing pointerMissing = .ok () ↔
      validateLocatorRanges l.locatorType l.startPage l.endPage l.startOffset l.endOffset = .ok () ∧
      (l.locatorType = .htmlAnchorRange → l.htmlAnchor ≠ none) ∧
      (l.locatorType = .jsonPointer → l.jsonPointer ≠ none) := by
  simp [Locator.validateRanges, Checked.unit_bind_ok, Checked.check_ok]

/-! ## Parsed documents -/

structure PageFields where
  pageNumber : Nat
  text : Text
  textChecksum : String
  characterCount : Nat
  status : PageStatus
  warnings : List String
deriving DecidableEq

/-- What `ParsedPage` validates. -/
def PageFields.validate (f : PageFields) : Except String Unit := do
  Checked.check (f.pageNumber < 1 ∨ 500 < f.pageNumber) "page_number"
  Checked.check (100000 < f.text.length) "text"
  Checked.check (100000 < f.characterCount) "character_count"
  Checked.check (f.characterCount ≠ f.text.length) "character_count must match text length"

abbrev ParsedPage := { f : PageFields // f.validate = .ok () }

structure SectionFields where
  sectionPath : String
  parentSectionPath : Option String
  level : Nat
  title : Text
  locatorType : LocatorType
  startPage : Option Int
  endPage : Option Int
  startOffset : Option Int
  endOffset : Option Int
  textChecksum : String
  contentKind : ContentKind
deriving DecidableEq

/-- What `ParsedSection` validates. -/
def SectionFields.validate (f : SectionFields) : Except String Unit := do
  Checked.check (f.sectionPath.length < 1 ∨ 512 < f.sectionPath.length) "section_path"
  Checked.check (∃ p ∈ f.parentSectionPath, 512 < p.length) "parent_section_path"
  Checked.check (f.level < 1 ∨ 64 < f.level) "level"
  Checked.check (f.title.length < 1 ∨ 1000 < f.title.length) "title"
  Checked.check (∃ p ∈ f.startPage, p < 1) "start_page"
  Checked.check (∃ p ∈ f.endPage, p < 1) "end_page"
  Checked.check (∃ n ∈ f.startOffset, n < 0) "start_offset"
  Checked.check (∃ n ∈ f.endOffset, n < 0) "end_offset"
  validateLocatorRanges f.locatorType f.startPage f.endPage f.startOffset f.endOffset

abbrev ParsedSection := { f : SectionFields // f.validate = .ok () }

structure ParsedDocument where
  canonicalText : Text
  canonicalTextChecksum : String
  pages : List ParsedPage
  sections : List ParsedSection
  status : ParseStatus
  warnings : List String
  safetyMarkers : List String
  parserMetadata : List (String × String)
  text_ok : canonicalText.length ≤ 5000000

/-! ## Chunks -/

structure ChunkConfig where
  chunkVersion : String
  targetCharacters : Nat
  maximumCharacters : Nat
  minimumCharacters : Nat
  overlapCharacters : Nat
  version_ok : isVersion chunkVersion = true
  target_ok : 120 ≤ targetCharacters ∧ targetCharacters ≤ 1600
  maximum_ok : 120 ≤ maximumCharacters ∧ maximumCharacters ≤ 1600
  minimum_ok : 1 ≤ minimumCharacters ∧ minimumCharacters ≤ 1600
  overlap_ok : overlapCharacters ≤ 200
  minimum_le : minimumCharacters ≤ targetCharacters
  target_le : targetCharacters ≤ maximumCharacters
  overlap_le : overlapCharacters ≤ targetCharacters / 5

/-- `ChunkConfig()` -/
def ChunkConfig.default : ChunkConfig where
  chunkVersion := "chunk-v1"
  targetCharacters := 1000
  maximumCharacters := 1600
  minimumCharacters := 120
  overlapCharacters := 200
  version_ok := by decide +kernel
  target_ok := by decide
  maximum_ok := by decide
  minimum_ok := by decide
  overlap_ok := by decide
  minimum_le := by decide
  target_le := by decide
  overlap_le := by decide

structure ChunkFields where
  chunkVersion : String
  chunkIndex : Nat
  text : Text
  normalizedText : Text
  language : DocumentLanguage
  contentKind : ContentKind
  sectionPath : Option String
  locator : Locator
  tokenCount : Nat
  checksum : String
  warnings : List String
deriving DecidableEq

/-- What `DocumentChunkDraft` validates. -/
def ChunkFields.validate (f : ChunkFields) : Except String Unit := do
  Checked.check (isVersion f.chunkVersion = false)
    "version must be a stable lowercase name-vN token"
  Checked.check (f.text.length < 1 ∨ 1600 < f.text.length) "text"
  Checked.check (f.normalizedText.length < 1 ∨ 1600 < f.normalizedText.length) "normalized_text"
  Checked.check (∃ p ∈ f.sectionPath, 512 < p.length) "section_path"
  f.locator.validateLimits
  f.locator.validateRanges "HTML chunk locator requires an anchor"
    "JSON chunk locator requires a pointer"

abbrev DocumentChunkDraft := { f : ChunkFields // f.validate = .ok () }

lemma ChunkFields.validate_ok {f : ChunkFields} :
    f.validate = .ok () ↔ isVersion f.chunkVersion = true ∧
      (1 ≤ f.text.length ∧ f.text.length ≤ 1600) ∧
      (1 ≤ f.normalizedText.length ∧ f.normalizedText.length ≤ 1600) ∧
      (∀ p ∈ f.sectionPath, p.length ≤ 512) ∧ f.locator.validateLimits = .ok () ∧
      f.locator.validateRanges "HTML chunk locator requires an anchor"
        "JSON chunk locator requires a pointer" = .ok () := by
  simp [ChunkFields.validate, Checked.unit_bind_ok, Checked.check_ok, not_or,
    Nat.one_le_iff_ne_zero]

/-! ## Citations -/

/-- The fields of `CreateCitationRequest`. -/
structure CitationFields where
  documentVersionId : Uuid
  parseRunId : Uuid
  pageId : Option Uuid
  sectionId : Option Uuid
  chunkId : Option Uuid
  locator : Locator
  excerpt : Text
  excerptChecksum : String
  canonicalTextChecksum : String
  documentChecksum : String
  citationVersion : String
  parserVersion : String
  sanitizerVersion : String
deriving DecidableEq

/-- What `CreateCitationRequest` validates. -/
def CitationFields.validate (f : CitationFields) : Except String Unit := do
  f.locator.validateLimits
  Checked.check (f.excerpt.length < 1 ∨ 1000 < f.excerpt.length) "excerpt"
  Checked.check (isVersion f.citationVersion = false ∨ isVersion f.parserVersion = false ∨
    isVersion f.sanitizerVersion = false) "version must be a stable lowercase name-vN token"

abbrev CreateCitationRequest := { f : CitationFields // f.validate = .ok () }

lemma CitationFields.validate_ok {f : CitationFields} :
    f.validate = .ok () ↔ f.locator.validateLimits = .ok () ∧
      (1 ≤ f.excerpt.length ∧ f.excerpt.length ≤ 1000) ∧ isVersion f.citationVersion = true ∧
      isVersion f.parserVersion = true ∧ isVersion f.sanitizerVersion = true := by
  simp [CitationFields.validate, Checked.unit_bind_ok, Checked.check_ok, not_or,
    Nat.one_le_iff_ne_zero]

/-- The fields of `CitationAnchorDraft`. -/
structure AnchorFields extends CitationFields where
  locatorChecksum : String
deriving DecidableEq

/-- What `CitationAnchorDraft` validates. -/
def AnchorFields.validate (f : AnchorFields) : Except String Unit := do
  f.toCitationFields.validate
  f.locator.validateRanges "HTML locator requires an anchor" "JSON locator requires a pointer"

abbrev CitationAnchorDraft := { f : AnchorFields // f.validate = .ok () }

end StockResearch.Documents
