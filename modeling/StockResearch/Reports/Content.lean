import StockResearch.Reports.BindingGraph
import StockResearch.ResearchAgent.Packages

/-!
# Reports as data

What the release gate, the revision and the reflection read of a report.

**Fields and contracts.**  `model_copy` changes the fields of a frozen value without checking them
again, and its results are edited further before a value is constructed.  `ContentFields` is such a
value, `StructuredReportContent` one that its contract admits; `ContentFields.checked` constructs
the second from the first, and `StructuredReportContent.fields` goes back.

**Libraries.**  Digests, normalization, case folding, `uuid5` and the reading of identifiers are
those of `ReportLibrary`.
-/

namespace StockResearch.Reports

open PyText PyJson PyTime Checked ResearchAgent

/-- What the report code takes from the language's libraries. -/
structure ReportLibrary where
  /-- `hashlib.sha256(text.encode("utf-8")).hexdigest()` -/
  hash : IdealHash
  /-- `unicodedata.normalize("NFKC", text)` -/
  nfkc : Text → Text
  /-- `text.casefold()`, which folds one character after the other. -/
  foldChar : Char → Text
  /-- `uuid5(NAMESPACE_URL, name)` -/
  uuid5 : Text → Uuid
  /-- `UUID(text)` -/
  readUuid : Text → Option Uuid
  nfkc_ascii : ∀ t, (∀ c ∈ t, c.toNat < 128) → nfkc t = t
  fold_ascii : ∀ c, c.toNat < 128 → foldChar c = [c.toLower]
  read_chars : ∀ u : Uuid, readUuid u.chars = some u
  read_plain : ∀ t u, readUuid t = some u → '[' ∉ t

/-- A library that knows the ASCII characters, and the usual texts of identifiers. -/
def asciiLibrary : ReportLibrary where
  hash := default
  nfkc := id
  foldChar c := [c.toLower]
  uuid5 _ := 0
  readUuid := Uuid.ofChars?
  nfkc_ascii _ _ := rfl
  fold_ascii _ _ := rfl
  read_chars := Uuid.ofChars?_chars
  read_plain := by
    intro t u h hbracket
    rw [← Uuid.chars_of_ofChars? h] at hbracket
    have hdigit : ∀ i : Fin 16, '[' ≠ hexDigit i := by decide
    rcases Uuid.mem_chars hbracket with hc | ⟨i, hc⟩
    · exact absurd hc (by decide)
    · exact hdigit i hc

/-- `text.casefold()` -/
def ReportLibrary.casefold (lib : ReportLibrary) (t : Text) : Text := t.flatMap lib.foldChar

/-! ## Vocabularies -/

/-- `section.value` -/
def ReportSection.value : ReportSection → String
  | .researchScope => "RESEARCH_SCOPE"
  | .securityIdentity => "SECURITY_IDENTITY"
  | .dataAvailability => "DATA_AVAILABILITY"
  | .financialHealth => "FINANCIAL_HEALTH"
  | .valuationSnapshot => "VALUATION_SNAPSHOT"
  | .documentEvidence => "DOCUMENT_EVIDENCE"
  | .catalystEvidence => "CATALYST_EVIDENCE"
  | .riskEvidence => "RISK_EVIDENCE"
  | .corporateActions => "CORPORATE_ACTIONS"
  | .dataQuality => "DATA_QUALITY"
  | .conflicts => "CONFLICTS"
  | .unsupportedClaims => "UNSUPPORTED_CLAIMS"
  | .limitations => "LIMITATIONS"
  | .claimIndex => "CLAIM_INDEX"
  | .evidenceAppendix => "EVIDENCE_APPENDIX"
  | .citationAppendix => "CITATION_APPENDIX"

/-- `locale.value` -/
def ReportLocale.value : ReportLocale → String
  | .zhCN => "zh-CN"
  | .enUS => "en-US"

/-- `status.value` -/
def ReportSectionStatus.value : ReportSectionStatus → String
  | .complete => "COMPLETE"
  | .partly => "PARTIAL"
  | .blocked => "BLOCKED"
  | .noEvidence => "NO_EVIDENCE"
  | .notRequested => "NOT_REQUESTED"

/-- `block_type.value` -/
def ReportBlockType.value : ReportBlockType → String
  | .heading => "HEADING"
  | .paragraph => "PARAGRAPH"
  | .bulletList => "BULLET_LIST"
  | .metricTable => "METRIC_TABLE"
  | .evidenceTable => "EVIDENCE_TABLE"
  | .warning => "WARNING"
  | .limitation => "LIMITATION"
  | .conflict => "CONFLICT"
  | .claimIndex => "CLAIM_INDEX"
  | .citationList => "CITATION_LIST"

/-- `status.value` -/
def ReportBlockStatus.value : ReportBlockStatus → String
  | .complete => "COMPLETE"
  | .partly => "PARTIAL"
  | .blocked => "BLOCKED"
  | .noEvidence => "NO_EVIDENCE"
  | .notRequested => "NOT_REQUESTED"

inductive ReportType where
  | dataQualityReport | evidenceSummary | financialResearchDraft | fullResearchDraft
deriving DecidableEq, Repr

inductive ResearchReportStatus where
  | draft | reflected | revised | publishable | partly | blocked | failed
deriving DecidableEq, Repr

/-! ## Contents -/

/-- The fields of a `StructuredReportBlock`. -/
structure BlockFields where
  blockKey : Text
  blockIndex : Nat
  blockType : ReportBlockType
  status : ReportBlockStatus
  text : Option Text
  payload : Payload

/-- The fields of a `StructuredReportSection`. -/
structure SectionFields where
  reportSection : ReportSection
  sectionIndex : Nat
  title : Text
  status : ReportSectionStatus
  blocks : List BlockFields

/-- The fields of a `StructuredReportContent`. -/
structure ContentFields where
  schemaVersion : Text
  locale : ReportLocale
  sections : List SectionFields

/-- The blocks of a content, section by section. -/
def ContentFields.blocks (content : ContentFields) : List BlockFields :=
  content.sections.flatMap (·.blocks)

def StructuredReportBlock.fields (b : StructuredReportBlock) : BlockFields :=
  ⟨b.blockKey, b.blockIndex, b.blockType, b.status, b.text, b.payload⟩

def StructuredReportSection.fields (s : StructuredReportSection) : SectionFields :=
  ⟨s.reportSection, s.sectionIndex, s.title, s.status, s.blocks.map (·.fields)⟩

def StructuredReportContent.fields (c : StructuredReportContent) : ContentFields :=
  ⟨c.schemaVersion, c.locale, c.sections.map (·.fields)⟩

/-- `StructuredReportBlock(…)` -/
def BlockFields.checked (b : BlockFields) : Except String StructuredReportBlock :=
  if h : isBlockKey b.blockKey = true ∧ b.blockIndex ≤ 299 ∧ ∀ t ∈ b.text, t.length ≤ 10000 then
    .ok ⟨b.blockKey, b.blockIndex, b.blockType, b.status, b.text, b.payload, h.1, h.2.1, h.2.2⟩
  else .error "ValidationError"

/-- `StructuredReportSection(…)` -/
def SectionFields.checked (s : SectionFields) : Except String StructuredReportSection := do
  let blocks ← s.blocks.mapM BlockFields.checked
  if h : s.sectionIndex ≤ 15 ∧ (1 ≤ s.title.length ∧ s.title.length ≤ 160) ∧
      blocks.length ≤ 300 ∧ blocks.map (·.blockIndex) = List.range blocks.length ∧
      (blocks.map (·.blockKey)).Nodup then
    .ok ⟨s.reportSection, s.sectionIndex, s.title, s.status, blocks, h.1, h.2.1, h.2.2.1,
      h.2.2.2.1, h.2.2.2.2⟩
  else .error "ValidationError"

/-- `StructuredReportContent(…)` -/
def ContentFields.checked (c : ContentFields) : Except String StructuredReportContent := do
  let sections ← c.sections.mapM SectionFields.checked
  if h : isSchemaVersion c.schemaVersion = true ∧
      (1 ≤ sections.length ∧ sections.length ≤ 16) ∧
      sections.map (·.sectionIndex) = List.range sections.length ∧
      (sections.map (·.reportSection)).Nodup ∧ (sections.map (·.blocks.length)).sum ≤ 300 then
    .ok ⟨c.schemaVersion, c.locale, sections, h.1, h.2.1, h.2.2.1, h.2.2.2.1, h.2.2.2.2⟩
  else .error "ValidationError"

/-! ### Going back -/

lemma BlockFields.checked_ok {b : BlockFields} {block : StructuredReportBlock} :
    b.checked = .ok block ↔ block.fields = b := by
  unfold checked
  constructor
  · intro h
    split at h
    · cases h
      rfl
    · cases h
  · rintro rfl
    exact dif_pos ⟨block.key_ok, block.index_le, block.text_le⟩

/-- A loop of constructors returns the values whose fields it ran over. -/
lemma mapM_checked_ok {α β : Type} {f : α → Except String β} {fields : β → α}
    (hf : ∀ a b, f a = .ok b ↔ fields b = a) {as : List α} {bs : List β} :
    as.mapM f = .ok bs ↔ bs.map fields = as := by
  constructor
  · intro h
    have hback := map_eq_of_forall₂ (forall₂_mapM (R := fun a b => fields b = a)
      (fun a b hab => (hf a b).mp hab) h) (p := id) (q := fields) fun a b hab => hab.symm
    rw [← hback, List.map_id]
  · rintro rfl
    refine mapM_of_forall₂ (List.forall₂_map_left_iff.mpr ?_)
    exact List.forall₂_same.mpr fun b _ => (hf _ b).mpr rfl

lemma SectionFields.checked_ok {s : SectionFields} {result : StructuredReportSection} :
    s.checked = .ok result ↔ result.fields = s := by
  unfold checked
  rw [bind_ok]
  simp only [mapM_checked_ok fun b block => BlockFields.checked_ok]
  constructor
  · rintro ⟨blocks, hblocks, h⟩
    split at h
    · cases h
      simp [StructuredReportSection.fields, hblocks]
    · cases h
  · rintro rfl
    refine ⟨result.blocks, rfl, ?_⟩
    exact dif_pos ⟨result.index_le, result.title_ok, result.blocks_le, result.contiguous,
      result.uniqueKeys⟩

lemma ContentFields.checked_ok {c : ContentFields} {content : StructuredReportContent} :
    c.checked = .ok content ↔ content.fields = c := by
  unfold checked
  rw [bind_ok]
  simp only [mapM_checked_ok fun s result => SectionFields.checked_ok]
  constructor
  · rintro ⟨sections, hsections, h⟩
    split at h
    · cases h
      simp [StructuredReportContent.fields, hsections]
    · cases h
  · rintro rfl
    refine ⟨content.sections, rfl, ?_⟩
    exact dif_pos ⟨content.schema_ok, content.sections_ok, content.contiguous,
      content.uniqueSections, content.bounded⟩

/-! ## Records and their bindings -/

/-- A `ResearchReportRecord` as the gate and the revision read it. -/
structure ResearchReport extends ResearchReportRecord where
  reportGenerationRunId : Uuid
  reportVersion : Nat
  previousReportId : Option Uuid
  reportType : ReportType
  reportLocale : ReportLocale
  status : ResearchReportStatus
  securityId : Uuid
  snapshotId : Uuid
  researchAsOfTime : Instant
  researchPackageId : Uuid
  inputManifestChecksum : String
  packageChecksum : String
  markdownContent : Text
  structuredChecksum : String
  markdownChecksum : String
  contentChecksum : String
  claimSetChecksum : String
  evidenceSetChecksum : String
  linkSetChecksum : String
  citationSetChecksum : String
  rendererVersion : Text
  templateName : Text
  templateVersion : Text
  createdAt : Instant

inductive VisibleReferenceKind where
  | evidence | metric
deriving DecidableEq, Repr

/-- A `ReportClaimBindingWrite`. -/
structure ReportClaimBinding extends ReportClaimBindingWrite where
  sentenceIndex : Option Nat
  itemOrRowKey : Option Text
  createdAt : Instant

/-- A `ReportEvidenceBindingWrite`. -/
structure ReportEvidenceBinding extends ReportEvidenceBindingWrite where
  claimEvidenceLinkId : Uuid
  role : EvidenceRole
  visibleReferenceKind : VisibleReferenceKind
  visibleReference : Text
  itemOrRowKey : Text
  citationId : Option Uuid
  sourceRecordId : Option Uuid
  sourceChecksum : Option String
  createdAt : Instant

/-- A `ReportCitationBindingWrite`. -/
structure ReportCitationBinding extends ReportCitationBindingWrite where
  documentVersionId : Uuid
  visibleReference : Text
  locatorSummary : Text
  renderedExcerpt : Text
  renderedExcerptChecksum : String
  createdAt : Instant

/-- A report with its bindings. -/
structure AggregateFields where
  report : ResearchReport
  claimBindings : List ReportClaimBinding
  evidenceBindings : List ReportEvidenceBinding
  citationBindings : List ReportCitationBinding

/-- What the contract of an aggregate checks. -/
def AggregateFields.accepted (uuid5 : Text → Uuid) (a : AggregateFields) : Except String Unit := do
  check (¬ (a.claimBindings.length ≤ 5000 ∧ a.evidenceBindings.length ≤ 5000 ∧
    a.citationBindings.length ≤ 1000)) "ValidationError"
  requireCompleteBindingGraph uuid5 a.report.toResearchReportRecord
    (a.claimBindings.map (·.toReportClaimBindingWrite))
    (a.evidenceBindings.map (·.toReportEvidenceBindingWrite))
    (a.citationBindings.map (·.toReportCitationBindingWrite))

/-- A `ResearchReportAggregate`. -/
structure ResearchReportAggregate (uuid5 : Text → Uuid) extends AggregateFields where
  valid : toAggregateFields.accepted uuid5 = .ok ()

/-- `ResearchReportAggregate(…)` -/
def AggregateFields.checked (uuid5 : Text → Uuid) (a : AggregateFields) :
    Except String (ResearchReportAggregate uuid5) :=
  (validated (AggregateFields.accepted uuid5) a).map fun v => ⟨v.1, v.2⟩

lemma AggregateFields.checked_ok {uuid5 : Text → Uuid} {a : AggregateFields}
    {aggregate : ResearchReportAggregate uuid5} :
    a.checked uuid5 = .ok aggregate ↔ aggregate.toAggregateFields = a := by
  unfold checked
  rw [map_ok]
  constructor
  · rintro ⟨v, hv, rfl⟩
    exact validated_ok.mp hv
  · rintro rfl
    exact ⟨⟨aggregate.toAggregateFields, aggregate.valid⟩, validated_ok.mpr rfl, rfl⟩

end StockResearch.Reports
