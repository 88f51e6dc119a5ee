import StockResearch.Core.Checked
import StockResearch.Core.Dict
import StockResearch.Core.Json
import StockResearch.Core.Unicode
import StockResearch.Core.Uuid

/-!
# The binding graph of a report

A structured report is a list of sections with blocks, and its aggregate binds blocks to claims,
claims to evidence and evidence to citations.  `require_complete_binding_graph` is meant to let only
complete graphs through.

**Blocks.**  The identifier of a block is derived from the report and the block's key.  Keys are
unique inside a section only, so two sections can hold blocks with one identifier, of which the
validator sees the last.

**The early exit.**  An aggregate without claim bindings is returned before anything is checked.

These are the only two ways past the validator: `completeGraph_iff`.
-/

namespace StockResearch.Reports

open PyText Checked

/-! ## Structured reports -/

inductive ReportSection where
  | researchScope | securityIdentity | dataAvailability | financialHealth | valuationSnapshot
  | documentEvidence | catalystEvidence | riskEvidence | corporateActions | dataQuality
  | conflicts | unsupportedClaims | limitations | claimIndex | evidenceAppendix | citationAppendix
deriving DecidableEq, Repr

inductive ReportLocale where
  | zhCN | enUS
deriving DecidableEq, Repr

inductive ReportSectionStatus where
  | complete | partly | blocked | noEvidence | notRequested
deriving DecidableEq, Repr

inductive ReportBlockType where
  | heading | paragraph | bulletList | metricTable | evidenceTable | warning | limitation | conflict
  | claimIndex | citationList
deriving DecidableEq, Repr

inductive ReportBlockStatus where
  | complete | partly | blocked | noEvidence | notRequested
deriving DecidableEq, Repr

/-- `^[a-z][a-z0-9_.-]{2,127}$` -/
def isBlockKey : Text → Bool
  | [] => false
  | c :: rest => c.isLower && 2 ≤ rest.length && rest.length ≤ 127 &&
      rest.all fun d => d.isLower || d.isDigit || d == '_' || d == '.' || d == '-'

/-- `^research-report-v[1-9][0-9]*$` -/
def isSchemaVersion (t : Text) : Bool :=
  "research-report-v".toList.isPrefixOf t &&
    match t.drop "research-report-v".length with
    | [] => false
    | c :: rest => c.isDigit && c != '0' && rest.all Char.isDigit

/-- `StructuredReportBlock` -/
structure StructuredReportBlock where
  blockKey : Text
  blockIndex : Nat
  blockType : ReportBlockType
  status : ReportBlockStatus
  text : Option Text
  payload : List (String × PyJson.Value)
  key_ok : isBlockKey blockKey = true
  index_le : blockIndex ≤ 299
  text_le : ∀ t ∈ text, t.length ≤ 10000

/-- `StructuredReportSection`, with `require_contiguous_block_indices`. -/
structure StructuredReportSection where
  reportSection : ReportSection
  sectionIndex : Nat
  title : Text
  status : ReportSectionStatus
  blocks : List StructuredReportBlock
  index_le : sectionIndex ≤ 15
  title_ok : 1 ≤ title.length ∧ title.length ≤ 160
  blocks_le : blocks.length ≤ 300
  contiguous : blocks.map (·.blockIndex) = List.range blocks.length
  uniqueKeys : (blocks.map (·.blockKey)).Nodup

/-- `StructuredReportContent`, with `require_bounded_contiguous_sections`. -/
structure StructuredReportContent where
  schemaVersion : Text
  locale : ReportLocale
  sections : List StructuredReportSection
  schema_ok : isSchemaVersion schemaVersion = true
  sections_ok : 1 ≤ sections.length ∧ sections.length ≤ 16
  contiguous : sections.map (·.sectionIndex) = List.range sections.length
  uniqueSections : (sections.map (·.reportSection)).Nodup
  bounded : (sections.map (·.blocks.length)).sum ≤ 300

/-- The part of a `ResearchReportRecord` that its bindings refer to. -/
structure ResearchReportRecord where
  id : Uuid
  structuredContent : StructuredReportContent

/-- The blocks of a report, section by section. -/
def ResearchReportRecord.blocks (report : ResearchReportRecord) : List StructuredReportBlock :=
  report.structuredContent.sections.flatMap (·.blocks)

/-! ## Bindings -/

inductive ReportClaimBindingRole where
  | primary | supporting | contradicting | limitation
deriving DecidableEq, Repr

structure ReportClaimBindingWrite where
  id : Uuid
  reportBlockId : Uuid
  claimId : Uuid
  role : ReportClaimBindingRole
deriving DecidableEq

structure ReportEvidenceBindingWrite where
  id : Uuid
  reportBlockId : Uuid
  reportClaimBindingId : Uuid
  evidenceId : Uuid
deriving DecidableEq

structure ReportCitationBindingWrite where
  id : Uuid
  reportEvidenceBindingId : Uuid
  citationId : Uuid
deriving DecidableEq

def StructuredReportBlock.isFactual (b : StructuredReportBlock) : Bool :=
  b.blockType == .metricTable || b.blockType == .conflict ||
    ["claim_id", "statement_code", "support_status"].any fun key =>
      b.payload.any fun field => field.1 == key

section Graph

-- `uuid5(NAMESPACE_URL, name)`
variable (uuid5 : Text → Uuid)

/-- `f"{report.id}:block:{block.block_key}"` -/
def blockName (report : ResearchReportRecord) (b : StructuredReportBlock) : Text :=
  report.id.chars ++ ":block:".toList ++ b.blockKey

def blockId (report : ResearchReportRecord) (b : StructuredReportBlock) : Uuid :=
  uuid5 (blockName report b)

/-- `factual_ids`: of blocks with one identifier the last is looked at. -/
def factualIds (report : ResearchReportRecord) : List Uuid :=
  ((Dict.valuesBy (blockId uuid5 report) report.blocks).filter (·.isFactual)).map
    (blockId uuid5 report)

def requireCompleteBindingGraph (report : ResearchReportRecord)
    (claimBindings : List ReportClaimBindingWrite)
    (evidenceBindings : List ReportEvidenceBindingWrite)
    (citationBindings : List ReportCitationBindingWrite) : Except String Unit :=
  if claimBindings = [] then .ok ()
  else do
    check (¬ (claimBindings.map (·.id)).Nodup) "report claim binding ids must be unique"
    check (∃ c ∈ claimBindings, c.reportBlockId ∉ report.blocks.map (blockId uuid5 report))
      "claim binding references an unknown report block"
    check (¬ (factualIds uuid5 report ⊆ claimBindings.map (·.reportBlockId) ∧
        claimBindings.map (·.reportBlockId) ⊆ factualIds uuid5 report))
      "every factual report block requires an exact claim binding"
    check (¬ (evidenceBindings.map (·.id)).Nodup) "report evidence binding ids must be unique"
    check (∃ e ∈ evidenceBindings, ∀ c ∈ claimBindings,
        ¬ (c.id = e.reportClaimBindingId ∧ c.reportBlockId = e.reportBlockId))
      "evidence binding claim/block context mismatch"
    check (∃ c ∈ claimBindings, c.role ≠ .limitation ∧
        c.id ∉ evidenceBindings.map (·.reportClaimBindingId))
      "supported report claim binding requires evidence"
    check (∃ v ∈ citationBindings, v.reportEvidenceBindingId ∉ evidenceBindings.map (·.id))
      "citation binding references unknown report evidence binding"

/-- `ResearchReportAggregateWrite`: what can be constructed. -/
structure ResearchReportAggregateWrite where
  report : ResearchReportRecord
  claimBindings : List ReportClaimBindingWrite
  evidenceBindings : List ReportEvidenceBindingWrite
  citationBindings : List ReportCitationBindingWrite
  claims_le : claimBindings.length ≤ 5000
  evidence_le : evidenceBindings.length ≤ 5000
  citations_le : citationBindings.length ≤ 1000
  accepted : requireCompleteBindingGraph uuid5 report claimBindings evidenceBindings
    citationBindings = .ok ()

structure CompleteGraph (a : ResearchReportAggregateWrite uuid5) : Prop where
  distinctBlocks : (a.report.blocks.map (blockId uuid5 a.report)).Nodup
  factualBound : ∀ b ∈ a.report.blocks, b.isFactual = true →
    ∃ c ∈ a.claimBindings, c.reportBlockId = blockId uuid5 a.report b
  onlyFactualBound : ∀ b ∈ a.report.blocks,
    (∃ c ∈ a.claimBindings, c.reportBlockId = blockId uuid5 a.report b) → b.isFactual = true
  claimsBound : ∀ c ∈ a.claimBindings,
    ∃ b ∈ a.report.blocks, c.reportBlockId = blockId uuid5 a.report b
  evidenceBound : ∀ e ∈ a.evidenceBindings, ∃ c ∈ a.claimBindings,
    c.id = e.reportClaimBindingId ∧ c.reportBlockId = e.reportBlockId
  claimsSupported : ∀ c ∈ a.claimBindings, c.role ≠ .limitation →
    ∃ e ∈ a.evidenceBindings, e.reportClaimBindingId = c.id
  citationsBound : ∀ v ∈ a.citationBindings,
    ∃ e ∈ a.evidenceBindings, e.id = v.reportEvidenceBindingId

/-- Different block names of a report get different identifiers. -/
def NamesApart (report : ResearchReportRecord) : Prop :=
  ∀ b ∈ report.blocks, ∀ b' ∈ report.blocks,
    blockId uuid5 report b = blockId uuid5 report b' → blockName report b = blockName report b'

variable {uuid5} {a : ResearchReportAggregateWrite uuid5}

/-- Blocks have their own identifiers exactly when no key is used twice in the whole report. -/
lemma nodup_blockIds {report : ResearchReportRecord} (h : NamesApart uuid5 report) :
    (report.blocks.map (blockId uuid5 report)).Nodup ↔ (report.blocks.map (·.blockKey)).Nodup := by
  simp only [List.Nodup, List.pairwise_map]
  constructor
  · intro hids
    refine hids.imp ?_
    intro b b' hne hkey
    exact hne (by simp [blockId, blockName, hkey])
  · intro hkeys
    refine hkeys.imp_of_mem ?_
    intro b b' hb hb' hne hid
    have hname := h b hb b' hb' hid
    simp only [blockName, List.append_cancel_left_eq] at hname
    exact hne hname

/-- What the validator has checked, once there is a claim binding. -/
lemma accepted_of_claims (hne : a.claimBindings ≠ []) :
    (factualIds uuid5 a.report ⊆ a.claimBindings.map (·.reportBlockId) ∧
      a.claimBindings.map (·.reportBlockId) ⊆ factualIds uuid5 a.report) ∧
    (∀ e ∈ a.evidenceBindings, ∃ c ∈ a.claimBindings,
      c.id = e.reportClaimBindingId ∧ c.reportBlockId = e.reportBlockId) ∧
    (∀ c ∈ a.claimBindings, c.role ≠ .limitation →
      c.id ∈ a.evidenceBindings.map (·.reportClaimBindingId)) ∧
    ∀ v ∈ a.citationBindings, v.reportEvidenceBindingId ∈ a.evidenceBindings.map (·.id) := by
  have haccepted := a.accepted
  simp only [requireCompleteBindingGraph, if_neg hne, check_bind_ok, check_ok, not_not] at haccepted
  rcases haccepted with ⟨-, -, hfactual, -, hevidence, hsupported, hcitations⟩
  push Not at hevidence hsupported hcitations
  exact ⟨hfactual, hevidence, hsupported, hcitations⟩

/-- Without collisions the validator sees every block. -/
lemma mem_factualIds {report : ResearchReportRecord}
    (h : (report.blocks.map (blockId uuid5 report)).Nodup) {i : Uuid} :
    i ∈ factualIds uuid5 report ↔
      ∃ b ∈ report.blocks, b.isFactual = true ∧ blockId uuid5 report b = i := by
  simp [factualIds, Dict.valuesBy_of_nodup h, and_assoc]

lemma completeGraph_of_claims (hids : (a.report.blocks.map (blockId uuid5 a.report)).Nodup)
    (hne : a.claimBindings ≠ []) : CompleteGraph uuid5 a := by
  rcases accepted_of_claims hne with ⟨⟨hbound, honly⟩, hevidence, hsupported, hcitations⟩
  have hfactual : ∀ c ∈ a.claimBindings, ∃ b ∈ a.report.blocks, b.isFactual = true ∧
      blockId uuid5 a.report b = c.reportBlockId :=
    fun c hc => (mem_factualIds hids).mp (honly (List.mem_map_of_mem hc))
  refine ⟨hids, ?_, ?_, ?_, hevidence, ?_, ?_⟩
  · intro b hb hfact
    have hmem := hbound ((mem_factualIds hids).mpr ⟨b, hb, hfact, rfl⟩)
    simpa using hmem
  · rintro b hb ⟨c, hc, hid⟩
    rcases hfactual c hc with ⟨b', hb', hfact, hid'⟩
    rwa [List.inj_on_of_nodup_map hids hb hb' (hid.symm.trans hid'.symm)]
  · intro c hc
    rcases hfactual c hc with ⟨b, hb, -, hid⟩
    exact ⟨b, hb, hid.symm⟩
  · intro c hc hrole
    simpa using hsupported c hc hrole
  · intro v hv
    simpa using hcitations v hv

/-- **The two ways past the validator.**  The graph of an aggregate is complete exactly when no block
key stands in two sections, and there is a claim binding or nothing to bind. -/
theorem completeGraph_iff (uuid5 : Text → Uuid) (a : ResearchReportAggregateWrite uuid5)
    (hnames : NamesApart uuid5 a.report) :
    CompleteGraph uuid5 a ↔
      (a.report.blocks.map (·.blockKey)).Nodup ∧
      (a.claimBindings ≠ [] ∨
        ((∀ b ∈ a.report.blocks, b.isFactual = false) ∧ a.evidenceBindings = [] ∧
          a.citationBindings = [])) := by
  rw [← nodup_blockIds hnames]
  constructor
  · intro h
    refine ⟨h.distinctBlocks, ?_⟩
    by_cases hne : a.claimBindings = []
    · right
      have hevidence : a.evidenceBindings = [] := by
        refine List.eq_nil_iff_forall_not_mem.mpr fun e he => ?_
        rcases h.evidenceBound e he with ⟨c, hc, -⟩
        simp [hne] at hc
      refine ⟨?_, hevidence, ?_⟩
      · intro b hb
        by_contra hfact
        rcases h.factualBound b hb (by simpa using hfact) with ⟨c, hc, -⟩
        simp [hne] at hc
      · refine List.eq_nil_iff_forall_not_mem.mpr fun v hv => ?_
        rcases h.citationsBound v hv with ⟨e, he, -⟩
        simp [hevidence] at he
    · exact Or.inl hne
  · rintro ⟨hids, hne | ⟨hplain, hevidence, hcitations⟩⟩
    · exact completeGraph_of_claims hids hne
    · by_cases hne : a.claimBindings = []
      · refine ⟨hids, ?_, ?_, ?_, ?_, ?_, ?_⟩
        · intro b hb hfact
          simp [hplain b hb] at hfact
        · simp [hne]
        · simp [hne]
        · simp [hevidence]
        · simp [hne]
        · simp [hcitations]
      · exact completeGraph_of_claims hids hne

end Graph

/-! ## A report with a metric table -/

/-- A report with a heading and a metric table. -/
lemma schema_valid : isSchemaVersion "research-report-v1".toList = true := by decide

lemma firstSection_le : 0 ≤ 15 := by decide

lemma firstBlock_le : 0 ≤ 299 := by decide

lemma secondBlock_le : 1 ≤ 299 := by decide

def metricReport : ResearchReportRecord where
  id := 1
  structuredContent :=
    { schemaVersion := "research-report-v1".toList
      locale := .enUS
      sections :=
        [{ reportSection := .financialHealth
           sectionIndex := 0
           title := "Financial health".toList
           status := .complete
           blocks :=
             [⟨"scope.head".toList, 0, .heading, .complete, none, [], by decide, firstBlock_le,
                by simp⟩,
              ⟨"metrics.main".toList, 1, .metricTable, .complete, none, [], by decide,
                secondBlock_le, by simp⟩]
           index_le := firstSection_le
           title_ok := by decide
           blocks_le := by decide
           contiguous := by decide
           uniqueKeys := by decide }]
      schema_ok := schema_valid
      sections_ok := by decide
      contiguous := by decide
      uniqueSections := by decide
      bounded := by decide }

/-- The identifiers of its two blocks. -/
def metricUuid5 (name : Text) : Uuid :=
  if name = "00000000-0000-0000-0000-000000000001:block:metrics.main".toList then
    0x469ea9b3a79158cdba3f253539bc807b
  else if name = "00000000-0000-0000-0000-000000000001:block:scope.head".toList then
    0x696fc82c80f75f83b9cbb39750312e9b
  else 0

/-- The report with its table bound to a claim, an evidence and a citation. -/
def boundReport : ResearchReportAggregateWrite metricUuid5 where
  report := metricReport
  claimBindings := [⟨2, 0x469ea9b3a79158cdba3f253539bc807b, 3, .primary⟩]
  evidenceBindings := [⟨4, 0x469ea9b3a79158cdba3f253539bc807b, 2, 5⟩]
  citationBindings := [⟨6, 4, 7⟩]
  claims_le := by decide
  evidence_le := by decide
  citations_le := by decide
  accepted := by decide +kernel

theorem completeGraph_boundReport : CompleteGraph metricUuid5 boundReport := by
  have hnames : NamesApart metricUuid5 boundReport.report := by
    intro b hb b' hb' hid
    have hblocks : ∀ b ∈ metricReport.blocks, ∀ b' ∈ metricReport.blocks,
        blockId metricUuid5 metricReport b = blockId metricUuid5 metricReport b' →
        blockName metricReport b = blockName metricReport b' := by
      simp only [metricReport, ResearchReportRecord.blocks, List.flatMap_cons, List.flatMap_nil,
        List.append_nil, List.forall_mem_cons, List.not_mem_nil, false_imp_iff, implies_true,
        and_true]
      decide +kernel
    exact hblocks b hb b' hb' hid
  have hkeys : (boundReport.report.blocks.map (·.blockKey)).Nodup := by decide +kernel
  exact (completeGraph_iff metricUuid5 boundReport hnames).mpr ⟨hkeys, Or.inl (by decide)⟩

/-- The same report with no claim binding, and an evidence and a citation that belong to nothing. -/
def unboundReport : ResearchReportAggregateWrite metricUuid5 where
  report := metricReport
  claimBindings := []
  evidenceBindings := [⟨4, 0x469ea9b3a79158cdba3f253539bc807b, 2, 5⟩]
  citationBindings := [⟨6, 8, 7⟩]
  claims_le := by decide
  evidence_le := by decide
  citations_le := by decide
  accepted := rfl

/-- It is constructed all the same. -/
theorem not_completeGraph_unboundReport : ¬ CompleteGraph metricUuid5 unboundReport := by
  intro h
  rcases h.evidenceBound _ List.mem_cons_self with ⟨c, hc, -⟩
  cases hc

end StockResearch.Reports
