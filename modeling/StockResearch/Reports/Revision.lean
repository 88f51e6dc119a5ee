import StockResearch.Reports.Findings
import StockResearch.Reports.Projection

/-!
# Revision of a report

A revision goes through the findings of a reflection.  The remediation of a finding names an action,
and the handler of the action edits the content; what a handler cannot do it refuses, and the finding
stays unresolved.  The edited content then becomes the next version of the report, with the bindings
that survive.

**Edited contents.**  `model_copy` checks nothing, so an edited content is a value of
`ContentFields`, and only what is constructed is checked.

**Failures.**  The loop catches `ReportRevisionError`; any other exception ends the revision.
-/

namespace StockResearch.Reports

open PyText PyJson PyTime Checked ResearchAgent

/-- What a handler raises: a `ReportRevisionError` with its code, or something else. -/
inductive RevisionFailure where
  | revision (code : String)
  | other (error : String)
deriving DecidableEq, Repr

/-- An exception that the loop does not catch. -/
def orOther {α : Type} (x : Except String α) : Except RevisionFailure α := x.mapError .other

/-- The fields of a `ReportPolicyRecord` that a revision reads. -/
structure ReportPolicyRecord where
  maxExcerptLength : Nat
  maxRevisionRounds : Nat
  allowModelNarrative : Bool
  allowModelReflection : Bool

/-! ## Blocks -/

def containsBlock (content : ContentFields) (blockKey : Text) : Bool :=
  content.blocks.any fun b => b.blockKey == blockKey

def blockNotFound : RevisionFailure := .revision "REVISION_BLOCK_NOT_FOUND"

/-- The key of a block that is there. -/
def presentKey (content : ContentFields) : Option Text → Except RevisionFailure Text
  | some key => if containsBlock content key = true then .ok key else .error blockNotFound
  | none => .error blockNotFound

/-- The content without the blocks under a key. -/
def ContentFields.without (content : ContentFields) (key : Text) : ContentFields :=
  { content with
    sections := content.sections.map fun s =>
      { s with blocks := s.blocks.filter fun b => b.blockKey != key } }

def deleteBlock (content : ContentFields) (blockKey : Option Text) :
    Except RevisionFailure ContentFields := do
  let key ← presentKey content blockKey
  return content.without key

/-- A block under the key is transformed. -/
def transformIf (key : Text) (transform : BlockFields → Except RevisionFailure BlockFields)
    (b : BlockFields) : Except RevisionFailure BlockFields :=
  if b.blockKey = key then transform b else .ok b

def transformSection (key : Text) (transform : BlockFields → Except RevisionFailure BlockFields)
    (s : SectionFields) : Except RevisionFailure SectionFields :=
  (s.blocks.mapM (transformIf key transform)).map fun blocks => { s with blocks := blocks }

def transformBlock (content : ContentFields) (blockKey : Option Text)
    (transform : BlockFields → Except RevisionFailure BlockFields) :
    Except RevisionFailure ContentFields := do
  let key ← presentKey content blockKey
  let sections ← content.sections.mapM (transformSection key transform)
  return { content with sections := sections }

/-- The prefix of `_qualify_partial`. -/
def partialPrefix : Text := "Limited by verified evidence: ".toList

def qualifyPartial (lib : ReportLibrary) (b : BlockFields) : Except RevisionFailure BlockFields :=
  match b.text with
  | none => .error (.revision "REVISION_TEXT_NOT_FOUND")
  | some t =>
      if (lib.casefold partialPrefix).isPrefixOf (lib.casefold t) then .ok b
      else .ok { b with text := some (partialPrefix ++ t) }

mutual

def truncateExcerpts (maximum : Nat) : Value → Value
  | .obj fields => .obj (truncateFields maximum fields)
  | .arr items => .arr (truncateItems maximum items)
  | v => v

def truncateItems (maximum : Nat) : List Value → List Value
  | [] => []
  | v :: vs => truncateExcerpts maximum v :: truncateItems maximum vs

def truncateFields (maximum : Nat) : List (String × Value) → List (String × Value)
  | [] => []
  | (k, .str s) :: fs =>
      (k, .str (if k = "rendered_excerpt" then String.ofList (s.toList.take maximum) else s)) ::
        truncateFields maximum fs
  | (k, v) :: fs => (k, truncateExcerpts maximum v) :: truncateFields maximum fs

end

/-! ## Sections -/

/-- `StructuredReportSection(…)` over blocks that are taken as they are. -/
def constructSection (s : SectionFields) : Except RevisionFailure SectionFields := do
  check (¬ (s.sectionIndex ≤ 15 ∧ (1 ≤ s.title.length ∧ s.title.length ≤ 160) ∧
    s.blocks.length ≤ 300 ∧ s.blocks.map (·.blockIndex) = List.range s.blocks.length ∧
    (s.blocks.map (·.blockKey)).Nodup)) (.other "ValidationError")
  return s

/-- `StructuredReportContent(…)` over sections that are taken as they are. -/
def constructContent (content : ContentFields) : Except RevisionFailure ContentFields := do
  check (¬ (isSchemaVersion content.schemaVersion = true ∧
    (1 ≤ content.sections.length ∧ content.sections.length ≤ 16) ∧
    content.sections.map (·.sectionIndex) = List.range content.sections.length ∧
    (content.sections.map (·.reportSection)).Nodup ∧
    (content.sections.map (·.blocks.length)).sum ≤ 300)) (.other "ValidationError")
  return content

/-- `text.title()`, after a letter or not. -/
def titleCase : Bool → Text → Text
  | _, [] => []
  | inWord, c :: cs =>
      (if c.isAlpha then if inWord then c.toLower else c.toUpper else c) :: titleCase c.isAlpha cs

/-- `target.value.replace("_", " ").title()` -/
def sectionTitle (target : ReportSection) : Text :=
  titleCase false (replace "_" " " target.value.toList)

/-- A block comes to the end of the first section of its kind, or into a new one. -/
def appendBlock (content : ContentFields) (target : ReportSection) (status : ReportSectionStatus)
    (b : BlockFields) : Except RevisionFailure ContentFields :=
  match content.sections.findIdx? fun s => s.reportSection == target with
  | some index =>
      .ok { content with
        sections := content.sections.modify index fun s => { s with blocks := s.blocks ++ [b] } }
  | none => do
      let created ← constructSection
        ⟨target, content.sections.length, sectionTitle target, status, [b]⟩
      return { content with sections := content.sections ++ [created] }

def moveBlock (content : ContentFields) (blockKey : Option Text) (target : ReportSection) :
    Except RevisionFailure ContentFields :=
  match blockKey with
  | none => .error blockNotFound
  | some key =>
      match (content.blocks.filter fun b => b.blockKey == key).getLast? with
      | none => .error blockNotFound
      | some selected => appendBlock (content.without key) target .partly selected

/-- `ReportSectionStatus(block_status.value)` -/
def sectionStatusOf : ReportBlockStatus → ReportSectionStatus
  | .complete => .complete
  | .partly => .partly
  | .blocked => .blocked
  | .noEvidence => .noEvidence
  | .notRequested => .notRequested

/-- The key of a disclosure: `f"reflection.{code.casefold()}.{finding.id.hex[:8]}"`. -/
def disclosureKey (lib : ReportLibrary) (finding : ReportReflectionFindingRecord) : Text :=
  "reflection.".toList ++ lib.casefold finding.remediationCode.toList ++ '.' ::
    (finding.id.chars.filter (· != '-')).take 8

def appendDisclosure (lib : ReportLibrary) (content : ContentFields)
    (finding : ReportReflectionFindingRecord) (sectionKey : ReportSection)
    (blockType : ReportBlockType) (blockStatus : ReportBlockStatus) :
    Except RevisionFailure ContentFields := do
  let block ← orOther <| BlockFields.checked
    { blockKey := disclosureKey lib finding
      blockIndex := 0
      blockType := blockType
      status := blockStatus
      text := some ("Reflection limitation: ".toList ++ finding.findingCode.toList ++ ['.'])
      payload := [("finding_code", .str finding.findingCode),
        ("remediation_code", .str finding.remediationCode)] }
  appendBlock content sectionKey (sectionStatusOf blockStatus) block.fields

/-- A section with its place, and its blocks with theirs. -/
def canonicalSection (s : SectionFields × Nat) : Except RevisionFailure SectionFields :=
  constructSection
    { s.1 with
      sectionIndex := s.2
      status := if s.1.blocks.isEmpty then .noEvidence else s.1.status
      blocks := s.1.blocks.zipIdx.map fun b => { b.1 with blockIndex := b.2 } }

def canonicalize (content : ContentFields) : Except RevisionFailure ContentFields := do
  let sections ← content.sections.zipIdx.mapM canonicalSection
  constructContent { content with sections := sections }

/-! ## Handlers -/

section Handlers

variable (lib : ReportLibrary)

abbrev ActionHandler :=
  ContentFields → ReportReflectionFindingRecord → ReportPolicyRecord →
    Except RevisionFailure ContentFields

def deleteHandler : ActionHandler := fun content finding _ => deleteBlock content finding.blockKey

def partialHandler : ActionHandler := fun content finding _ =>
  transformBlock content finding.blockKey (qualifyPartial lib)

def moveConflictHandler : ActionHandler := fun content finding _ =>
  moveBlock content finding.blockKey .conflicts

def moveUnsupportedHandler : ActionHandler := fun content finding _ =>
  moveBlock content finding.blockKey .unsupportedClaims

def moveBlockedHandler : ActionHandler := fun content finding _ =>
  moveBlock content finding.blockKey .limitations

def addDataQualityHandler : ActionHandler := fun content finding _ =>
  appendDisclosure lib content finding .dataQuality .warning .partly

def addLimitationHandler : ActionHandler := fun content finding _ =>
  appendDisclosure lib content finding .limitations .limitation .blocked

def renumberHandler : ActionHandler := fun content _ _ =>
  (orOther (allocate lib content)).map fun allocation => allocation.content.fields

def truncateHandler : ActionHandler := fun content finding policy =>
  transformBlock content finding.blockKey fun b =>
    .ok { b with payload := truncateFields policy.maxExcerptLength b.payload }

def formatHandler : ActionHandler := fun content _ _ => canonicalize content

def revisionActionHandlers : ReportRevisionActionCode → ActionHandler
  | .deleteUnboundFactBlock => deleteHandler
  | .deleteUnsupportedFactBlock => deleteHandler
  | .downgradePartialLanguage => partialHandler lib
  | .moveConflictToConflicts => moveConflictHandler
  | .moveUnsupportedToAppendix => moveUnsupportedHandler
  | .moveBlockedToLimitations => moveBlockedHandler
  | .addDataQualityFromExistingState => addDataQualityHandler lib
  | .addLimitationsFromExistingState => addLimitationHandler lib
  | .renumberExistingReferences => renumberHandler lib
  | .removeInvalidCitationBlock => deleteHandler
  | .removeForbiddenAdviceText => deleteHandler
  | .truncateExistingExcerpt => truncateHandler
  | .fixDeterministicFormat => formatHandler

end Handlers

/-! ## The loop over the findings -/

structure ReportRevisionAction where
  findingId : Uuid
  actionCode : ReportRevisionActionCode
  blockKey : Option Text
deriving DecidableEq

/-- The variables of the loop. -/
structure RevisionState where
  content : ContentFields
  actions : List ReportRevisionAction
  applied : List Uuid
  unresolved : List Uuid

section Engine

variable (lib : ReportLibrary)

/-- One turn of the loop. -/
def reviseFinding (policy : ReportPolicyRecord) (state : RevisionState)
    (finding : ReportReflectionFindingRecord) : Except RevisionFailure RevisionState :=
  match ReportRevisionActionCode.ofValue finding.remediationCode with
  | none => .ok { state with unresolved := state.unresolved ++ [finding.id] }
  | some actionCode =>
      match revisionActionHandlers lib actionCode state.content finding policy with
      | .error (.revision _) => .ok { state with unresolved := state.unresolved ++ [finding.id] }
      | .error (.other error) => .error (.other error)
      | .ok content =>
          .ok { content := content
                actions := state.actions ++ [⟨finding.id, actionCode, finding.blockKey⟩]
                applied := state.applied ++ [finding.id]
                unresolved := state.unresolved }

/-- The loop over the findings, from the content of the source. -/
def reviseFindings (policy : ReportPolicyRecord) (content : ContentFields)
    (findings : List ReportReflectionFindingRecord) : Except RevisionFailure RevisionState :=
  findings.foldlM (reviseFinding lib policy) ⟨content, [], [], []⟩

/-! ## The next version of a report -/

def buildTarget (source : ResearchReport) (content : ContentFields) :
    Except RevisionFailure ResearchReport := do
  let allocation ← orOther (allocate lib content)
  let content := allocation.content
  let rendered ← orOther (render lib content.fields)
  let structured ← orOther (structuredReportChecksum lib content.fields)
  let markdown ← orOther (markdownChecksum lib rendered.markdownContent)
  let combined ← orOther <| combinedReportChecksum lib structured markdown
    { schemaVersion := content.schemaVersion
      templateName := source.templateName
      templateVersion := source.templateVersion
      rendererVersion := source.rendererVersion
      markdownRendererVersion := markdownRendererVersion
      locale := source.reportLocale
      inputManifestChecksum := source.inputManifestChecksum
      visibleReferences := allocation.references }
  let version := source.reportVersion + 1
  return { source with
    id := lib.uuid5 (source.id.chars ++ ':' :: (dumpsInt version ++ ':' :: combined.toList))
    reportVersion := version
    previousReportId := some source.id
    status := .revised
    structuredContent := content
    markdownContent := rendered.markdownContent
    structuredChecksum := structured
    markdownChecksum := markdown
    contentChecksum := combined }

/-- The value that a dictionary filled from a list of pairs holds. -/
def lastValue {α β : Type} [BEq α] (pairs : List (α × β)) (key : α) : Option β :=
  pairs.reverse.lookup key

/-- `f"{target.id}:{kind}:{block_key}:{id}"` -/
def bindingName (target : ResearchReport) (kind : String) (blockKey : Text) (id : Uuid) : Text :=
  target.id.chars ++ ':' :: (kind.toList ++ ':' :: (blockKey ++ ':' :: id.chars))

/-- The block that a binding of the source refers to, if it is a block of the target. -/
def survivingBlock (source target : ResearchReport) (reportBlockId : Uuid) : Option (Text × Uuid) :=
  let sourceBlockKeys := source.blocks.map fun b =>
    (blockId lib.uuid5 source.toResearchReportRecord b, b.blockKey)
  let targetBlockIds := target.blocks.map fun b =>
    (b.blockKey, blockId lib.uuid5 target.toResearchReportRecord b)
  (lastValue sourceBlockKeys reportBlockId).bind fun key =>
    (lastValue targetBlockIds key).map fun id => (key, id)

/-- The claim bindings that survive, each with the identifier it had. -/
def rebaseClaims (source : AggregateFields) (target : ResearchReport) :
    List (Uuid × ReportClaimBinding) :=
  source.claimBindings.filterMap fun binding =>
    (survivingBlock lib source.report target binding.reportBlockId).map fun block =>
      (binding.id,
        { binding with
          id := lib.uuid5 (bindingName target "claim-binding" block.1 binding.claimId)
          reportBlockId := block.2
          createdAt := target.createdAt })

/-- The evidence bindings that survive, each with the identifier it had. -/
def rebaseEvidence (source : AggregateFields) (target : ResearchReport)
    (references : List ReferenceEntry) (claimIds : List (Uuid × Uuid)) :
    List (Uuid × ReportEvidenceBinding) :=
  source.evidenceBindings.filterMap fun binding => do
    let claimBindingId ← lastValue claimIds binding.reportClaimBindingId
    let block ← survivingBlock lib source.report target binding.reportBlockId
    let kind := if binding.visibleReferenceKind = .metric then ReferenceKind.metric else .evidence
    let visibleReference ← labelOf references (kind, binding.evidenceId)
    return (binding.id,
      { binding with
        id := lib.uuid5
          (bindingName target "evidence-binding" block.1 binding.claimEvidenceLinkId)
        reportBlockId := block.2
        reportClaimBindingId := claimBindingId
        visibleReference := visibleReference
        createdAt := target.createdAt })

/-- The citation bindings that survive. -/
def rebaseCitations (source : AggregateFields) (target : ResearchReport)
    (references : List ReferenceEntry) (evidenceIds : List (Uuid × Uuid)) :
    List ReportCitationBinding :=
  source.citationBindings.filterMap fun binding => do
    let evidenceBindingId ← lastValue evidenceIds binding.reportEvidenceBindingId
    let visibleReference ← labelOf references (.citation, binding.citationId)
    return { binding with
      id := lib.uuid5
        (target.id.chars ++ ":citation-binding:".toList ++ binding.citationId.chars)
      reportEvidenceBindingId := evidenceBindingId
      visibleReference := visibleReference
      createdAt := target.createdAt }

def rebaseReportBindings (source : AggregateFields) (target : ResearchReport) :
    Except RevisionFailure (ResearchReportAggregate lib.uuid5) := do
  let allocation ← orOther (allocate lib target.structuredContent.fields)
  let claims := rebaseClaims lib source target
  let evidence := rebaseEvidence lib source target allocation.references
    (claims.map fun c => (c.1, c.2.id))
  let citations := rebaseCitations lib source target allocation.references
    (evidence.map fun e => (e.1, e.2.id))
  orOther <| AggregateFields.checked lib.uuid5
    ⟨target, claims.map (·.2), evidence.map (·.2), citations⟩

/-! ## The engine -/

def validateRevisionInput (source : AggregateFields) (reflection : ReportReflectionResult)
    (policy : ReportPolicyRecord) : Except RevisionFailure Unit := do
  check (reflection.run.status ≠ .findings) (.revision "REFLECTION_FINDINGS_REQUIRED")
  check (reflection.findings = []) (.revision "FINDINGS_NOT_MATERIALIZED")
  check (reflection.run.researchReportId ≠ source.report.id ∨ reflection.run.roundNumber ≠ 1 ∨
    reflection.run.inputReportChecksum ≠ source.report.contentChecksum)
    (.revision "REFLECTION_CONTEXT_MISMATCH")
  check (policy.maxRevisionRounds ≠ 1) (.revision "REPORT_REVISION_POLICY_INVALID")
  check (policy.allowModelNarrative = true ∨ policy.allowModelReflection = true)
    (.revision "MODEL_REVISION_FORBIDDEN")

structure ReportRevisionDraft (lib : ReportLibrary) where
  sourceReportId : Uuid
  sourceReportChecksum : String
  target : ResearchReportAggregate lib.uuid5
  actions : List ReportRevisionAction
  appliedFindingIds : List Uuid
  unresolvedFindingIds : List Uuid

/-- `DeterministicReportRevisionEngine.revise` -/
def revise (source : ResearchReportAggregate lib.uuid5) (reflection : ReportReflectionResult)
    (policy : ReportPolicyRecord) : Except RevisionFailure (ReportRevisionDraft lib) := do
  validateRevisionInput source.toAggregateFields reflection policy
  let state ← reviseFindings lib policy source.report.structuredContent.fields reflection.findings
  let content ← canonicalize state.content
  let target ← buildTarget lib source.report content
  let aggregate ← rebaseReportBindings lib source.toAggregateFields target
  check (10000 < state.actions.length ∨ 10000 < state.applied.length ∨
    10000 < state.unresolved.length) (.other "ValidationError")
  return ⟨source.report.id, source.report.contentChecksum, aggregate, state.actions, state.applied,
    state.unresolved⟩

inductive ReportRevisionStatus where
  | running | completed | partly | blocked | failed
deriving DecidableEq, Repr

/-- The status under which a draft is completed. -/
def ReportRevisionDraft.status {lib : ReportLibrary} (draft : ReportRevisionDraft lib) :
    ReportRevisionStatus :=
  if draft.unresolvedFindingIds = [] then .completed else .partly

end Engine

end StockResearch.Reports
