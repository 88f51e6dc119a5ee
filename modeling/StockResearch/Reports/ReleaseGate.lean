import StockResearch.ResearchAgent.Evidence
import StockResearch.Reports.Revision

/-!
# The release gate

The gate reads a report, the manifest of its input, the second reflection and the policy, decides
eighteen requirements, and seals the report when all of them hold.

**Integrity.**  The report must be the projection of its content, under the checksums it carries.  The
gate renders the content before it verifies: what the renderer raises is not caught.

**Sealing.**  `buildSealedReport` copies the report under a new identifier as its successor,
and carries the bindings over.
-/

namespace StockResearch.Reports

open PyText PyJson PyTime Checked ResearchAgent

def releaseGateVersion : Text := "report-release-gate-v1".toList

inductive ReleaseGateDecision where
  | publishable | partly | blocked | failed
deriving DecidableEq

inductive ReleaseGateRequirement where
  | reportChecksumsValid | packageInputChecksumsValid | roundTwoCompleted | noCriticalFindings
  | noHighFindings | noUnsupportedFactualBodyClaims | conflictsDisclosed | documentCitationsValid
  | structuredLineageValid | temporalEvidenceValid | noSyntheticContamination | contextMatches
  | noForbiddenAdvice | dataQualityPresent | limitationsPresent | packageEligible
  | reportTypeCompatible | projectionMatches
deriving DecidableEq

/-- `requirement.value` -/
def ReleaseGateRequirement.value : ReleaseGateRequirement → String
  | .reportChecksumsValid => "REPORT_CHECKSUMS_VALID"
  | .packageInputChecksumsValid => "PACKAGE_INPUT_CHECKSUMS_VALID"
  | .roundTwoCompleted => "ROUND_TWO_COMPLETED"
  | .noCriticalFindings => "NO_CRITICAL_FINDINGS"
  | .noHighFindings => "NO_HIGH_FINDINGS"
  | .noUnsupportedFactualBodyClaims => "NO_UNSUPPORTED_FACTUAL_BODY_CLAIMS"
  | .conflictsDisclosed => "CONFLICTS_DISCLOSED"
  | .documentCitationsValid => "DOCUMENT_CITATIONS_VALID"
  | .structuredLineageValid => "STRUCTURED_LINEAGE_VALID"
  | .temporalEvidenceValid => "TEMPORAL_EVIDENCE_VALID"
  | .noSyntheticContamination => "NO_SYNTHETIC_CONTAMINATION"
  | .contextMatches => "CONTEXT_MATCHES"
  | .noForbiddenAdvice => "NO_FORBIDDEN_ADVICE"
  | .dataQualityPresent => "DATA_QUALITY_PRESENT"
  | .limitationsPresent => "LIMITATIONS_PRESENT"
  | .packageEligible => "PACKAGE_ELIGIBLE"
  | .reportTypeCompatible => "REPORT_TYPE_COMPATIBLE"
  | .projectionMatches => "PROJECTION_MATCHES"

/-- The requirements in the order of their declaration. -/
def ReleaseGateRequirement.all : List ReleaseGateRequirement :=
  [.reportChecksumsValid, .packageInputChecksumsValid, .roundTwoCompleted, .noCriticalFindings,
    .noHighFindings, .noUnsupportedFactualBodyClaims, .conflictsDisclosed, .documentCitationsValid,
    .structuredLineageValid, .temporalEvidenceValid, .noSyntheticContamination, .contextMatches,
    .noForbiddenAdvice, .dataQualityPresent, .limitationsPresent, .packageEligible,
    .reportTypeCompatible, .projectionMatches]

/-- `_REQUIREMENT_CHECKS`, which is asked for the requirements about findings only. -/
def requirementChecks : ReleaseGateRequirement → List RuntimeReflectionCheck
  | .noUnsupportedFactualBodyClaims =>
      [.factualBlockHasClaim, .primaryClaimHasEvidence, .unsupportedClaimsRestricted]
  | .conflictsDisclosed => [.conflictingClaimsDisclosed]
  | .documentCitationsValid => [.documentClaimHasValidCitation, .citationValid]
  | .structuredLineageValid => [.structuredClaimHasLineage]
  | .temporalEvidenceValid => [.noFutureEvidence, .strictDocumentPublishedAtKnown]
  | .noSyntheticContamination =>
      [.noRealResearchSyntheticEvidence, .syntheticNotRealCompanyResearch,
        .fixtureNotDescribedAsLive]
  | .contextMatches =>
      [.securityMatches, .snapshotMatches, .asOfMatches, .noCrossSecurityRecords,
        .noCrossSnapshotRecords, .reportAsOfPresent, .snapshotIdentityPresent,
        .reportInputManifestUnchanged]
  | .noForbiddenAdvice =>
      [.noRatingLanguage, .noTargetPrice, .noPositionAdvice, .noTradingInstruction,
        .noUnsupportedOverstatement]
  | .dataQualityPresent => [.dataQualityPresent]
  | .limitationsPresent => [.limitationsPresent]
  | _ => []

/-- A `ReportInputManifest` as the gate reads it. -/
structure ReportInputManifest where
  researchPackageId : Uuid
  securityId : Uuid
  snapshotId : Uuid
  researchAsOfTime : Instant
  researchMode : ResearchMode
  packageStatus : ResearchPackageStatus
  packageChecksum : String
  claimsChecksum : String
  evidenceChecksum : String
  linksChecksum : String
  citationsChecksum : String
  syntheticStatus : SyntheticStatus
  canonicalPayloadChecksum : String

/-! ## Successors -/

mutual

/-- The two values are written alike. -/
def sameValue : Value → Value → Bool
  | .null, .null => true
  | .bool a, .bool b => a == b
  | .int m, .int n => m == n
  | .real s, .real t => s == t
  | .str s, .str t => s == t
  | .arr vs, .arr ws => sameItems vs ws
  | .obj fs, .obj gs => sameFields fs gs
  | _, _ => false

def sameItems : List Value → List Value → Bool
  | [], [] => true
  | v :: vs, w :: ws => sameValue v w && sameItems vs ws
  | _, _ => false

def sameFields : List (String × Value) → List (String × Value) → Bool
  | [], [] => true
  | (k, v) :: fs, (l, w) :: gs => k == l && (sameValue v w && sameFields fs gs)
  | _, _ => false

end

/-- The fields in which a sealed report is its parent. -/
def contentIdentity (report : ResearchReport) : List String :=
  [report.structuredChecksum, report.markdownChecksum, report.contentChecksum,
    report.claimSetChecksum, report.evidenceSetChecksum, report.linkSetChecksum,
    report.citationSetChecksum]

def validatePublishableContentIdentity (parent child : ResearchReport) : Except String Unit :=
  check (¬ (sameValue parent.structuredContent.fields.dump child.structuredContent.fields.dump = true ∧
    parent.markdownContent = child.markdownContent ∧ contentIdentity parent = contentIdentity child))
    "PUBLISHABLE_CONTENT_MISMATCH"

def validateReportSuccessor (parent child : ResearchReport) : Except String Unit := do
  check (child.id = parent.id) "REPORT_SELF_REFERENCE"
  check (child.reportVersion ≠ parent.reportVersion + 1) "REPORT_VERSION_NOT_CONTIGUOUS"
  check (child.previousReportId ≠ some parent.id) "REPORT_PARENT_MISMATCH"
  check (child.reportGenerationRunId ≠ parent.reportGenerationRunId)
    "REPORT_GENERATION_RUN_MISMATCH"
  check (child.securityId ≠ parent.securityId) "REPORT_SECURITY_MISMATCH"
  check (child.snapshotId ≠ parent.snapshotId) "REPORT_SNAPSHOT_MISMATCH"
  check (child.researchAsOfTime ≠ parent.researchAsOfTime) "REPORT_AS_OF_MISMATCH"
  check (child.researchPackageId ≠ parent.researchPackageId) "REPORT_PACKAGE_MISMATCH"
  check (child.inputManifestChecksum ≠ parent.inputManifestChecksum) "REPORT_MANIFEST_MISMATCH"
  check (child.reportType ≠ parent.reportType) "REPORT_TYPE_MISMATCH"
  check (child.reportLocale ≠ parent.reportLocale) "REPORT_LOCALE_MISMATCH"
  check (child.rendererVersion ≠ parent.rendererVersion ∨
    child.templateName ≠ parent.templateName ∨ child.templateVersion ≠ parent.templateVersion)
    "REPORT_RENDER_CONTRACT_MISMATCH"
  if child.status = .publishable then validatePublishableContentIdentity parent child else .ok ()

/-! ## Requirements -/

/-- `_finding_checks`: a finding whose code is no check is left out. -/
def findingChecks (result : ReportReflectionResult) : List RuntimeReflectionCheck :=
  result.findings.filterMap fun finding => RuntimeReflectionCheck.ofValue finding.findingCode

def checksAbsent (findings : List RuntimeReflectionCheck) (requirement : ReleaseGateRequirement) :
    Bool :=
  findings.all fun check => !(requirementChecks requirement).contains check

section Gate

variable (lib : ReportLibrary)

/-- The context under which the checksums of a report are verified. -/
def checksumContext (report : ResearchReport) (references : List ReferenceEntry) :
    ReportChecksumContext where
  schemaVersion := report.structuredContent.schemaVersion
  templateName := report.templateName
  templateVersion := report.templateVersion
  rendererVersion := report.rendererVersion
  markdownRendererVersion := markdownRendererVersion
  locale := report.reportLocale
  inputManifestChecksum := report.inputManifestChecksum
  visibleReferences := references

/-- The checksums that a report carries. -/
def storedChecksums (report : ResearchReport) : ReportProjectionChecksums where
  structuredChecksum := report.structuredChecksum
  markdownChecksum := report.markdownChecksum
  contentChecksum := report.contentChecksum

/-- What `_report_integrity` tries. -/
def verifyReport (report : ResearchReport) : Except String Unit := do
  let allocation ← allocate lib report.structuredContent.fields
  verifyReportProjection lib report.structuredContent.fields report.markdownContent
    (checksumContext report allocation.references) (storedChecksums report)

def reportIntegrity (report : ResearchReport) : Except String (Bool × Bool) := do
  let rendered ← render lib report.structuredContent.fields
  return ((verifyReport lib report).isOk,
    decide (rendered.markdownContent = report.markdownContent))

def inputIntegrity (report : ResearchReport) (manifest : ReportInputManifest) : Bool :=
  report.researchPackageId == manifest.researchPackageId &&
    report.inputManifestChecksum == manifest.canonicalPayloadChecksum &&
    report.packageChecksum == manifest.packageChecksum &&
    report.claimSetChecksum == manifest.claimsChecksum &&
    report.evidenceSetChecksum == manifest.evidenceChecksum &&
    report.linkSetChecksum == manifest.linksChecksum &&
    report.citationSetChecksum == manifest.citationsChecksum

def contextMatches (report : ResearchReport) (manifest : ReportInputManifest) : Bool :=
  report.securityId == manifest.securityId && report.snapshotId == manifest.snapshotId &&
    decide (report.researchAsOfTime = manifest.researchAsOfTime)

def roundTwoCompleted (report : ResearchReport) (result : ReportReflectionResult) : Bool :=
  let run := result.run
  run.roundNumber == 2 && (run.status == .pass || run.status == .findings) &&
    run.completedAt.isSome && run.researchReportId == report.id &&
    run.inputReportChecksum == report.contentChecksum &&
    result.findingIds.length == run.totalFindingCount &&
    result.findings.map (·.id) == result.findingIds

/-- `_report_type_compatible`, with the report types that the policy allows. -/
def reportTypeCompatible (report : ResearchReport) (manifest : ReportInputManifest)
    (allowedReportTypes : List ReportType) : Bool :=
  if ¬ allowedReportTypes.contains report.reportType then false
  else if manifest.packageStatus = .blocked then report.reportType == .dataQualityReport
  else manifest.packageStatus != .failed

/-- The modes of a research and the kinds of evidence that go together. -/
def sourceModeMatches (manifest : ReportInputManifest) : Bool :=
  ((manifest.syntheticStatus == .realVerified || manifest.syntheticStatus == .fixtureRealExcerpt) &&
      manifest.researchMode == .realResearch) ||
    (manifest.syntheticStatus == .syntheticTestOnly && manifest.researchMode == .syntheticTestOnly)

/-- `section in section_keys` -/
def hasSection (report : ResearchReport) (kind : ReportSection) : Bool :=
  report.structuredContent.sections.any fun s => s.reportSection == kind

/-- What the requirements are decided on. -/
structure GateInput where
  candidate : ResearchReport
  manifest : ReportInputManifest
  roundTwo : ReportReflectionResult
  allowedReportTypes : List ReportType

/-- `requirement_values`, given the two results of `_report_integrity`. -/
def GateInput.passed (input : GateInput) (integrity : Bool × Bool) : ReleaseGateRequirement → Bool
  | .reportChecksumsValid => integrity.1
  | .packageInputChecksumsValid => inputIntegrity input.candidate input.manifest
  | .roundTwoCompleted => roundTwoCompleted input.candidate input.roundTwo
  | .noCriticalFindings => input.roundTwo.run.criticalCount == 0
  | .noHighFindings => input.roundTwo.run.highCount == 0
  | .noSyntheticContamination =>
      sourceModeMatches input.manifest &&
        checksAbsent (findingChecks input.roundTwo) .noSyntheticContamination
  | .contextMatches =>
      contextMatches input.candidate input.manifest &&
        checksAbsent (findingChecks input.roundTwo) .contextMatches
  | .dataQualityPresent =>
      hasSection input.candidate .dataQuality &&
        checksAbsent (findingChecks input.roundTwo) .dataQualityPresent
  | .limitationsPresent =>
      hasSection input.candidate .limitations &&
        checksAbsent (findingChecks input.roundTwo) .limitationsPresent
  | .packageEligible => input.manifest.packageStatus == .complete
  | .reportTypeCompatible =>
      reportTypeCompatible input.candidate input.manifest input.allowedReportTypes
  | .projectionMatches => integrity.2
  | requirement => checksAbsent (findingChecks input.roundTwo) requirement

def GateInput.decision (input : GateInput) (passed : ReleaseGateRequirement → Bool) :
    ReleaseGateDecision :=
  let workflowValid := passed .reportChecksumsValid && passed .packageInputChecksumsValid &&
    passed .roundTwoCompleted && passed .projectionMatches
  if !workflowValid || input.manifest.packageStatus == .failed then .failed
  else if input.manifest.packageStatus = .blocked then .blocked
  else if !passed .noCriticalFindings || !passed .noHighFindings then .blocked
  else if input.manifest.packageStatus = .partly then .partly
  else if input.roundTwo.run.status == .findings || !ReleaseGateRequirement.all.all passed then
    .partly
  else .publishable

/-- `tuple(sorted(failed_requirements | finding_reason_codes))` -/
def GateInput.reasonCodes (input : GateInput) (passed : ReleaseGateRequirement → Bool) :
    List String :=
  let failed := (ReleaseGateRequirement.all.filter fun r => !passed r).map (·.value)
  let findings := (findingChecks input.roundTwo).map (·.value)
  (failed ++ findings).dedup.insertionSort (· ≤ ·)

/-! ## Sealing -/

/-- The copy that is sealed. -/
def sealedReport (source : ResearchReport) : ResearchReport :=
  { source with
    id := lib.uuid5 (source.id.chars ++ ':' :: (releaseGateVersion ++ ":publishable".toList))
    reportVersion := source.reportVersion + 1
    previousReportId := some source.id
    status := .publishable }

def buildSealedReport (candidate : AggregateFields) :
    Except RevisionFailure (ResearchReportAggregate lib.uuid5) := do
  let target := sealedReport lib candidate.report
  orOther (validateReportSuccessor candidate.report target)
  rebaseReportBindings lib candidate target

structure ReportReleaseDecisionResult where
  candidateReportId : Uuid
  roundTwoReflectionRunId : Uuid
  gateVersion : Text
  inputManifestChecksum : String
  reportChecksum : String
  internalReleaseStatus : ReleaseGateDecision
  requirements : List (ReleaseGateRequirement × Bool)
  reasonCodes : List String
  sealedReport : Option (ResearchReportAggregate lib.uuid5)

/-- The report is sealed if it is publishable. -/
def sealIf (candidate : AggregateFields) (decision : ReleaseGateDecision) :
    Except RevisionFailure (Option (ResearchReportAggregate lib.uuid5)) :=
  if decision = .publishable then (buildSealedReport lib candidate).map some else .ok none

/-- `ReportReleaseGate.evaluate` -/
def evaluate (candidate : ResearchReportAggregate lib.uuid5) (manifest : ReportInputManifest)
    (roundTwo : ReportReflectionResult) (allowedReportTypes : List ReportType) :
    Except RevisionFailure (ReportReleaseDecisionResult lib) := do
  let input : GateInput := ⟨candidate.report, manifest, roundTwo, allowedReportTypes⟩
  let integrity ← orOther (reportIntegrity lib candidate.report)
  let passed := input.passed integrity
  let decision := input.decision passed
  let result ← sealIf lib candidate.toAggregateFields decision
  return {
    candidateReportId := candidate.report.id
    roundTwoReflectionRunId := roundTwo.run.id
    gateVersion := releaseGateVersion
    inputManifestChecksum := manifest.canonicalPayloadChecksum
    reportChecksum := candidate.report.contentChecksum
    internalReleaseStatus := decision
    requirements := ReleaseGateRequirement.all.map fun r => (r, passed r)
    reasonCodes := input.reasonCodes passed
    sealedReport := result }

end Gate

end StockResearch.Reports
