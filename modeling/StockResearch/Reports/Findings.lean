import StockResearch.Reports.Content

/-!
# Findings of a reflection

The checks of a reflection with their severities and remediations, the findings that it records, and
its run.

A run carries the checks of its contract: the counts of its severities sum to its total, and a run
that passed has no finding.
-/

namespace StockResearch.Reports

open PyText PyTime ResearchAgent

/-! ## Checks -/

inductive ReflectionSeverity where
  | critical | high | medium | low
deriving DecidableEq, Repr

inductive RuntimeReflectionCheck where
  | factualBlockHasClaim | primaryClaimHasEvidence | documentClaimHasValidCitation
  | structuredClaimHasLineage | securityMatches | snapshotMatches | asOfMatches | noFutureEvidence
  | strictDocumentPublishedAtKnown | noRealResearchSyntheticEvidence | noCrossSecurityRecords
  | noCrossSnapshotRecords | conflictingClaimsDisclosed | partialSupportQualified
  | unsupportedClaimsRestricted | blockedCapabilityNotCompleted | dataQualityPresent
  | limitationsPresent | noOrphanBodyReference | noUnusedAppendixReference | citationValid
  | claimSetChecksumMatches | evidenceLinkSetChecksumsMatch | packageChecksumMatches
  | noRatingLanguage | noTargetPrice | noPositionAdvice | noTradingInstruction
  | noUnsupportedOverstatement | fixtureNotDescribedAsLive | syntheticNotRealCompanyResearch
  | excerptWithinPolicy | unitCurrencyMatch | reportAsOfPresent | snapshotIdentityPresent
  | noFalseModelCallClaim | retrievalCapabilityHonest | jsonMarkdownChecksumsMatch
  | reportStructureVersionChainValid | reportInputManifestUnchanged
deriving DecidableEq, Repr

/-- `check.value` -/
def RuntimeReflectionCheck.value : RuntimeReflectionCheck → String
  | .factualBlockHasClaim => "FACTUAL_BLOCK_HAS_CLAIM"
  | .primaryClaimHasEvidence => "PRIMARY_CLAIM_HAS_EVIDENCE"
  | .documentClaimHasValidCitation => "DOCUMENT_CLAIM_HAS_VALID_CITATION"
  | .structuredClaimHasLineage => "STRUCTURED_CLAIM_HAS_LINEAGE"
  | .securityMatches => "SECURITY_MATCHES"
  | .snapshotMatches => "SNAPSHOT_MATCHES"
  | .asOfMatches => "AS_OF_MATCHES"
  | .noFutureEvidence => "NO_FUTURE_EVIDENCE"
  | .strictDocumentPublishedAtKnown => "STRICT_DOCUMENT_PUBLISHED_AT_KNOWN"
  | .noRealResearchSyntheticEvidence => "NO_REAL_RESEARCH_SYNTHETIC_EVIDENCE"
  | .noCrossSecurityRecords => "NO_CROSS_SECURITY_RECORDS"
  | .noCrossSnapshotRecords => "NO_CROSS_SNAPSHOT_RECORDS"
  | .conflictingClaimsDisclosed => "CONFLICTING_CLAIMS_DISCLOSED"
  | .partialSupportQualified => "PARTIAL_SUPPORT_QUALIFIED"
  | .unsupportedClaimsRestricted => "UNSUPPORTED_CLAIMS_RESTRICTED"
  | .blockedCapabilityNotCompleted => "BLOCKED_CAPABILITY_NOT_COMPLETED"
  | .dataQualityPresent => "DATA_QUALITY_PRESENT"
  | .limitationsPresent => "LIMITATIONS_PRESENT"
  | .noOrphanBodyReference => "NO_ORPHAN_BODY_REFERENCE"
  | .noUnusedAppendixReference => "NO_UNUSED_APPENDIX_REFERENCE"
  | .citationValid => "CITATION_VALID"
  | .claimSetChecksumMatches => "CLAIM_SET_CHECKSUM_MATCHES"
  | .evidenceLinkSetChecksumsMatch => "EVIDENCE_LINK_SET_CHECKSUMS_MATCH"
  | .packageChecksumMatches => "PACKAGE_CHECKSUM_MATCHES"
  | .noRatingLanguage => "NO_RATING_LANGUAGE"
  | .noTargetPrice => "NO_TARGET_PRICE"
  | .noPositionAdvice => "NO_POSITION_ADVICE"
  | .noTradingInstruction => "NO_TRADING_INSTRUCTION"
  | .noUnsupportedOverstatement => "NO_UNSUPPORTED_OVERSTATEMENT"
  | .fixtureNotDescribedAsLive => "FIXTURE_NOT_DESCRIBED_AS_LIVE"
  | .syntheticNotRealCompanyResearch => "SYNTHETIC_NOT_REAL_COMPANY_RESEARCH"
  | .excerptWithinPolicy => "EXCERPT_WITHIN_POLICY"
  | .unitCurrencyMatch => "UNIT_CURRENCY_MATCH"
  | .reportAsOfPresent => "REPORT_AS_OF_PRESENT"
  | .snapshotIdentityPresent => "SNAPSHOT_IDENTITY_PRESENT"
  | .noFalseModelCallClaim => "NO_FALSE_MODEL_CALL_CLAIM"
  | .retrievalCapabilityHonest => "RETRIEVAL_CAPABILITY_HONEST"
  | .jsonMarkdownChecksumsMatch => "JSON_MARKDOWN_CHECKSUMS_MATCH"
  | .reportStructureVersionChainValid => "REPORT_STRUCTURE_VERSION_CHAIN_VALID"
  | .reportInputManifestUnchanged => "REPORT_INPUT_MANIFEST_UNCHANGED"

/-- The checks in the order of the policy. -/
def RuntimeReflectionCheck.all : List RuntimeReflectionCheck :=
  [.factualBlockHasClaim, .primaryClaimHasEvidence, .documentClaimHasValidCitation,
    .structuredClaimHasLineage, .securityMatches, .snapshotMatches, .asOfMatches,
    .noFutureEvidence, .strictDocumentPublishedAtKnown, .noRealResearchSyntheticEvidence,
    .noCrossSecurityRecords, .noCrossSnapshotRecords, .conflictingClaimsDisclosed,
    .partialSupportQualified, .unsupportedClaimsRestricted, .blockedCapabilityNotCompleted,
    .dataQualityPresent, .limitationsPresent, .noOrphanBodyReference, .noUnusedAppendixReference,
    .citationValid, .claimSetChecksumMatches, .evidenceLinkSetChecksumsMatch,
    .packageChecksumMatches, .noRatingLanguage, .noTargetPrice, .noPositionAdvice,
    .noTradingInstruction, .noUnsupportedOverstatement, .fixtureNotDescribedAsLive,
    .syntheticNotRealCompanyResearch, .excerptWithinPolicy, .unitCurrencyMatch,
    .reportAsOfPresent, .snapshotIdentityPresent, .noFalseModelCallClaim,
    .retrievalCapabilityHonest, .jsonMarkdownChecksumsMatch, .reportStructureVersionChainValid,
    .reportInputManifestUnchanged]

inductive ReportRevisionActionCode where
  | deleteUnboundFactBlock | deleteUnsupportedFactBlock | downgradePartialLanguage
  | moveConflictToConflicts | moveUnsupportedToAppendix | moveBlockedToLimitations
  | addDataQualityFromExistingState | addLimitationsFromExistingState | renumberExistingReferences
  | removeInvalidCitationBlock | removeForbiddenAdviceText | truncateExistingExcerpt
  | fixDeterministicFormat
deriving DecidableEq, Repr

/-- `action_code.value` -/
def ReportRevisionActionCode.value : ReportRevisionActionCode → String
  | .deleteUnboundFactBlock => "DELETE_UNBOUND_FACT_BLOCK"
  | .deleteUnsupportedFactBlock => "DELETE_UNSUPPORTED_FACT_BLOCK"
  | .downgradePartialLanguage => "DOWNGRADE_PARTIAL_LANGUAGE"
  | .moveConflictToConflicts => "MOVE_CONFLICT_TO_CONFLICTS"
  | .moveUnsupportedToAppendix => "MOVE_UNSUPPORTED_TO_APPENDIX"
  | .moveBlockedToLimitations => "MOVE_BLOCKED_TO_LIMITATIONS"
  | .addDataQualityFromExistingState => "ADD_DATA_QUALITY_FROM_EXISTING_STATE"
  | .addLimitationsFromExistingState => "ADD_LIMITATIONS_FROM_EXISTING_STATE"
  | .renumberExistingReferences => "RENUMBER_EXISTING_REFERENCES"
  | .removeInvalidCitationBlock => "REMOVE_INVALID_CITATION_BLOCK"
  | .removeForbiddenAdviceText => "REMOVE_FORBIDDEN_ADVICE_TEXT"
  | .truncateExistingExcerpt => "TRUNCATE_EXISTING_EXCERPT"
  | .fixDeterministicFormat => "FIX_DETERMINISTIC_FORMAT"

def ReportRevisionActionCode.all : List ReportRevisionActionCode :=
  [.deleteUnboundFactBlock, .deleteUnsupportedFactBlock, .downgradePartialLanguage,
    .moveConflictToConflicts, .moveUnsupportedToAppendix, .moveBlockedToLimitations,
    .addDataQualityFromExistingState, .addLimitationsFromExistingState,
    .renumberExistingReferences, .removeInvalidCitationBlock, .removeForbiddenAdviceText,
    .truncateExistingExcerpt, .fixDeterministicFormat]

/-- `ReportRevisionActionCode(text)` -/
def ReportRevisionActionCode.ofValue (s : String) : Option ReportRevisionActionCode :=
  all.find? fun code => code.value == s

/-- `RuntimeReflectionCheck(text)` -/
def RuntimeReflectionCheck.ofValue (s : String) : Option RuntimeReflectionCheck :=
  all.find? fun check => check.value == s

/-- `_MINIMUM_SEVERITIES` -/
def RuntimeReflectionCheck.minimumSeverity : RuntimeReflectionCheck → ReflectionSeverity
  | .securityMatches | .snapshotMatches | .asOfMatches | .noFutureEvidence
  | .noRealResearchSyntheticEvidence | .noCrossSecurityRecords | .noCrossSnapshotRecords
  | .claimSetChecksumMatches | .evidenceLinkSetChecksumsMatch | .packageChecksumMatches
  | .noRatingLanguage | .noTargetPrice | .noPositionAdvice | .noTradingInstruction
  | .syntheticNotRealCompanyResearch | .jsonMarkdownChecksumsMatch
  | .reportStructureVersionChainValid | .reportInputManifestUnchanged => .critical
  | .partialSupportQualified | .noOrphanBodyReference | .noUnusedAppendixReference
  | .excerptWithinPolicy | .unitCurrencyMatch => .medium
  | _ => .high

/-- `_REVISION_REMEDIATIONS` -/
def RuntimeReflectionCheck.revision : RuntimeReflectionCheck → Option ReportRevisionActionCode
  | .factualBlockHasClaim | .primaryClaimHasEvidence | .structuredClaimHasLineage => some .deleteUnboundFactBlock
  | .documentClaimHasValidCitation | .citationValid => some .removeInvalidCitationBlock
  | .conflictingClaimsDisclosed => some .moveConflictToConflicts
  | .partialSupportQualified => some .downgradePartialLanguage
  | .unsupportedClaimsRestricted => some .moveUnsupportedToAppendix
  | .blockedCapabilityNotCompleted => some .moveBlockedToLimitations
  | .dataQualityPresent => some .addDataQualityFromExistingState
  | .limitationsPresent => some .addLimitationsFromExistingState
  | .noOrphanBodyReference | .noUnusedAppendixReference => some .renumberExistingReferences
  | .noRatingLanguage | .noTargetPrice | .noPositionAdvice | .noTradingInstruction
  | .noUnsupportedOverstatement | .noFalseModelCallClaim => some .removeForbiddenAdviceText
  | .excerptWithinPolicy => some .truncateExistingExcerpt
  | .jsonMarkdownChecksumsMatch => some .fixDeterministicFormat
  | _ => none

/-- The remediation of a rule: `REMEDIATE_…` for a check that no revision mends. -/
def RuntimeReflectionCheck.remediationCode (check : RuntimeReflectionCheck) : String :=
  match check.revision with
  | some code => code.value
  | none => "REMEDIATE_" ++ check.value

def ReflectionSeverity.blocking : ReflectionSeverity → Bool
  | .critical | .high => true
  | .medium | .low => false

/-! ## Runs and their findings -/

inductive ReportReflectionStatus where
  | running | pass | findings | blocked | failed
deriving DecidableEq, Repr

/-- The fields of a `ReportReflectionRunRecord` that its outcome consists of. -/
structure ReflectionOutcome where
  status : ReportReflectionStatus
  totalFindingCount : Nat
  criticalCount : Nat
  highCount : Nat
  mediumCount : Nat
  lowCount : Nat
  blockedReasonCode : Option String
  errorCode : Option String
  safeErrorMessage : Option String
  completedAt : Option Instant
deriving DecidableEq

/-- `_validate_reflection_outcome` -/
structure ReflectionOutcome.Valid (o : ReflectionOutcome) : Prop where
  counts : o.totalFindingCount = o.criticalCount + o.highCount + o.mediumCount + o.lowCount
  running : o.status = .running → o.totalFindingCount = 0 ∧ o.blockedReasonCode = none ∧
    o.errorCode = none ∧ o.safeErrorMessage = none ∧ o.completedAt = none
  completed : o.status ≠ .running → o.completedAt ≠ none
  pass : o.status = .pass → o.totalFindingCount = 0
  findings : o.status = .findings → o.totalFindingCount ≠ 0
  blocked : o.status = .blocked → o.blockedReasonCode ≠ none
  failed : o.status = .failed → o.errorCode ≠ none ∧ o.safeErrorMessage ≠ none
  safe : o.status ≠ .failed → o.errorCode = none ∧ o.safeErrorMessage = none

/-- `ReportReflectionRunRecord`, with `require_consistent_state`. -/
structure ReportReflectionRunRecord extends ReflectionOutcome where
  id : Uuid
  researchReportId : Uuid
  roundNumber : Nat
  inputReportChecksum : String
  valid : toReflectionOutcome.Valid

/-- A `ReportReflectionFindingRecord` as the gate and the revision read it. -/
structure ReportReflectionFindingRecord where
  id : Uuid
  findingCode : String
  severity : ReflectionSeverity
  description : Text
  remediationCode : String
  blockKey : Option Text
deriving DecidableEq

/-- `ReportReflectionResult` -/
structure ReportReflectionResult where
  run : ReportReflectionRunRecord
  findingIds : List Uuid
  findings : List ReportReflectionFindingRecord

end StockResearch.Reports
