import StockResearch.ResearchAgent.Claims
import Mathlib.Data.List.Sort

/-!
# Research packages

`ResearchPackageAssembler` sorts the claims of a run into sections, gives every section and the
package a status, and seals the result with a checksum over everything but the identifier, the
checksum itself and the time of creation.

A claim belongs to one section, `claimSection`.  A section that was not requested holds no claims,
so a claim of such a section stands nowhere in the package.
-/

namespace StockResearch.ResearchAgent

open PyJson PyTime Checked

inductive ResearchPackageStatus where
  | complete
  | partly
  | blocked
  | failed
deriving DecidableEq, Repr

/-- `status.value` -/
def ResearchPackageStatus.value : ResearchPackageStatus → String
  | .complete => "COMPLETE"
  | .partly => "PARTIAL"
  | .blocked => "BLOCKED"
  | .failed => "FAILED"

inductive PackageSectionStatus where
  | pass
  | notRequested
  | noEvidence
  | blocked
  | partly
deriving DecidableEq, Repr

/-- `status.value` -/
def PackageSectionStatus.value : PackageSectionStatus → String
  | .pass => "PASS"
  | .notRequested => "NOT_REQUESTED"
  | .noEvidence => "NO_EVIDENCE"
  | .blocked => "BLOCKED"
  | .partly => "PARTIAL"

/-- The sections in the order of their declaration. -/
def researchSections : List ResearchSection :=
  [.securityIdentity, .dataAvailability, .financialHealth, .valuationSnapshot, .documentEvidence,
    .catalystEvidence, .riskEvidence, .corporateActions, .dataQuality, .limitations]

lemma mem_researchSections (reportSection : ResearchSection) :
    reportSection ∈ researchSections := by
  cases reportSection <;> decide

structure ResearchPackageSection where
  kind : ResearchSection
  status : PackageSectionStatus
  claimIds : List Uuid
  warningCodes : List String
deriving DecidableEq

/-- The context that a package repeats from its run and its request. -/
structure PackageContext where
  runId : Uuid
  requestId : Uuid
  securityId : Uuid
  snapshotId : Uuid
  researchAsOfTime : Instant
  researchType : ResearchType
  policyVersion : String
  plannerVersion : String
  toolCatalogVersion : String
deriving DecidableEq

/-- What a package says, without its identifier, its checksum and its time. -/
structure PackageContent where
  context : PackageContext
  status : ResearchPackageStatus
  sections : List ResearchPackageSection
  evidenceIds : List Uuid
  unsupportedClaimIds : List Uuid
  conflictingClaimIds : List Uuid
  blockedCapabilities : List String
  warnings : List String
deriving DecidableEq

structure ResearchPackageRecord where
  id : Uuid
  content : PackageContent
  checksum : String
  createdAt : Instant
deriving DecidableEq

/-! ## The checksum -/

/-- A tuple of identifiers, dumped. -/
def dumpIds (ids : List Uuid) : Value := .arr (ids.map fun id => .str id.str)

def dumpCodes (codes : List String) : Value := .arr (codes.map .str)

/-- `section.model_dump(mode="python")`, normalized. -/
def ResearchPackageSection.dump (s : ResearchPackageSection) : Value :=
  .obj [("section", .str s.kind.value), ("status", .str s.status.value),
    ("claim_ids", dumpIds s.claimIds), ("warning_codes", dumpCodes s.warningCodes)]

/-- The values that the checksum of a package covers, normalized. -/
def PackageContent.dump (p : PackageContent) : Value :=
  .obj [("run_id", .str p.context.runId.str), ("request_id", .str p.context.requestId.str),
    ("security_id", .str p.context.securityId.str), ("snapshot_id", .str p.context.snapshotId.str),
    ("research_as_of_time", .str p.context.researchAsOfTime.isoformat),
    ("research_type", .str p.context.researchType.value),
    ("policy_version", .str p.context.policyVersion),
    ("planner_version", .str p.context.plannerVersion),
    ("tool_catalog_version", .str p.context.toolCatalogVersion),
    ("evidence_version", .str "evidence-v1"), ("claim_version", .str "claim-v1"),
    ("package_version", .str "research-package-v1"), ("status", .str p.status.value),
    ("sections", .arr (p.sections.map ResearchPackageSection.dump)),
    ("evidence_ids", dumpIds p.evidenceIds),
    ("unsupported_claim_ids", dumpIds p.unsupportedClaimIds),
    ("conflicting_claim_ids", dumpIds p.conflictingClaimIds),
    ("blocked_capabilities", dumpCodes p.blockedCapabilities), ("warnings", dumpCodes p.warnings)]

/-! ## Assembly -/

def claimSection (claim : ResearchClaimRecord) : ResearchSection :=
  match claim.claimType with
  | .identity => .securityIdentity
  | .financialFact | .financialMetric => .financialHealth
  | .valuationMetric => .valuationSnapshot
  | .documentDisclosure =>
      if "CATALYST_".toList.isPrefixOf claim.statementCode.toList then .catalystEvidence
      else if "RISK_".toList.isPrefixOf claim.statementCode.toList then .riskEvidence
      else .documentEvidence
  | .corporateAction => .corporateActions
  | .dataQuality => .dataQuality
  | .limitation => .limitations

/-- The claims in the order of the texts of their identifiers, which is the order of the
identifiers. -/
def sortClaims (claims : List ResearchClaimRecord) : List ResearchClaimRecord :=
  claims.insertionSort fun a b => a.id ≤ b.id

/-- The status and the warnings of a section with the given claims. -/
def sectionStatus (selected : List ResearchClaimRecord) : PackageSectionStatus × List String :=
  let support := selected.map (·.supportStatus)
  if support.all (· = some .supported) then (.pass, [])
  else if support.all (· = some .blocked) then (.blocked, ["BLOCKED_CLAIMS"])
  else (.partly,
    if some .conflicting ∈ support then ["CONFLICTING_CLAIMS"]
    else if some .unsupported ∈ support then ["UNSUPPORTED_CLAIMS"]
    else if some .blocked ∈ support then ["BLOCKED_CLAIMS"]
    else ["PARTIALLY_SUPPORTED_CLAIMS"])

/-- `_section` -/
def packageSection (requested : List ResearchSection) (claims : List ResearchClaimRecord)
    (kind : ResearchSection) : ResearchPackageSection :=
  if kind ∉ requested then ⟨kind, .notRequested, [], []⟩
  else
    let selected := sortClaims (claims.filter fun claim => claimSection claim = kind)
    if selected = [] then ⟨kind, .noEvidence, [], []⟩
    else
      let (status, warnings) := sectionStatus selected
      ⟨kind, status, selected.map (·.id), warnings⟩

def packageStatus (sections : List ResearchPackageSection) (requested : List ResearchSection)
    (runFailed : Bool) : ResearchPackageStatus :=
  let active := (sections.filter (·.kind ∈ requested)).map (·.status)
  if runFailed then .failed
  else if active ≠ [] ∧ active.all (· = .pass) then .complete
  else if active ≠ [] ∧ active.all (fun s => s = .blocked || s = .noEvidence) then .blocked
  else .partly

/-- The identifiers of the claims with the given support, sorted. -/
def claimIdsWith (claims : List ResearchClaimRecord) (support : ClaimSupportStatus) : List Uuid :=
  ((claims.filter (·.supportStatus = some support)).map (·.id)).insertionSort (· ≤ ·)

/-- The content that `assemble` puts together. -/
def packageContent (context : PackageContext) (requested : List ResearchSection)
    (claims : List ResearchClaimRecord) (evidence : List ResearchEvidenceRecord)
    (blockedCapabilities warnings : List String) (runFailed : Bool) : PackageContent :=
  let sections := researchSections.map (packageSection requested claims)
  { context
    status := packageStatus sections requested runFailed
    sections
    evidenceIds := ((evidence.map (·.id)).dedup).insertionSort (· ≤ ·)
    unsupportedClaimIds := claimIdsWith claims .unsupported
    conflictingClaimIds := claimIdsWith claims .conflicting
    blockedCapabilities
    warnings }

/-- The bounds of `ResearchPackageSection` and `ResearchPackageWrite`. -/
def PackageContent.Bounded (p : PackageContent) : Prop :=
  (∀ s ∈ p.sections, s.claimIds.length ≤ 100) ∧ p.evidenceIds.length ≤ 500 ∧
    p.unsupportedClaimIds.length ≤ 100 ∧ p.conflictingClaimIds.length ≤ 100 ∧
    p.blockedCapabilities.length ≤ 100 ∧ p.warnings.length ≤ 100 ∧
    (∀ code ∈ p.blockedCapabilities, isCode code = true) ∧
    ∀ code ∈ p.warnings, isCode code = true

instance (p : PackageContent) : Decidable p.Bounded :=
  inferInstanceAs (Decidable ((∀ s ∈ p.sections, s.claimIds.length ≤ 100) ∧ _))

/-- `ResearchPackageAssembler.assemble` -/
def assemble (hash : IdealHash) (packageId : Uuid) (context : PackageContext)
    (requested : List ResearchSection) (claims : List ResearchClaimRecord)
    (evidence : List ResearchEvidenceRecord) (blockedCapabilities warnings : List String)
    (runFailed : Bool) (createdAt : Instant) : Except String ResearchPackageRecord := do
  let content :=
    packageContent context requested claims evidence blockedCapabilities warnings runFailed
  check (¬ content.Bounded) "ValidationError"
  return { id := packageId, content, checksum := hash.checksum content.dump, createdAt }

lemma assemble_ok {hash : IdealHash} {packageId : Uuid} {context : PackageContext}
    {requested : List ResearchSection} {claims : List ResearchClaimRecord}
    {evidence : List ResearchEvidenceRecord} {blockedCapabilities warnings : List String}
    {runFailed : Bool} {createdAt : Instant} {package : ResearchPackageRecord} :
    assemble hash packageId context requested claims evidence blockedCapabilities warnings
        runFailed createdAt = .ok package ↔
      (packageContent context requested claims evidence blockedCapabilities warnings
          runFailed).Bounded ∧
        package = ⟨packageId, packageContent context requested claims evidence blockedCapabilities
          warnings runFailed, hash.checksum (packageContent context requested claims evidence
            blockedCapabilities warnings runFailed).dump, createdAt⟩ := by
  rw [assemble, check_bind_ok, not_not]
  constructor
  · rintro ⟨hbounded, hret⟩
    cases hret
    exact ⟨hbounded, rfl⟩
  · rintro ⟨hbounded, rfl⟩
    exact ⟨hbounded, rfl⟩

end StockResearch.ResearchAgent
