import StockResearch.Core.Canonical
import StockResearch.Core.Calendar
import StockResearch.Core.Uuid

/-!
# The contracts of controlled research

The closed vocabularies and the immutable records that planning, execution and the claim pipeline
pass to each other.

* `ResearchStepDefinition`, `ResearchPlanDraft`: a finite plan.
* `ToolCatalogSnapshot`, `ResearchPolicyRecord`: which tools a run may call, and its maxima.
* `RequestedBudgets`, `RunBudget`: what a request asks for, and what a run has consumed.
* `ResearchRequestRecord`, `ResearchAgentRunRecord`, `ResearchStepRecord`: the persisted rows.
-/

namespace StockResearch.ResearchAgent

open PyJson PyTime

/-! ## Vocabularies -/

inductive ResearchType where
  | companyOverview
  | financialHealth
  | valuationSnapshot
  | catalystsAndRisks
  | dataQualityReview
  | fullResearchPackage
deriving DecidableEq, Repr

/-- `research_type.value` -/
def ResearchType.value : ResearchType → String
  | .companyOverview => "COMPANY_OVERVIEW"
  | .financialHealth => "FINANCIAL_HEALTH"
  | .valuationSnapshot => "VALUATION_SNAPSHOT"
  | .catalystsAndRisks => "CATALYSTS_AND_RISKS"
  | .dataQualityReview => "DATA_QUALITY_REVIEW"
  | .fullResearchPackage => "FULL_RESEARCH_PACKAGE"

inductive ResearchSection where
  | securityIdentity
  | dataAvailability
  | financialHealth
  | valuationSnapshot
  | documentEvidence
  | catalystEvidence
  | riskEvidence
  | corporateActions
  | dataQuality
  | limitations
deriving DecidableEq, Repr

/-- `section.value` -/
def ResearchSection.value : ResearchSection → String
  | .securityIdentity => "SECURITY_IDENTITY"
  | .dataAvailability => "DATA_AVAILABILITY"
  | .financialHealth => "FINANCIAL_HEALTH"
  | .valuationSnapshot => "VALUATION_SNAPSHOT"
  | .documentEvidence => "DOCUMENT_EVIDENCE"
  | .catalystEvidence => "CATALYST_EVIDENCE"
  | .riskEvidence => "RISK_EVIDENCE"
  | .corporateActions => "CORPORATE_ACTIONS"
  | .dataQuality => "DATA_QUALITY"
  | .limitations => "LIMITATIONS"

inductive ResearchMode where
  | realResearch
  | syntheticTestOnly
deriving DecidableEq, Repr

inductive ResearchRunStatus where
  | created
  | planning
  | planned
  | running
  | paused
  | completed
  | partly
  | blocked
  | failed
  | cancelled
deriving DecidableEq, Repr

inductive ResearchStepStatus where
  | pending
  | ready
  | running
  | pass
  | partly
  | blocked
  | fail
  | skipped
deriving DecidableEq, Repr

/-- The statuses that `execute` skips and `resume` counts as completed. -/
def ResearchStepStatus.terminal : ResearchStepStatus → Bool
  | .pass | .partly | .blocked | .fail | .skipped => true
  | .pending | .ready | .running => false

inductive ResearchStepType where
  | resolveSecurity
  | loadSnapshot
  | queryStructuredData
  | queryDocumentEvidence
  | validateEvidence
  | buildClaims
  | validateClaims
  | assemblePackage
deriving DecidableEq, Repr

/-- `step_type.value` -/
def ResearchStepType.value : ResearchStepType → String
  | .resolveSecurity => "RESOLVE_SECURITY"
  | .loadSnapshot => "LOAD_SNAPSHOT"
  | .queryStructuredData => "QUERY_STRUCTURED_DATA"
  | .queryDocumentEvidence => "QUERY_DOCUMENT_EVIDENCE"
  | .validateEvidence => "VALIDATE_EVIDENCE"
  | .buildClaims => "BUILD_CLAIMS"
  | .validateClaims => "VALIDATE_CLAIMS"
  | .assemblePackage => "ASSEMBLE_PACKAGE"

inductive ObservationStatus where
  | pass
  | partly
  | blocked
  | fail
deriving DecidableEq, Repr

/-! ## Plans -/

structure ResearchStepDefinition where
  stepIndex : Nat
  stepKey : String
  stepType : ResearchStepType
  title : String
  required : Bool
  dependencyKeys : List String
  toolName : Option String
  toolVersion : Option String
  componentName : Option String
  inputBinding : List (String × Value)
  fanoutLimit : Nat

structure ResearchPlanDraft where
  plannerVersion : String
  planVersion : String
  toolCatalogVersion : String
  steps : List ResearchStepDefinition
  /-- `Field(min_length=1, max_length=20)` -/
  bounded : 1 ≤ steps.length ∧ steps.length ≤ 20

/-- An optional text in a dumped record. -/
def optionalText : Option String → Value
  | none => .null
  | some text => .str text

/-- `step.model_dump(mode="python")`, normalized. -/
def ResearchStepDefinition.dump (step : ResearchStepDefinition) : Value :=
  .obj [("step_index", .int step.stepIndex), ("step_key", .str step.stepKey),
    ("step_type", .str step.stepType.value), ("title", .str step.title),
    ("required", .bool step.required),
    ("dependency_keys", .arr (step.dependencyKeys.map .str)),
    ("tool_name", optionalText step.toolName), ("tool_version", optionalText step.toolVersion),
    ("component_name", optionalText step.componentName),
    ("input_binding", .obj step.inputBinding), ("fanout_limit", .int step.fanoutLimit)]

/-- `draft.model_dump(mode="python")`, normalized. -/
def ResearchPlanDraft.dump (draft : ResearchPlanDraft) : Value :=
  .obj [("planner_version", .str draft.plannerVersion), ("plan_version", .str draft.planVersion),
    ("tool_catalog_version", .str draft.toolCatalogVersion),
    ("steps", .arr (draft.steps.map ResearchStepDefinition.dump))]

/-! ## Tools and policies -/

/-- A tool and its version, as a policy names them. -/
structure AllowedTool where
  toolName : String
  toolVersion : String
deriving DecidableEq, Repr

/-- An entry of the tool catalog.  Its permission and its three flags have one admitted value
each. -/
structure ToolCatalogEntry where
  toolName : String
  toolVersion : String
deriving DecidableEq, Repr

structure ToolCatalogSnapshot where
  catalogVersion : String
  catalogChecksum : String
  entries : List ToolCatalogEntry

structure ResearchPolicyRecord where
  version : String
  allowedTools : List AllowedTool
  deniedTools : List AllowedTool
  maxSteps : Nat
  maxToolCalls : Nat
  maxCallsPerTool : Nat
  maxRetriesPerStep : Nat
  maxDurationSeconds : Nat
  reusePartialRuns : Bool

/-! ## Requests and budgets -/

/-- The maxima that a request may ask for. -/
structure RequestedBudgets where
  maxSteps : Option Nat
  maxToolCalls : Option Nat
  maxCallsPerTool : Option Nat
  maxRetriesPerStep : Option Nat
  maxDurationSeconds : Option Nat
deriving DecidableEq, Repr

structure ResearchRequestRecord where
  id : Uuid
  resolvedSecurityId : Uuid
  normalizedSecurityQuery : String
  researchType : ResearchType
  snapshotId : Uuid
  researchAsOfTime : Instant
  requestedSections : List ResearchSection
  policyVersion : String
  plannerVersion : String
  requestedBudgets : RequestedBudgets
  researchMode : ResearchMode
  toolCatalogVersion : String
  toolCatalogChecksum : String
deriving DecidableEq

/-- The maxima of a run and what it has consumed.  The counts by tool and by step are dictionaries
read with `get(key, 0)`. -/
structure RunBudget where
  maxSteps : Nat
  maxToolCalls : Nat
  maxCallsPerTool : Nat
  maxRetriesPerStep : Nat
  maxDurationSeconds : Nat
  consumedSteps : Nat
  consumedToolCalls : Nat
  callsPerTool : String → Nat
  retriesPerStep : String → Nat

structure ResearchAgentRunRecord where
  id : Uuid
  requestId : Uuid
  securityId : Uuid
  snapshotId : Uuid
  researchAsOfTime : Instant
  status : ResearchRunStatus
  policyVersion : String
  plannerVersion : String
  toolCatalogVersion : String
  toolCatalogChecksum : String
  idempotencyKey : String
  budget : RunBudget
  warningCodes : List String
  createdAt : Instant

/-- A persisted step of a plan. -/
structure ResearchStepRecord where
  id : Uuid
  runId : Uuid
  planId : Uuid
  definition : ResearchStepDefinition
  status : ResearchStepStatus

/-- What a tool call of a run is bound to. -/
structure ControlledRunContext where
  securityId : Uuid
  snapshotId : Uuid
  researchAsOfTime : Instant
  researchAgentRunId : Uuid
  researchRequestId : Uuid
  policyVersion : String
  toolCatalogVersion : String

/-- The last day of 2024, at midnight: a time for concrete rows. -/
def yearEnd : Instant :=
  ⟨⟨2024, 12, 31, validYear_2024, validMonth_12, validDay_2024_12_31⟩, 0, 0, 0, 0, validHour_0,
    validMinute_0, validMinute_0, validMicrosecond_0⟩

/-- A text of the form of a checksum. -/
def zeroChecksum : String :=
  "0000000000000000000000000000000000000000000000000000000000000000"

end StockResearch.ResearchAgent
