import StockResearch.ResearchAgent.Schemas
import StockResearch.Core.Checked
import StockResearch.Core.Chronology
import StockResearch.Core.Table

/-!
# The evidence ledger

Every observation of a run becomes one evidence record.  `EvidenceLedgerService` admits all of them
and assigns the status that decides whether a claim may rest on it.  Identifiers are unique in the
ledger, and `listEvidence` reads the records of one run.

**`classify_valid`**: what a record with the status `VALID` has passed.
-/

namespace StockResearch.ResearchAgent

open PyJson PyTime Checked Txn

inductive EvidenceType where
  | securityMaster
  | snapshot
  | structuredFact
  | derivedMetric
  | metricLineage
  | documentCitation
  | corporateAction
  | dataQuality
  | blockedCapability
deriving DecidableEq, Repr

inductive EvidenceStatus where
  | valid
  | invalid
  | futureData
  | sourceMissing
  | conflicting
  | blocked
deriving DecidableEq, Repr

inductive SyntheticStatus where
  | realVerified
  | fixtureRealExcerpt
  | syntheticTestOnly
  | unknown
deriving DecidableEq, Repr

/-- The two origins that real research may not rest on. -/
def SyntheticStatus.synthetic : SyntheticStatus → Bool
  | .syntheticTestOnly | .unknown => true
  | .realVerified | .fixtureRealExcerpt => false

/-- A dictionary with JSON values. -/
abbrev Payload := List (String × Value)

/-- `payload.get(key)` -/
def Payload.get (payload : Payload) (key : String) : Option Value := (Value.obj payload).get? key

/-- `payload[key]`, if it is a string. -/
def Payload.text (payload : Payload) (key : String) : Option String :=
  match payload.get key with
  | some (.str s) => some s
  | _ => none

/-- `payload.get(key) == text` -/
def Payload.holds (payload : Payload) (key text : String) : Bool := payload.text key = some text

structure ResearchEvidenceRecord where
  id : Uuid
  runId : Uuid
  evidenceType : EvidenceType
  status : EvidenceStatus
  securityId : Uuid
  snapshotId : Uuid
  researchAsOfTime : Instant
  sourceChecksum : Option String
  publishedAt : Option Instant
  citationId : Option Uuid
  calculationRunId : Option Uuid
  calculationInputIds : List Uuid
  formulaVersion : Option String
  syntheticStatus : SyntheticStatus
  payload : Payload
  warningCodes : List String
  createdAt : Instant

instance : Schema ResearchEvidenceRecord where
  clash a b := a.id = b.id
  check _ := True
  clash_symm _ _ h := h.symm
  decClash _ _ := inferInstance
  decCheck _ := inferInstance

/-- The order of `list_evidence`. -/
def evidenceLE (a b : ResearchEvidenceRecord) : Prop :=
  a.createdAt < b.createdAt ∨ (a.createdAt = b.createdAt ∧ a.id ≤ b.id)

instance : DecidableRel evidenceLE := fun a b =>
  inferInstanceAs (Decidable (a.createdAt < b.createdAt ∨ (a.createdAt = b.createdAt ∧ a.id ≤ b.id)))

def listEvidence (ledger : Table ResearchEvidenceRecord) (runId : Uuid) :
    List ResearchEvidenceRecord :=
  (ledger.select (·.runId = runId)).insertionSort evidenceLE

lemma mem_listEvidence {ledger : Table ResearchEvidenceRecord} {runId : Uuid}
    {item : ResearchEvidenceRecord} :
    item ∈ listEvidence ledger runId ↔ item ∈ ledger.rows ∧ item.runId = runId := by
  rw [listEvidence, List.mem_insertionSort, Table.mem_select, decide_eq_true_eq]

lemma listEvidence_ids_nodup (ledger : Table ResearchEvidenceRecord) (runId : Uuid) :
    ((listEvidence ledger runId).map (·.id)).Nodup := by
  have hperm := (List.perm_insertionSort evidenceLE (ledger.select (·.runId = runId))).map (·.id)
  refine hperm.nodup_iff.mpr (List.Nodup.sublist (List.filter_sublist.map _) ?_)
  exact List.pairwise_map.mpr ledger.keyed

/-- What admission reads of an observation. -/
structure ResearchObservationRecord where
  runId : Uuid
  securityId : Uuid
  snapshotId : Uuid
  researchAsOfTime : Instant

/-- The ancestry of an observation, as a repository adapter loaded it. -/
structure EvidenceSource where
  checksum : String
  expectedChecksum : String
  found : Bool
  securityId : Uuid
  snapshotId : Uuid
  publishedAt : Option Instant
  citationId : Option Uuid
  citationValid : Option Bool
  calculationRunId : Option Uuid
  calculationInputIds : List Uuid
  formulaVersion : Option String
  metricLineageValid : Option Bool
  payload : Payload

/-! ## Admission -/

/-- The rules of `_classify`, in their order: the first that applies gives the status and the
warning. -/
def classifyRules (context : ControlledRunContext) (observation : ResearchObservationRecord)
    (evidenceType : EvidenceType) (source : EvidenceSource) (syntheticStatus : SyntheticStatus)
    (realResearch : Bool) : Except (EvidenceStatus × String) Unit := do
  check (evidenceType = .blockedCapability) (.blocked, "BLOCKED_CAPABILITY")
  check (observation.runId ≠ context.researchAgentRunId) (.invalid, "OBSERVATION_RUN_MISMATCH")
  check (observation.securityId ≠ context.securityId) (.invalid, "OBSERVATION_SECURITY_MISMATCH")
  check (observation.snapshotId ≠ context.snapshotId) (.invalid, "OBSERVATION_SNAPSHOT_MISMATCH")
  check (observation.researchAsOfTime ≠ context.researchAsOfTime)
    (.invalid, "OBSERVATION_AS_OF_MISMATCH")
  check (realResearch = true ∧ syntheticStatus.synthetic = true)
    (.invalid, "SYNTHETIC_EVIDENCE_FOR_REAL_RUN")
  check (source.found = false) (.sourceMissing, "SOURCE_RECORD_MISSING")
  check (source.checksum ≠ source.expectedChecksum) (.invalid, "SOURCE_CHECKSUM_MISMATCH")
  check (source.securityId ≠ context.securityId) (.invalid, "EVIDENCE_SECURITY_MISMATCH")
  check (source.snapshotId ≠ context.snapshotId) (.invalid, "EVIDENCE_SNAPSHOT_MISMATCH")
  check (∃ t ∈ source.publishedAt, context.researchAsOfTime < t) (.futureData, "FUTURE_DATA")
  check (evidenceType = .documentCitation ∧ source.citationId = none)
    (.invalid, "CITATION_MISSING")
  check (evidenceType = .documentCitation ∧ source.citationValid ≠ some true)
    (.invalid, "INVALID_CITATION")
  check (evidenceType = .documentCitation ∧ source.publishedAt = none)
    (.invalid, "PUBLISHED_AT_UNKNOWN")
  check ((evidenceType = .derivedMetric ∨ evidenceType = .metricLineage) ∧
      (source.calculationRunId = none ∨ source.calculationInputIds = [] ∨
        source.formulaVersion = none ∨ source.metricLineageValid ≠ some true))
    (.invalid, "INVALID_METRIC_LINEAGE")

def classify (context : ControlledRunContext) (observation : ResearchObservationRecord)
    (evidenceType : EvidenceType) (source : EvidenceSource) (syntheticStatus : SyntheticStatus)
    (realResearch : Bool) : EvidenceStatus × List String :=
  match classifyRules context observation evidenceType source syntheticStatus realResearch with
  | .ok () => (.valid, [])
  | .error (status, warning) => (status, [warning])

/-- `EvidenceLedgerService.admit` -/
def admitEvidence (evidenceId : Uuid) (context : ControlledRunContext)
    (observation : ResearchObservationRecord) (evidenceType : EvidenceType)
    (source : EvidenceSource) (syntheticStatus : SyntheticStatus) (realResearch : Bool)
    (createdAt : Instant) : ResearchEvidenceRecord :=
  let (status, warnings) :=
    classify context observation evidenceType source syntheticStatus realResearch
  { id := evidenceId
    runId := context.researchAgentRunId
    evidenceType
    status
    securityId := context.securityId
    snapshotId := context.snapshotId
    researchAsOfTime := context.researchAsOfTime
    sourceChecksum := some source.checksum
    publishedAt := source.publishedAt
    citationId := source.citationId
    calculationRunId := source.calculationRunId
    calculationInputIds := source.calculationInputIds
    formulaVersion := source.formulaVersion
    syntheticStatus
    payload := source.payload
    warningCodes := warnings
    createdAt }

/-- No rule gives the status `VALID`. -/
lemma classifyRules_ne_valid {context : ControlledRunContext}
    {observation : ResearchObservationRecord} {evidenceType : EvidenceType}
    {source : EvidenceSource} {syntheticStatus : SyntheticStatus} {realResearch : Bool}
    {rule : EvidenceStatus × String}
    (h : classifyRules context observation evidenceType source syntheticStatus realResearch =
      .error rule) : rule.1 ≠ .valid := by
  simp only [classifyRules, check_bind_error, check_error] at h
  iterate 14
    rcases h with ⟨-, rfl⟩ | ⟨-, h⟩
    · simp
  obtain ⟨-, rfl⟩ := h
  simp

/-- **A valid record of real research is not synthetic**, its source was found unchanged, and what
it says was published was published by the as-of time. -/
theorem classify_valid {context : ControlledRunContext} {observation : ResearchObservationRecord}
    {evidenceType : EvidenceType} {source : EvidenceSource} {syntheticStatus : SyntheticStatus}
    {realResearch : Bool}
    (h : (classify context observation evidenceType source syntheticStatus realResearch).1 =
      .valid) :
    (realResearch = true → syntheticStatus.synthetic = false) ∧ source.found = true ∧
      source.checksum = source.expectedChecksum ∧
      ∀ t ∈ source.publishedAt, t ≤ context.researchAsOfTime := by
  have hrules : classifyRules context observation evidenceType source syntheticStatus
      realResearch = .ok () := by
    cases hcase : classifyRules context observation evidenceType source syntheticStatus
        realResearch with
    | ok _ => rfl
    | error rule =>
        rw [classify, hcase] at h
        exact absurd h (classifyRules_ne_valid hcase)
  simp only [classifyRules, check_bind_ok, check_ok, not_exists, not_and, not_not, not_lt,
    Bool.not_eq_true, Bool.not_eq_false] at hrules
  obtain ⟨-, -, -, -, -, hsynthetic, hfound, hchecksum, -, -, hpublished, -⟩ := hrules
  exact ⟨hsynthetic, hfound, hchecksum, hpublished⟩

end StockResearch.ResearchAgent
