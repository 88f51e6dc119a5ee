import StockResearch.ResearchAgent.Packages
import StockResearch.ResearchAgent.StateMachine
import StockResearch.ResearchAgent.ToolExecution
import StockResearch.Core.Program

/-!
# Execution of a plan

`DeterministicResearchExecutionService.execute` goes through the persisted steps of a plan, runs
those that are not terminal yet, and closes the run: it stores the budget, builds and validates the
claims, assembles the package and moves the run to the status that goes with it.

What the loop knows about the steps it ran (`Progress`: the budget, the blocked capabilities, whether
a step failed) lives in local variables.  `pause` and `resume` change the status of the run and
nothing else, so an execution that is resumed starts the loop with the stored budget and empty
lists.

**The world** holds the rows of the run and, next to them, what happened: which steps were started
and what the rows looked like then, the calls of the registry, and the time that has passed.

**The surroundings** answer for everything outside: the tools, the adapters that turn observations
into evidence, the id factory and the clock.
-/

namespace StockResearch.ResearchAgent

open PyJson PyTime Checked Txn

/-- How a tool step ended: the status of its result, and whether there is an observation. -/
structure ToolOutcome where
  toolName : String
  status : ObservationStatus
  observed : Bool
deriving DecidableEq, Repr

/-- Something that happened while a plan was executed. -/
inductive Occurrence where
  /-- A step was set to `RUNNING`, with the rows of all steps after that. -/
  | started (step : ResearchStepRecord) (rows : List ResearchStepRecord)
  /-- The registry was called for a step. -/
  | called (stepKey toolName : String)
  /-- The executor returned the result of a tool step. -/
  | concluded (stepId : Uuid) (outcome : ToolOutcome)

structure World where
  run : ResearchAgentRunRecord
  /-- The identifier of the plan of the run, if there is one. -/
  planId : Option Uuid
  steps : List ResearchStepRecord
  ledger : Table ResearchEvidenceRecord
  claims : ClaimStore
  package : Option ResearchPackageRecord
  occurrences : List Occurrence
  /-- Microseconds since the run was started. -/
  elapsed : Nat

structure Surroundings where
  hash : IdealHash
  parsers : Parsers
  supply : Supply
  /-- `text.upper()` -/
  upper : String → String
  /-- The code with which `bind_tool_input` rejects the arguments of a step, if it does. -/
  refusal : ResearchStepRecord → Option String
  /-- What each attempt of a tool step ends in. -/
  answer : ResearchStepRecord → Nat → Answer
  /-- The evidence admitted for the observation of a tool step, or what is raised on the way. -/
  observed : ResearchStepRecord → ObservationStatus → Except String ResearchEvidenceRecord
  /-- The evidence admitted for the identity of the security. -/
  identity : ResearchStepRecord → Except String ResearchEvidenceRecord
  /-- The time that a step takes, and the time from the last step to the end. -/
  duration : ResearchStepRecord → Nat
  closing : Nat
  packageId : Uuid
  packageCreatedAt : Instant

/-- What `execute` keeps in local variables. -/
structure Progress where
  budget : RunBudget
  blocked : List String
  failed : Bool

/-- What a call of `execute` is given besides the run. -/
structure Assignment where
  request : ResearchRequestRecord
  policy : ResearchPolicyRecord
  catalog : ToolCatalogSnapshot

/-! ## Writes -/

/-- The order of `list_steps`. -/
def stepLE (a b : ResearchStepRecord) : Prop :=
  a.definition.stepIndex < b.definition.stepIndex ∨
    (a.definition.stepIndex = b.definition.stepIndex ∧ a.id ≤ b.id)

instance : DecidableRel stepLE := fun a b =>
  inferInstanceAs (Decidable (a.definition.stepIndex < b.definition.stepIndex ∨
    (a.definition.stepIndex = b.definition.stepIndex ∧ a.id ≤ b.id)))

def listSteps (rows : List ResearchStepRecord) (planId : Uuid) : List ResearchStepRecord :=
  (rows.filter (·.planId = planId)).insertionSort stepLE

/-- The rows with a new status for one of them. -/
def setStatus (stepId : Uuid) (target : ResearchStepStatus) (rows : List ResearchStepRecord) :
    List ResearchStepRecord :=
  rows.map fun row => if row.id = stepId then { row with status := target } else row

def transitionStep (stepId : Uuid) (expected target : ResearchStepStatus) :
    Program String World Unit := fun w =>
  if w.steps.any fun row => row.id = stepId && row.status = expected then
    (.ok (), { w with steps := setStatus stepId target w.steps })
  else (.error "RESEARCH_STEP_STATE_MISMATCH", w)

/-- `ResearchRunStateMachine.transition` on the row of the run. -/
def transitionRun (target : ResearchRunStatus) : Program String World Unit := fun w =>
  if target ∈ allowedRunTransitions w.run.status then
    (.ok (), { w with run := { w.run with status := target } })
  else (.error "ILLEGAL_RUN_STATE_TRANSITION", w)

def updateRunBudget (budget : RunBudget) : Program String World Unit := fun w =>
  if w.run.status.terminal then (.error "RESEARCH_RUN_NOT_MUTABLE", w)
  else (.ok (), { w with run := { w.run with budget } })

def addEvidence : Option ResearchEvidenceRecord → Program String World Unit
  | none => pure ()
  | some item => fun w =>
      match w.ledger.insert item with
      | some ledger => (.ok (), { w with ledger })
      | none => (.error "IntegrityError", w)

/-- Write down what happened. -/
def note (f : World → List Occurrence) : Program String World Unit :=
  Program.update fun w => { w with occurrences := w.occurrences ++ f w }

/-- Let time pass. -/
def spend (microseconds : Nat) : Program String World Unit :=
  Program.update fun w => { w with elapsed := w.elapsed + microseconds }

/-! ## Steps -/

/-- `_context` -/
def runContext (run : ResearchAgentRunRecord) (request : ResearchRequestRecord) :
    ControlledRunContext where
  securityId := run.securityId
  snapshotId := run.snapshotId
  researchAsOfTime := run.researchAsOfTime
  researchAgentRunId := run.id
  researchRequestId := request.id
  policyVersion := run.policyVersion
  toolCatalogVersion := run.toolCatalogVersion

def stepStatus : ObservationStatus → ResearchStepStatus
  | .pass => .pass
  | .partly => .partly
  | .blocked => .blocked
  | .fail => .fail

/-- The code that the loop appends to `blocked` for a tool step. -/
def capabilityCode (upper : String → String) (toolName : String) :
    ObservationStatus → List String
  | .blocked => [upper toolName ++ "_BLOCKED"]
  | .fail => [upper toolName ++ "_FAILED"]
  | .pass | .partly => []

/-- What running a step comes to. -/
structure Performed where
  target : ResearchStepStatus
  evidence : Option ResearchEvidenceRecord
  occurrences : List Occurrence
  progress : Progress

/-- Evidence that is admitted on a condition. -/
def whenever (p : Prop) [Decidable p] (evidence : Except String ResearchEvidenceRecord) :
    Except String (Option ResearchEvidenceRecord) :=
  if p then evidence.map some else .ok none

section Service

variable (σ : Surroundings) (a : Assignment)

/-- A step that calls no tool. -/
def performComponent (progress : Progress) (step : ResearchStepRecord) :
    Except String Performed := do
  let evidence ← whenever (step.definition.stepKey = "resolve_security") (σ.identity step)
  return {
    target := if step.definition.stepKey = "validate_evidence" ∧ progress.blocked ≠ [] then .blocked
      else .pass
    evidence
    occurrences := []
    progress }

/-- A step that calls a tool. -/
def performTool (run : ResearchAgentRunRecord) (toolName : String) (progress : Progress)
    (step : ResearchStepRecord) : Except String Performed := do
  let result ← executeTool (runContext run a.request) a.catalog a.policy (σ.refusal step)
    (σ.answer step) progress.budget step
  let evidence ← whenever (result.observed = true) (σ.observed step result.status)
  return {
    target := stepStatus result.status
    evidence
    occurrences := List.replicate result.calls (.called step.definition.stepKey toolName) ++
      [.concluded step.id ⟨toolName, result.status, result.observed⟩]
    progress := ⟨result.budget, progress.blocked ++ capabilityCode σ.upper toolName result.status,
      progress.failed || result.status = .fail⟩ }

/-- What a step does between `RUNNING` and its last status. -/
def perform (run : ResearchAgentRunRecord) (progress : Progress) (step : ResearchStepRecord) :
    Except String Performed :=
  match step.definition.toolName with
  | none => performComponent σ progress step
  | some toolName => performTool σ a run toolName progress step

/-- One turn of the loop of `execute`. -/
def runStep (run : ResearchAgentRunRecord) (progress : Progress) (step : ResearchStepRecord) :
    Program String World Progress :=
  if step.status.terminal then pure progress
  else do
    transitionStep step.id .pending .ready
    transitionStep step.id .ready .running
    note fun w => [.started step w.steps]
    let performed ← Program.call (perform σ a run progress step)
    note fun _ => performed.occurrences
    addEvidence performed.evidence
    spend (σ.duration step)
    transitionStep step.id .running performed.target
    return performed.progress

/-- `for step in steps` -/
def runSteps (run : ResearchAgentRunRecord) :
    List ResearchStepRecord → Progress → Program String World Progress
  | [], progress => pure progress
  | step :: steps, progress => do
      let progress ← runStep σ a run progress step
      runSteps run steps progress

/-! ## Opening and closing a run -/

/-- The first statements of `execute`: the run is set to `RUNNING`, if it is not already. -/
def beginRun : Program String World Unit := fun w =>
  if w.run.status = .planned then transitionRun .running w
  else if w.run.status = .running then (.ok (), w)
  else (.error "RUN_NOT_EXECUTABLE", w)

/-- `list_steps` on the plan of the run. -/
def planSteps : Program String World (List ResearchStepRecord) := fun w =>
  match w.planId with
  | none => (.error "RESEARCH_PLAN_NOT_FOUND", w)
  | some planId => (.ok (listSteps w.steps planId), w)

/-- `tuple(sorted(set(blocked)))` -/
def blockedCapabilities (blocked : List String) : List String :=
  blocked.dedup.insertionSort (· ≤ ·)

/-- The status of a run whose package has the given status. -/
def terminalStatus : ResearchPackageStatus → ResearchRunStatus
  | .failed => .failed
  | .partly => .partly
  | .blocked => .blocked
  | .complete => .completed

/-- What the package repeats from the run and the request. -/
def packageContext (run : ResearchAgentRunRecord) (request : ResearchRequestRecord) :
    PackageContext where
  runId := run.id
  requestId := request.id
  securityId := run.securityId
  snapshotId := run.snapshotId
  researchAsOfTime := run.researchAsOfTime
  researchType := request.researchType
  policyVersion := run.policyVersion
  plannerVersion := run.plannerVersion
  toolCatalogVersion := run.toolCatalogVersion

/-- The codes that go with the package: those of the run, and one when there is no claim. -/
def packageWarnings (run : ResearchAgentRunRecord) (claims : List ResearchClaimRecord) :
    List String :=
  (run.warningCodes ++ if claims = [] then ["NO_VALIDATED_CLAIMS"] else []).eraseDups

/-- The claim pipeline, on the claims and the evidence of the world. -/
def buildClaims : Program String World (List ResearchClaimRecord) := fun w =>
  match buildAndValidate σ.hash σ.parsers σ.supply w.run.id a.request.researchMode
      (listEvidence w.ledger w.run.id) w.claims with
  | .ok (claims, store) => (.ok claims, { w with claims := store })
  | .error e => (.error e, w)

/-- The last statements of `execute`: the budget, the claims, the package and the status. -/
def closeRun (progress : Progress) :
    Program String World (ResearchAgentRunRecord × ResearchPackageRecord) := do
  updateRunBudget progress.budget
  let claims ← buildClaims σ a
  let w ← get
  let package ← Program.call (assemble σ.hash σ.packageId (packageContext w.run a.request)
    a.request.requestedSections claims (listEvidence w.ledger w.run.id)
    (blockedCapabilities progress.blocked) (packageWarnings w.run claims) progress.failed
    σ.packageCreatedAt)
  Program.update fun w => { w with package := some package }
  spend σ.closing
  transitionRun (terminalStatus package.content.status)
  let w ← get
  return (w.run, package)

/-- `DeterministicResearchExecutionService.execute` -/
def execute : Program String World (ResearchAgentRunRecord × ResearchPackageRecord) := do
  beginRun
  let steps ← planSteps
  let w ← get
  let progress ← runSteps σ a w.run steps ⟨w.run.budget, [], false⟩
  closeRun σ a progress

/-! ## Pausing and resuming -/

def pause : Program String World Unit := do
  let w ← get
  if w.run.status ≠ .running then throw "RUN_NOT_RUNNING"
  else transitionRun .paused

/-- `resume`.  `snapshotOk` is what the validator says of the snapshot of the run. -/
def resume (snapshotOk : Bool) : Program String World Unit := do
  let w ← get
  if w.run.status ≠ .paused then throw "RUN_NOT_PAUSED"
  else if w.run.policyVersion ≠ a.policy.version then throw "POLICY_VERSION_MISMATCH"
  else if w.run.toolCatalogVersion ≠ a.catalog.catalogVersion then
    throw "TOOL_CATALOG_VERSION_MISMATCH"
  else if w.run.toolCatalogChecksum ≠ a.catalog.catalogChecksum then
    throw "TOOL_CATALOG_CHECKSUM_MISMATCH"
  else if snapshotOk = false then throw "SNAPSHOT_CONTEXT_MISMATCH"
  else if w.planId = none then throw "RESEARCH_PLAN_NOT_FOUND"
  else transitionRun .running

/-- An execution that stops before step number `k`, and is paused there. -/
def executeUntil (k : Nat) : Program String World Unit := do
  beginRun
  let steps ← planSteps
  let w ← get
  let _ ← runSteps σ a w.run (steps.take k) ⟨w.run.budget, [], false⟩
  pause

/-- The `resume` command: the run is resumed and executed. -/
def resumeAndExecute (snapshotOk : Bool) :
    Program String World (ResearchAgentRunRecord × ResearchPackageRecord) := do
  resume a snapshotOk
  execute σ a

end Service

end StockResearch.ResearchAgent
