import StockResearch.ResearchAgent.StepOrder

/-!
# Invocation records

`ResearchToolExecutor.execute` starts an invocation record before each call of the registry and
completes the one it returns; `_persist_execution` stores that one.  `executeRecorded` is the
executor with its records and with the calls it makes, also where it raises.

**Against the executor of the budget laws.**  `executeRecorded_outcome`: without the records it is
`executeTool`.

**Against the table.**  `persistInvocation_ok`: a returned record is stored, and nothing else.

**`accounted_iff`**: when the calls, the budget and the stored records agree.
-/

namespace StockResearch.ResearchAgent

open PyJson PyTime Checked Txn

inductive ToolInvocationStatus where
  | pending
  | running
  | pass
  | partly
  | blocked
  | fail
deriving DecidableEq, Repr

def ToolInvocationStatus.terminal : ToolInvocationStatus → Bool
  | .pending | .running => false
  | _ => true

/-- The statuses that come with an output. -/
def ToolInvocationStatus.successful : ToolInvocationStatus → Bool
  | .pass | .partly => true
  | _ => false

/-- A started invocation.  What the call was given and returned is not kept here. -/
structure ResearchToolInvocationWrite where
  id : Uuid
  runId : Uuid
  stepId : Uuid
  attemptNumber : Nat
  toolName : String
  toolVersion : String
  status : ToolInvocationStatus
  startedAt : Instant
deriving DecidableEq

structure ResearchToolInvocationCompletion where
  status : ToolInvocationStatus
  errorCode : Option String
  completedAt : Instant
deriving DecidableEq

structure ResearchToolInvocationRecord extends ResearchToolInvocationWrite where
  errorCode : Option String
  completedAt : Option Instant
deriving DecidableEq

/-- What surrounds one tool step: the codes with which the binding and the redaction of its input
are refused, what each attempt ends in, the id factory and the clock. -/
structure StepSurroundings where
  refusal : Option String
  redaction : Option String
  answer : Nat → Answer
  invocationId : Nat → Uuid
  startedAt : Nat → Instant
  completedAt : Nat → Instant
  clock_le : ∀ attempt, startedAt attempt ≤ completedAt attempt

/-! ## Records -/

def startInvocation (σ : StepSurroundings) (context : ControlledRunContext) (stepId : Uuid)
    (tool : AllowedTool) (attempt : Nat) : Except String ResearchToolInvocationWrite := do
  check (attempt ≠ 1 ∧ attempt ≠ 2) "INVALID_ATTEMPT_NUMBER"
  match σ.redaction with
  | some code => .error code
  | none =>
      return {
        id := σ.invocationId attempt
        runId := context.researchAgentRunId
        stepId
        attemptNumber := attempt
        toolName := tool.toolName
        toolVersion := tool.toolVersion
        status := .running
        startedAt := σ.startedAt attempt }

/-- `complete_invocation`.  The contract of completions takes no error code that is not a `Code`. -/
def completeInvocation (invocation : ResearchToolInvocationWrite) (status : ToolInvocationStatus)
    (completedAt : Instant) (output : Bool) (errorCode : Option String) :
    Except String ResearchToolInvocationCompletion := do
  check (status.terminal = false) "INVOCATION_NOT_TERMINAL"
  check (completedAt < invocation.startedAt) "INVALID_COMPLETION_TIME"
  check (status.successful = true ∧ (output = false ∨ errorCode.isSome = true))
    "INVALID_COMPLETION_SHAPE"
  check (status.successful = false ∧ (output = true ∨ errorCode.isSome = false))
    "INVALID_COMPLETION_SHAPE"
  check (errorCode.any (fun code => ! isCode code) = true) "ValidationError"
  return { status, errorCode, completedAt }

def invocationRecord (invocation : ResearchToolInvocationWrite)
    (completion : ResearchToolInvocationCompletion) : ResearchToolInvocationRecord where
  toResearchToolInvocationWrite := { invocation with status := completion.status }
  errorCode := completion.errorCode
  completedAt := some completion.completedAt

structure RecordedResult where
  result : ToolExecutionResult
  invocation : ResearchToolInvocationRecord

/-- `_failed_result` -/
def failedRecorded (σ : StepSurroundings) (invocation : ResearchToolInvocationWrite)
    (budget : RunBudget) (calls : Nat) (errorCode : String) : Except String RecordedResult := do
  let completion ← completeInvocation invocation
    (if errorCode ∈ blockedCodes then .blocked else .fail) (σ.completedAt invocation.attemptNumber)
    false (some errorCode)
  return ⟨failedResult budget calls errorCode, invocationRecord invocation completion⟩

/-- What the last attempt of a step becomes, with its record. -/
def concludedRecorded (σ : StepSurroundings) (invocation : ResearchToolInvocationWrite)
    (budget : RunBudget) (calls : Nat) : Answer → Except String RecordedResult
  | .output status => do
      let completion ← completeInvocation invocation .pass (σ.completedAt invocation.attemptNumber)
        true none
      return ⟨⟨observationStatus status, true, budget, calls⟩,
        invocationRecord invocation completion⟩
  | .executionError code => failedRecorded σ invocation budget calls code
  | .registryError code => failedRecorded σ invocation budget calls (registryErrorCode code)
  | .contextError code => failedRecorded σ invocation budget calls code
  | .raised code => .error code

/-- The attempts at which the registry was called, and how the executor ended. -/
structure ToolExecution where
  calls : List Nat
  outcome : Except String RecordedResult

/-- The loop of `ResearchToolExecutor.execute`, with its records. -/
def attemptRecorded (σ : StepSurroundings) (context : ControlledRunContext)
    (step : ResearchStepRecord) (tool : AllowedTool) (budget : RunBudget) : ToolExecution :=
  match startInvocation σ context step.id tool 1 with
  | .error code => ⟨[], .error code⟩
  | .ok first =>
      if σ.answer 1 = .executionError "TRANSIENT_INTERNAL" then
        match consumeRetry budget step.definition.stepKey with
        | .error code => ⟨[1], failedRecorded σ first budget 1 code⟩
        | .ok retried =>
            match consumeToolCall retried tool.toolName with
            | .error code => ⟨[1], failedRecorded σ first retried 1 code⟩
            | .ok again =>
                match startInvocation σ context step.id tool 2 with
                | .error code => ⟨[1], .error code⟩
                | .ok second => ⟨[1, 2], concludedRecorded σ second again 2 (σ.answer 2)⟩
      else ⟨[1], concludedRecorded σ first budget 1 (σ.answer 1)⟩

/-- What a step is granted before its first attempt: the tool, and the charged budget. -/
def grantStep (σ : StepSurroundings) (context : ControlledRunContext) (catalog : ToolCatalogSnapshot)
    (policy : ResearchPolicyRecord) (budget : RunBudget) (step : ResearchStepRecord) :
    Except String (AllowedTool × RunBudget) := do
  let tool ← authorize context step catalog policy
  match σ.refusal with
  | some code => .error code
  | none => do
      let granted ← consumeToolCall budget tool.toolName
      return (tool, granted)

/-- `ResearchToolExecutor.execute` -/
def executeRecorded (σ : StepSurroundings) (context : ControlledRunContext)
    (catalog : ToolCatalogSnapshot) (policy : ResearchPolicyRecord) (budget : RunBudget)
    (step : ResearchStepRecord) : ToolExecution :=
  match grantStep σ context catalog policy budget step with
  | .error code => ⟨[], .error code⟩
  | .ok (tool, granted) => attemptRecorded σ context step tool granted

/-! ## The table -/

/-- `research_tool_invocations` -/
instance : Schema ResearchToolInvocationRecord where
  clash a b := a.id = b.id ∨ (a.stepId = b.stepId ∧ a.attemptNumber = b.attemptNumber)
  check row := 1 ≤ row.attemptNumber ∧ row.attemptNumber ≤ 2
  clash_symm _ _ h := h.imp Eq.symm fun h => ⟨h.1.symm, h.2.symm⟩
  decClash _ _ := inferInstance
  decCheck _ := inferInstance

/-- `add_invocation`: the row of an invocation that runs. -/
def addInvocation (value : ResearchToolInvocationWrite)
    (table : Table ResearchToolInvocationRecord) :
    Except String (Table ResearchToolInvocationRecord) :=
  require (table.insert ⟨value, none, none⟩) "IntegrityError"

/-- `complete_invocation` of the repository. -/
def storeCompletion (invocationId : Uuid) (status : ToolInvocationStatus)
    (errorCode : Option String) (completedAt : Option Instant)
    (table : Table ResearchToolInvocationRecord) :
    Except String (Table ResearchToolInvocationRecord) := do
  check (table.rows.all (·.id ≠ invocationId)) "RESEARCH_TOOL_INVOCATION_NOT_FOUND"
  require (table.update (·.id = invocationId) fun row =>
    { row with status, errorCode, completedAt }) "IntegrityError"

/-- What `_persist_execution` does with the invocation of a result. -/
def persistInvocation (record : ResearchToolInvocationRecord)
    (table : Table ResearchToolInvocationRecord) :
    Except String (Table ResearchToolInvocationRecord) := do
  let started ← addInvocation
    { record.toResearchToolInvocationWrite with status := .running } table
  storeCompletion record.id record.status record.errorCode record.completedAt started

/-- The table after a tool step.  An exception leaves it as it was. -/
def ToolExecution.persisted (execution : ToolExecution)
    (table : Table ResearchToolInvocationRecord) : Table ResearchToolInvocationRecord :=
  match execution.outcome with
  | .error _ => table
  | .ok r =>
      match persistInvocation r.invocation table with
      | .error _ => table
      | .ok after => after

variable {σ : StepSurroundings} {context : ControlledRunContext} {catalog : ToolCatalogSnapshot}
  {policy : ResearchPolicyRecord} {budget granted : RunBudget} {step : ResearchStepRecord}
  {tool : AllowedTool} {invocation : ResearchToolInvocationWrite} {calls attempt : Nat}
  {answer : Answer} {table after : Table ResearchToolInvocationRecord}
  {record : ResearchToolInvocationRecord} {r : RecordedResult}

/-! ## What a record says -/

/-- The answers that end in a record: an error code that is not a `Code` fails the contract. -/
def Answer.Recordable : Answer → Prop
  | .output _ | .registryError _ => True
  | .executionError code | .contextError code => isCode code = true
  | .raised _ => False

/-- The record of a result is the completed invocation. -/
structure RecordOf (invocation : ResearchToolInvocationWrite) (budget : RunBudget) (calls : Nat)
    (r : RecordedResult) : Prop where
  id : r.invocation.id = invocation.id
  stepId : r.invocation.stepId = invocation.stepId
  attempt : r.invocation.attemptNumber = invocation.attemptNumber
  completed : r.invocation.completedAt.isSome = true
  budget : r.result.budget = budget
  calls : r.result.calls = calls

lemma failedRecorded_ok {code : String}
    (h : failedRecorded σ invocation budget calls code = .ok r) :
    RecordOf invocation budget calls r ∧ r.result = failedResult budget calls code := by
  obtain ⟨completion, -, hret⟩ := Checked.bind_ok.mp h
  cases hret
  exact ⟨⟨rfl, rfl, rfl, rfl, rfl, rfl⟩, rfl⟩

/-- What `complete_invocation` checks. -/
lemma completeInvocation_ok {status : ToolInvocationStatus} {completedAt : Instant} {output : Bool}
    {errorCode : Option String} {completion : ResearchToolInvocationCompletion} :
    completeInvocation invocation status completedAt output errorCode = .ok completion ↔
      status.terminal = true ∧ invocation.startedAt ≤ completedAt ∧
        (status.successful = output ∧ errorCode.isSome = ! output) ∧
        (∀ code ∈ errorCode, isCode code = true) ∧
        completion = ⟨status, errorCode, completedAt⟩ := by
  have hshape : (¬ (status.successful = true ∧ (output = false ∨ errorCode.isSome = true)) ∧
      ¬ (status.successful = false ∧ (output = true ∨ errorCode.isSome = false))) ↔
        status.successful = output ∧ errorCode.isSome = ! output := by
    cases status.successful <;> cases output <;> cases errorCode.isSome <;> decide
  have hcode : ¬ (errorCode.any (fun code => ! isCode code) = true) ↔
      ∀ code ∈ errorCode, isCode code = true := by
    cases errorCode <;> simp
  rw [← hshape, ← hcode]
  simp only [completeInvocation, check_bind_ok, not_lt, Bool.not_eq_false, and_assoc]
  refine and_congr_right fun _ => and_congr_right fun _ => and_congr_right fun _ =>
    and_congr_right fun _ => and_congr_right fun _ => ?_
  exact ⟨fun h => (Except.ok.inj h).symm, fun h => congrArg Except.ok h.symm⟩

/-- A failed attempt is recorded when its code is a `Code`. -/
lemma exists_failedRecorded {code : String}
    (hclock : invocation.startedAt ≤ σ.completedAt invocation.attemptNumber) :
    (∃ r, failedRecorded σ invocation budget calls code = .ok r) ↔ isCode code = true := by
  have hstatus : ∀ b : Bool, ((if b then ToolInvocationStatus.blocked else .fail).terminal =
      true) ∧ (if b then ToolInvocationStatus.blocked else .fail).successful = false := by decide
  obtain ⟨hterminal, hfailed⟩ := hstatus (code ∈ blockedCodes)
  simp only [decide_eq_true_eq] at hterminal hfailed
  simp only [failedRecorded, Checked.bind_ok, completeInvocation_ok]
  constructor
  · rintro ⟨_, completion, ⟨-, -, -, hcode, -⟩, -⟩
    exact hcode code rfl
  · intro hcode
    exact ⟨_, _, ⟨hterminal, hclock, ⟨hfailed, rfl⟩, by simpa using hcode, rfl⟩, rfl⟩

lemma concludedRecorded_ok (h : concludedRecorded σ invocation budget calls answer = .ok r) :
    RecordOf invocation budget calls r ∧ concluded budget calls answer = .ok r.result := by
  cases answer with
  | output status =>
      obtain ⟨completion, -, hret⟩ := Checked.bind_ok.mp h
      cases hret
      exact ⟨⟨rfl, rfl, rfl, rfl, rfl, rfl⟩, rfl⟩
  | executionError code | registryError code | contextError code =>
      obtain ⟨hrecord, hresult⟩ := failedRecorded_ok h
      rw [hresult]
      exact ⟨hrecord, rfl⟩
  | raised code => cases h

lemma exists_concludedRecorded
    (hclock : invocation.startedAt ≤ σ.completedAt invocation.attemptNumber) :
    (∃ r, concludedRecorded σ invocation budget calls answer = .ok r) ↔ answer.Recordable := by
  cases answer with
  | output status =>
      have hdone : completeInvocation invocation .pass (σ.completedAt invocation.attemptNumber)
          true none = .ok ⟨.pass, none, σ.completedAt invocation.attemptNumber⟩ :=
        completeInvocation_ok.mpr ⟨rfl, hclock, ⟨rfl, rfl⟩, by simp, rfl⟩
      simp [concludedRecorded, hdone, Answer.Recordable]
  | executionError code | contextError code => exact exists_failedRecorded hclock
  | registryError code =>
      refine (exists_failedRecorded hclock).trans (iff_of_true ?_ trivial)
      cases code <;> decide +kernel
  | raised code => simp [concludedRecorded, Answer.Recordable]

/-! ## Against the executor without records -/

def invocationOf (σ : StepSurroundings) (context : ControlledRunContext)
    (step : ResearchStepRecord) (tool : AllowedTool) (attempt : Nat) :
    ResearchToolInvocationWrite where
  id := σ.invocationId attempt
  runId := context.researchAgentRunId
  stepId := step.id
  attemptNumber := attempt
  toolName := tool.toolName
  toolVersion := tool.toolVersion
  status := .running
  startedAt := σ.startedAt attempt

lemma startInvocation_eq (hredacted : σ.redaction = none) (hattempt : attempt = 1 ∨ attempt = 2) :
    startInvocation σ context step.id tool attempt = .ok (invocationOf σ context step tool attempt) := by
  rw [startInvocation, hredacted]
  exact check_bind_ok.mpr ⟨by omega, rfl⟩

lemma consumeRetry_error {stepKey code : String} (h : consumeRetry budget stepKey = .error code) :
    "RETRY_BUDGET_EXCEEDED" = code := by
  rcases check_bind_error.mp h with ⟨-, hcode⟩ | ⟨-, hret⟩
  · exact hcode
  · cases hret

lemma consumeToolCall_code {toolName code : String}
    (h : consumeToolCall budget toolName = .error code) : isCode code = true := by
  rcases check_bind_error.mp h with ⟨-, rfl⟩ | ⟨-, h⟩
  · decide +kernel
  · rcases check_bind_error.mp h with ⟨-, rfl⟩ | ⟨-, hret⟩
    · decide +kernel
    · cases hret

lemma failedRecorded_result {code : String} (hcode : isCode code = true)
    (hclock : invocation.startedAt ≤ σ.completedAt invocation.attemptNumber) :
    (failedRecorded σ invocation budget calls code).map (·.result) =
      .ok (failedResult budget calls code) := by
  obtain ⟨r, hr⟩ := (exists_failedRecorded hclock).mpr hcode
  rw [hr]
  exact congrArg Except.ok (failedRecorded_ok hr).2

lemma concludedRecorded_result
    (hanswer : answer.Recordable ∨ ∃ code, answer = .raised code)
    (hclock : invocation.startedAt ≤ σ.completedAt invocation.attemptNumber) :
    (concludedRecorded σ invocation budget calls answer).map (·.result) =
      concluded budget calls answer := by
  rcases hanswer with hrecordable | ⟨code, rfl⟩
  · obtain ⟨r, hr⟩ := (exists_concludedRecorded hclock).mpr hrecordable
    rw [hr, (concludedRecorded_ok hr).2]
    rfl
  · rfl

/-- **Without its records the executor is `executeTool`**, when the redaction takes the input and
every error code is a `Code`. -/
theorem executeRecorded_outcome (hredacted : σ.redaction = none)
    (hcodes : ∀ attempt, (σ.answer attempt).Recordable ∨ ∃ code, σ.answer attempt = .raised code) :
    (executeRecorded σ context catalog policy budget step).outcome.map (·.result) =
      executeTool context catalog policy σ.refusal σ.answer budget step := by
  rw [executeRecorded, executeTool, grantStep]
  cases authorize context step catalog policy with
  | error code => rfl
  | ok tool =>
      simp only [ok_bind]
      cases σ.refusal with
      | some code => rfl
      | none =>
          cases consumeToolCall budget tool.toolName with
          | error code => rfl
          | ok granted =>
              change (attemptRecorded σ context step tool granted).outcome.map (·.result) =
                attemptTool σ.answer step.definition.stepKey tool.toolName granted
              rw [attemptRecorded, attemptTool, startInvocation_eq hredacted (.inl rfl)]
              dsimp only
              split
              case isFalse => exact concludedRecorded_result (hcodes 1) (σ.clock_le 1)
              case isTrue =>
                cases hretry : consumeRetry granted step.definition.stepKey with
                | error code =>
                    obtain rfl := consumeRetry_error hretry
                    exact failedRecorded_result (by decide +kernel) (σ.clock_le 1)
                | ok retried =>
                    dsimp only
                    cases hagain : consumeToolCall retried tool.toolName with
                    | error code =>
                        exact failedRecorded_result (consumeToolCall_code hagain) (σ.clock_le 1)
                    | ok again =>
                        dsimp only
                        rw [startInvocation_eq hredacted (.inr rfl)]
                        exact concludedRecorded_result (hcodes 2) (σ.clock_le 2)

/-! ## What is stored -/

/-- A stored record stands after the rows that were there. -/
lemma persistInvocation_rows (h : persistInvocation record table = .ok after) :
    after.rows = table.rows ++ [record] := by
  obtain ⟨started, hstarted, h⟩ := Checked.bind_ok.mp h
  rw [addInvocation, require_ok] at hstarted
  obtain ⟨-, hupdate⟩ := check_bind_ok.mp h
  rw [require_ok] at hupdate
  have hnew := Table.not_clash_of_insert hstarted
  rw [Table.rows_update hupdate, Table.rows_insert hstarted, List.map_append]
  have hold : table.rows.map (fun row => if row.id = record.id then { row with
      status := record.status, errorCode := record.errorCode,
      completedAt := record.completedAt } else row) = table.rows := by
    refine (List.map_congr_left fun row hrow => if_neg fun hid => ?_).trans (List.map_id _)
    exact hnew row hrow (.inl hid)
  simpa using hold

/-- A record with a fresh key is stored. -/
lemma persistInvocation_ok (hattempt : 1 ≤ record.attemptNumber ∧ record.attemptNumber ≤ 2)
    (hfresh : ∀ row ∈ table.rows, ¬ Schema.clash row record) :
    ∃ after, persistInvocation record table = .ok after := by
  let starting : ResearchToolInvocationRecord :=
    ⟨{ record.toResearchToolInvocationWrite with status := .running }, none, none⟩
  obtain ⟨started, hstarted⟩ : ∃ started, table.insert starting = some started :=
    Table.insert_isSome hfresh hattempt
  obtain ⟨after, hafter⟩ : ∃ after, started.update (·.id = record.id) (fun row =>
      { row with status := record.status, errorCode := record.errorCode,
                 completedAt := record.completedAt }) = some after := by
    refine Table.update_isSome ?_ fun row hrow _ => started.checked row hrow
    intro a _ b _ hclash
    by_cases ha : a.id = record.id <;> by_cases hb : b.id = record.id <;>
      simp_all [Schema.clash]
  have hfound : ¬ (started.rows.all (·.id ≠ record.id) = true) := by
    rw [Table.rows_insert hstarted]
    simp [starting]
  refine ⟨after, ?_⟩
  rw [persistInvocation, addInvocation, hstarted]
  exact check_bind_ok.mpr ⟨hfound, by rw [hafter]; rfl⟩

/-- What a tool step leaves in the table that was not there. -/
lemma persisted_new {execution : ToolExecution} {row : ResearchToolInvocationRecord}
    (hrow : row ∈ (execution.persisted table).rows) (hnew : row ∉ table.rows) :
    ∃ r after, execution.outcome = .ok r ∧ persistInvocation r.invocation table = .ok after ∧
      row = r.invocation := by
  rw [ToolExecution.persisted] at hrow
  split at hrow
  case h_1 => exact absurd hrow hnew
  case h_2 r hr =>
    split at hrow
    case h_1 => exact absurd hrow hnew
    case h_2 after hafter =>
      refine ⟨r, after, hr, hafter, ?_⟩
      rw [persistInvocation_rows hafter] at hrow
      simpa [hnew] using hrow

/-! ## Calls, budget and records -/

/-- The budget that the caller goes on with. -/
def ToolExecution.budgetAfter (execution : ToolExecution) (budget : RunBudget) : RunBudget :=
  match execution.outcome with
  | .ok r => r.result.budget
  | .error _ => budget

/-- The calls of a tool step are what its budget was charged, those after the first are what its
retries were charged, and each of them has one completed record of its own. -/
structure Accounted (step : ResearchStepRecord) (budget : RunBudget)
    (table : Table ResearchToolInvocationRecord) (execution : ToolExecution) : Prop where
  charged : (execution.budgetAfter budget).consumedToolCalls =
    budget.consumedToolCalls + execution.calls.length
  retried : (execution.budgetAfter budget).retriesPerStep step.definition.stepKey =
    budget.retriesPerStep step.definition.stepKey + (execution.calls.length - 1)
  recorded : ∀ attempt ∈ execution.calls, ∃! row, row ∈ (execution.persisted table).rows ∧
    row ∉ table.rows ∧ row.stepId = step.id ∧ row.attemptNumber = attempt ∧
    row.completedAt.isSome = true

/-- The guards let the step through to its first call. -/
structure ReachesRegistry (σ : StepSurroundings) (context : ControlledRunContext)
    (catalog : ToolCatalogSnapshot) (policy : ResearchPolicyRecord) (budget : RunBudget)
    (step : ResearchStepRecord) (tool : AllowedTool) : Prop where
  authorized : authorize context step catalog policy = .ok tool
  bound : σ.refusal = none
  redacted : σ.redaction = none
  callsLeft : budget.consumedToolCalls < budget.maxToolCalls
  toolCallsLeft : budget.callsPerTool tool.toolName < budget.maxCallsPerTool

/-- The first attempt is repeated, as far as its answer and the retries of the step go. -/
def GrantsRetry (σ : StepSurroundings) (budget : RunBudget) (step : ResearchStepRecord) : Prop :=
  σ.answer 1 = .executionError "TRANSIENT_INTERNAL" ∧
    budget.retriesPerStep step.definition.stepKey < budget.maxRetriesPerStep

/-- No row stands in the way of the record of the first attempt. -/
def FreshFirst (σ : StepSurroundings) (step : ResearchStepRecord)
    (table : Table ResearchToolInvocationRecord) : Prop :=
  ∀ row ∈ table.rows, row.id ≠ σ.invocationId 1 ∧ ¬ (row.stepId = step.id ∧ row.attemptNumber = 1)

/-- A step that reaches the registry makes a call. -/
lemma executeRecorded_of_reaches (h : ReachesRegistry σ context catalog policy budget step tool) :
    ∃ granted, consumeToolCall budget tool.toolName = .ok granted ∧
      executeRecorded σ context catalog policy budget step =
        attemptRecorded σ context step tool granted := by
  refine ⟨_, consumeToolCall_ok.mpr ⟨h.callsLeft, h.toolCallsLeft, rfl⟩, ?_⟩
  rw [executeRecorded, grantStep, h.authorized, h.bound]
  simp only [ok_bind, consumeToolCall_ok.mpr ⟨h.callsLeft, h.toolCallsLeft, rfl⟩]
  rfl

lemma executeRecorded_of_not_reaches
    (h : ∀ tool, ¬ ReachesRegistry σ context catalog policy budget step tool) :
    ∃ code, executeRecorded σ context catalog policy budget step = ⟨[], .error code⟩ := by
  rw [executeRecorded]
  cases hgrant : grantStep σ context catalog policy budget step with
  | error code => exact ⟨code, rfl⟩
  | ok grant =>
      obtain ⟨tool, hauthorized, hgrant⟩ := Checked.bind_ok.mp hgrant
      cases hbound : σ.refusal with
      | some code => simp [hbound] at hgrant
      | none =>
          simp only [hbound] at hgrant
          obtain ⟨granted, hgranted, hret⟩ := Checked.bind_ok.mp hgrant
          cases hret
          obtain ⟨hcalls, htool, -⟩ := consumeToolCall_ok.mp hgranted
          cases hredacted : σ.redaction with
          | none => exact absurd ⟨hauthorized, hbound, hredacted, hcalls, htool⟩ (h tool)
          | some code =>
              refine ⟨code, ?_⟩
              simp [attemptRecorded, startInvocation, hredacted, check, bind, Except.bind]

lemma not_accounted_of_budget {execution : ToolExecution} (hcalls : execution.calls = [1])
    (h : ∀ r, execution.outcome = .ok r → r.result.budget.retriesPerStep step.definition.stepKey ≠
      budget.retriesPerStep step.definition.stepKey) :
    ¬ Accounted step budget table execution := by
  rintro ⟨hcharged, hretried, -⟩
  rw [hcalls] at hcharged hretried
  cases houtcome : execution.outcome with
  | error code =>
      rw [ToolExecution.budgetAfter, houtcome] at hcharged
      simp at hcharged
  | ok r =>
      rw [ToolExecution.budgetAfter, houtcome] at hretried
      exact h r houtcome (by simpa using hretried)

/-- **One attempt** is accounted for when it ends in a record that can be stored. -/
lemma accounted_single {execution : ToolExecution}
    (hgranted : consumeToolCall budget tool.toolName = .ok granted) (hcalls : execution.calls = [1])
    (hrecord : ∀ r, execution.outcome = .ok r →
      RecordOf (invocationOf σ context step tool 1) granted 1 r) :
    Accounted step budget table execution ↔
      (∃ r, execution.outcome = .ok r) ∧ FreshFirst σ step table := by
  obtain ⟨-, -, rfl⟩ := consumeToolCall_ok.mp hgranted
  constructor
  · rintro ⟨hcharged, -, hrecorded⟩
    rw [hcalls] at hcharged hrecorded
    obtain ⟨row, ⟨hrow, hnew, -⟩, -⟩ := hrecorded 1 (by simp)
    obtain ⟨r, after, hr, hafter, -⟩ := persisted_new hrow hnew
    refine ⟨⟨r, hr⟩, fun old hold => ?_⟩
    -- The stored table is keyed, so no old row has the key of the new one.
    have hkeyed := after.keyed
    rw [persistInvocation_rows hafter, List.pairwise_append] at hkeyed
    have hclash := hkeyed.2.2 old hold r.invocation (by simp)
    have hof := hrecord r hr
    simpa [Schema.clash, hof.id, hof.stepId, hof.attempt, invocationOf] using hclash
  · rintro ⟨⟨r, hr⟩, hfresh⟩
    have hof := hrecord r hr
    have hnoclash : ∀ row ∈ table.rows, ¬ Schema.clash row r.invocation := by
      intro row hrow
      simpa [Schema.clash, hof.id, hof.stepId, hof.attempt, invocationOf] using hfresh row hrow
    obtain ⟨after, hafter⟩ : ∃ after, persistInvocation r.invocation table = .ok after :=
      persistInvocation_ok (by simp [hof.attempt, invocationOf]) hnoclash
    have hpersisted : (execution.persisted table).rows = table.rows ++ [r.invocation] := by
      rw [ToolExecution.persisted, hr]
      simp only [hafter, persistInvocation_rows hafter]
    have hbudget : execution.budgetAfter budget = r.result.budget := by
      rw [ToolExecution.budgetAfter, hr]
    refine ⟨?_, ?_, ?_⟩
    · rw [hbudget, hof.budget, hcalls]
      rfl
    · rw [hbudget, hof.budget, hcalls]
      rfl
    · intro attempt hattempt
      rw [hcalls, List.mem_singleton] at hattempt
      subst hattempt
      refine ⟨r.invocation, ⟨?_, ?_, hof.stepId, hof.attempt, hof.completed⟩, ?_⟩
      · rw [hpersisted]
        simp
      · exact fun hmem => hnoclash _ hmem (.inl rfl)
      · rintro row ⟨hrow, hnew, -⟩
        rw [hpersisted] at hrow
        simpa [hnew] using hrow

/-- **A granted retry is not accounted for**: either no call follows it, or the record of the first
attempt is not stored. -/
lemma not_accounted_of_retry (hgranted : consumeToolCall budget tool.toolName = .ok granted)
    (hredacted : σ.redaction = none) (hretry : GrantsRetry σ budget step) :
    ¬ Accounted step budget table (attemptRecorded σ context step tool granted) := by
  obtain ⟨-, -, hcharged⟩ := consumeToolCall_ok.mp hgranted
  obtain ⟨retried, hretried⟩ : ∃ retried,
      consumeRetry granted step.definition.stepKey = .ok retried :=
    ⟨_, consumeRetry_ok.mpr ⟨by simpa [hcharged] using hretry.2, rfl⟩⟩
  rw [attemptRecorded, startInvocation_eq hredacted (.inl rfl)]
  dsimp only
  rw [if_pos hretry.1, hretried]
  dsimp only
  cases hagain : consumeToolCall retried tool.toolName with
  | error code =>
      -- The retry was counted, and no call follows.
      refine not_accounted_of_budget rfl fun r hr => ?_
      rw [(failedRecorded_ok hr).1.budget, (consumeRetry_ok.mp hretried).2, hcharged]
      simp
  | ok again =>
      -- The second record is the one that is returned.
      rw [startInvocation_eq hredacted (.inr rfl)]
      rintro ⟨-, -, hrecorded⟩
      obtain ⟨row, ⟨hrow, hnew, -, hattempt, -⟩, -⟩ := hrecorded 1 (by simp)
      obtain ⟨r, -, hr, -, rfl⟩ := persisted_new hrow hnew
      rw [(concludedRecorded_ok hr).1.attempt] at hattempt
      cases hattempt

/-- **When calls, budget and records agree.**  A tool step that reaches the registry is accounted
for exactly when its first attempt ends in a record, no retry is granted and no stored row has the
key of the record; a step that the guards stop always is. -/
theorem accounted_iff (σ : StepSurroundings) (context : ControlledRunContext)
    (catalog : ToolCatalogSnapshot) (policy : ResearchPolicyRecord) (budget : RunBudget)
    (step : ResearchStepRecord) (table : Table ResearchToolInvocationRecord) :
    Accounted step budget table (executeRecorded σ context catalog policy budget step) ↔
      ∀ tool, ReachesRegistry σ context catalog policy budget step tool →
        (σ.answer 1).Recordable ∧ ¬ GrantsRetry σ budget step ∧ FreshFirst σ step table := by
  by_cases hreaches : ∃ tool, ReachesRegistry σ context catalog policy budget step tool
  swap
  · obtain ⟨code, hexecution⟩ := executeRecorded_of_not_reaches (not_exists.mp hreaches)
    rw [hexecution]
    exact iff_of_true ⟨rfl, rfl, by simp⟩ fun tool htool => absurd ⟨tool, htool⟩ hreaches
  obtain ⟨tool, htool⟩ := hreaches
  obtain ⟨granted, hgranted, hexecution⟩ := executeRecorded_of_reaches htool
  have honly : ∀ other, ReachesRegistry σ context catalog policy budget step other → other = tool :=
    fun other hother => Except.ok.inj (hother.authorized.symm.trans htool.authorized)
  have hcondition : (∀ other, ReachesRegistry σ context catalog policy budget step other →
      (σ.answer 1).Recordable ∧ ¬ GrantsRetry σ budget step ∧ FreshFirst σ step table) ↔
        (σ.answer 1).Recordable ∧ ¬ GrantsRetry σ budget step ∧ FreshFirst σ step table :=
    ⟨fun h => h tool htool, fun h other _ => h⟩
  rw [hexecution, hcondition]
  by_cases hretry : GrantsRetry σ budget step
  · exact iff_of_false (not_accounted_of_retry hgranted htool.redacted hretry) fun h => h.2.1 hretry
  · have hclock : (invocationOf σ context step tool 1).startedAt ≤
        σ.completedAt (invocationOf σ context step tool 1).attemptNumber := σ.clock_le 1
    obtain ⟨hcalls, hrecord, hreturns⟩ :
        (attemptRecorded σ context step tool granted).calls = [1] ∧
          (∀ r, (attemptRecorded σ context step tool granted).outcome = .ok r →
            RecordOf (invocationOf σ context step tool 1) granted 1 r) ∧
          ((∃ r, (attemptRecorded σ context step tool granted).outcome = .ok r) ↔
            (σ.answer 1).Recordable) := by
      rw [attemptRecorded, startInvocation_eq htool.redacted (.inl rfl)]
      dsimp only
      split
      case isTrue hanswer =>
        -- The error is transient, and no retry is left.
        obtain ⟨-, -, hcharged⟩ := consumeToolCall_ok.mp hgranted
        cases hdenied : consumeRetry granted step.definition.stepKey with
        | ok retried =>
            refine absurd ⟨hanswer, ?_⟩ hretry
            simpa [hcharged] using (consumeRetry_ok.mp hdenied).1
        | error code =>
            obtain rfl := consumeRetry_error hdenied
            refine ⟨rfl, fun r hr => (failedRecorded_ok hr).1, ?_⟩
            refine (exists_failedRecorded hclock).trans (iff_of_true (by decide +kernel) ?_)
            rw [hanswer]
            exact (by decide +kernel : isCode "TRANSIENT_INTERNAL" = true)
      case isFalse =>
        exact ⟨rfl, fun r hr => (concludedRecorded_ok hr).1, exists_concludedRecorded hclock⟩
    rw [accounted_single hgranted hcalls hrecord, hreturns]
    exact and_congr_right fun _ => (and_iff_right hretry).symm

def retryPolicy : ResearchPolicyRecord :=
  { sixStepPolicy with maxToolCalls := 2, maxCallsPerTool := 2, maxRetriesPerStep := 1 }

def latestClose : ResearchStepRecord :=
  rowBefore 0 { componentStep 0 "get_latest_close" .queryStructuredData [] with
    toolName := some "get_latest_close", toolVersion := some "1.0.0", componentName := none }

/-- A transient error, then an output. -/
def flaky : StepSurroundings where
  refusal := none
  redaction := none
  answer attempt := if attempt = 1 then .executionError "TRANSIENT_INTERNAL" else .output "PASS"
  invocationId attempt := ⟨BitVec.ofNat 128 (100 + attempt)⟩
  startedAt _ := yearEnd
  completedAt _ := yearEnd
  clock_le _ := le_refl yearEnd

/-- The run that the step belongs to. -/
def latestCloseContext : ControlledRunContext where
  securityId := 1
  snapshotId := 1
  researchAsOfTime := yearEnd
  researchAgentRunId := 1
  researchRequestId := 1
  policyVersion := "policy-v1"
  toolCatalogVersion := oneToolCatalog.catalogVersion

/-- A transient error and a retry leave a call without a record. -/
theorem flaky_not_accounted :
    ¬ Accounted latestClose (initialBudget retryPolicy) ∅
      (executeRecorded flaky latestCloseContext oneToolCatalog retryPolicy
        (initialBudget retryPolicy) latestClose) := by
  have hreaches : ReachesRegistry flaky latestCloseContext oneToolCatalog retryPolicy
      (initialBudget retryPolicy) latestClose ⟨"get_latest_close", "1.0.0"⟩ :=
    ⟨rfl, rfl, rfl, by decide, by decide⟩
  obtain ⟨granted, hgranted, hexecution⟩ := executeRecorded_of_reaches hreaches
  rw [hexecution]
  exact not_accounted_of_retry hgranted rfl ⟨rfl, by decide⟩

/-- Of the transient error and the retry, `executeTool` sees the same. -/
theorem flaky_outcome :
    (executeRecorded flaky latestCloseContext oneToolCatalog retryPolicy
      (initialBudget retryPolicy) latestClose).outcome.map (·.result) =
      executeTool latestCloseContext oneToolCatalog retryPolicy none flaky.answer
        (initialBudget retryPolicy) latestClose := by
  refine executeRecorded_outcome rfl fun attempt => .inl ?_
  by_cases hfirst : attempt = 1
  · rw [hfirst]
    exact (by decide +kernel : isCode "TRANSIENT_INTERNAL" = true)
  · have hanswer : flaky.answer attempt = .output "PASS" := if_neg hfirst
    rw [hanswer]
    trivial

end StockResearch.ResearchAgent
