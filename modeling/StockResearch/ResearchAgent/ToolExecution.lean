import StockResearch.ResearchAgent.Schemas
import StockResearch.Core.Checked

/-!
# Budgets and tool calls

`RunBudgetTracker` counts what a run consumes.  `ResearchToolExecutor` puts the guards around one
tool step: authorization, the binding of the input, the budget, and at most one retry.

What a tool does is not fixed here: `Answer` lists everything that calling the registry and checking
the scope of its output can end in.

* `consumeToolCall_ok`, `consumeRetry_ok`: what a granted request adds to the budget.
* **`executeTool_ok`**: a tool step that ends has consumed one call, or two of them and a retry.
-/

namespace StockResearch.ResearchAgent

open PyJson Checked

/-! ## Budgets -/

def consumeStep (budget : RunBudget) : Except String RunBudget := do
  check (budget.maxSteps ≤ budget.consumedSteps) "STEP_BUDGET_EXCEEDED"
  return { budget with consumedSteps := budget.consumedSteps + 1 }

def consumeToolCall (budget : RunBudget) (toolName : String) : Except String RunBudget := do
  check (budget.maxToolCalls ≤ budget.consumedToolCalls) "TOOL_CALL_BUDGET_EXCEEDED"
  check (budget.maxCallsPerTool ≤ budget.callsPerTool toolName) "TOOL_LIMIT_EXCEEDED"
  return { budget with
    consumedToolCalls := budget.consumedToolCalls + 1
    callsPerTool :=
      Function.update budget.callsPerTool toolName (budget.callsPerTool toolName + 1) }

def consumeRetry (budget : RunBudget) (stepKey : String) : Except String RunBudget := do
  check (budget.maxRetriesPerStep ≤ budget.retriesPerStep stepKey) "RETRY_BUDGET_EXCEEDED"
  return { budget with
    retriesPerStep :=
      Function.update budget.retriesPerStep stepKey (budget.retriesPerStep stepKey + 1) }

/-- `_budget`: the budget of a new run.  It is read off the policy. -/
def initialBudget (policy : ResearchPolicyRecord) : RunBudget where
  maxSteps := policy.maxSteps
  maxToolCalls := policy.maxToolCalls
  maxCallsPerTool := policy.maxCallsPerTool
  maxRetriesPerStep := policy.maxRetriesPerStep
  maxDurationSeconds := policy.maxDurationSeconds
  consumedSteps := 0
  consumedToolCalls := 0
  callsPerTool _ := 0
  retriesPerStep _ := 0

lemma consumeToolCall_ok {budget budget' : RunBudget} {toolName : String} :
    consumeToolCall budget toolName = .ok budget' ↔
      budget.consumedToolCalls < budget.maxToolCalls ∧
        budget.callsPerTool toolName < budget.maxCallsPerTool ∧
        budget' = { budget with
          consumedToolCalls := budget.consumedToolCalls + 1
          callsPerTool :=
            Function.update budget.callsPerTool toolName (budget.callsPerTool toolName + 1) } := by
  simp only [consumeToolCall, check_bind_ok, not_le]
  refine and_congr_right fun _ => and_congr_right fun _ => ?_
  constructor
  · rintro ⟨⟩
    rfl
  · rintro rfl
    rfl

lemma consumeRetry_ok {budget budget' : RunBudget} {stepKey : String} :
    consumeRetry budget stepKey = .ok budget' ↔
      budget.retriesPerStep stepKey < budget.maxRetriesPerStep ∧
        budget' = { budget with
          retriesPerStep := Function.update budget.retriesPerStep stepKey
            (budget.retriesPerStep stepKey + 1) } := by
  simp only [consumeRetry, check_bind_ok, not_le]
  refine and_congr_right fun _ => ?_
  constructor
  · rintro ⟨⟩
    rfl
  · rintro rfl
    rfl

/-! ## Authorization -/

/-- `ResearchToolPolicy.authorize`: the tool and the version that the step may call.  The checks on
the permission of a catalog entry cannot fail, since its type admits one value. -/
def authorize (context : ControlledRunContext) (step : ResearchStepRecord)
    (catalog : ToolCatalogSnapshot) (policy : ResearchPolicyRecord) :
    Except String AllowedTool := do
  check (context.toolCatalogVersion ≠ catalog.catalogVersion) "TOOL_CATALOG_VERSION_MISMATCH"
  check (context.policyVersion ≠ policy.version) "POLICY_VERSION_MISMATCH"
  check (step.runId ≠ context.researchAgentRunId) "STEP_RUN_MISMATCH"
  let name ← require step.definition.toolName "STEP_HAS_NO_TOOL"
  let version ← require step.definition.toolVersion "STEP_HAS_NO_TOOL"
  check (catalog.entries.all (·.toolName ≠ name)) "TOOL_NOT_IN_CATALOG"
  check (⟨name, version⟩ ∉ catalog.entries) "TOOL_VERSION_NOT_IN_CATALOG"
  check (⟨name, version⟩ ∈ policy.deniedTools) "TOOL_DENIED_BY_POLICY"
  check (⟨name, version⟩ ∉ policy.allowedTools) "TOOL_NOT_ALLOWED_BY_POLICY"
  return ⟨name, version⟩

/-! ## Tool calls -/

inductive ToolErrorCode where
  | duplicateTool
  | invalidRegistration
  | forbiddenRegistration
  | toolNotFound
  | invalidInput
  | invalidOutput
  | executionFailed
deriving DecidableEq, Repr

/-- What one attempt ends in: an output within the scope of the run, with the text of its status;
one of the three errors that the executor handles; or anything else that is raised on the way, by
the tool, the observation or the invocation record (which takes no error code that is not a
`Code`). -/
inductive Answer where
  | output (status : String)
  | executionError (code : String)
  | registryError (code : ToolErrorCode)
  | contextError (code : String)
  | raised (code : String)
deriving DecidableEq, Repr

def registryErrorCode : ToolErrorCode → String
  | .invalidInput | .invalidOutput => "SCHEMA_ERROR"
  | .toolNotFound => "PERMISSION_DENIED"
  | _ => "TOOL_EXECUTION_FAILED"

def observationStatus : String → ObservationStatus
  | "PARTIAL" => .partly
  | "BLOCKED" => .blocked
  | "FAIL" => .fail
  | _ => .pass

def blockedCodes : List String :=
  ["BLOCKED", "FUTURE_DATA", "INVALID_CITATION", "INVALID_QUERY", "NOT_FOUND",
    "PERMISSION_DENIED", "SCHEMA_ERROR"]

/-- The result of a tool step.  `observed` says that there is an observation, and `calls` counts the
calls of the registry. -/
structure ToolExecutionResult where
  status : ObservationStatus
  observed : Bool
  budget : RunBudget
  calls : Nat

def failedResult (budget : RunBudget) (calls : Nat) (errorCode : String) : ToolExecutionResult where
  status := if errorCode ∈ blockedCodes then .blocked else .fail
  observed := false
  budget := budget
  calls := calls

/-- What the last attempt of a step becomes. -/
def concluded (budget : RunBudget) (calls : Nat) : Answer → Except String ToolExecutionResult
  | .output status => .ok ⟨observationStatus status, true, budget, calls⟩
  | .executionError code => .ok (failedResult budget calls code)
  | .registryError code => .ok (failedResult budget calls (registryErrorCode code))
  | .contextError code => .ok (failedResult budget calls code)
  | .raised code => .error code

/-- The loop of `ResearchToolExecutor.execute`.  The first attempt is repeated once, after a
transient error and if the budget grants the retry and one more call. -/
def attemptTool (answer : Nat → Answer) (stepKey toolName : String) (budget : RunBudget) :
    Except String ToolExecutionResult :=
  if answer 1 = .executionError "TRANSIENT_INTERNAL" then
    match consumeRetry budget stepKey with
    | .error code => .ok (failedResult budget 1 code)
    | .ok retried =>
        match consumeToolCall retried toolName with
        | .error code => .ok (failedResult retried 1 code)
        | .ok again => concluded again 2 (answer 2)
  else concluded budget 1 (answer 1)

/-- `ResearchToolExecutor.execute`.  `refusal` is the code with which `bind_tool_input` rejects the
arguments of the step, if it does. -/
def executeTool (context : ControlledRunContext) (catalog : ToolCatalogSnapshot)
    (policy : ResearchPolicyRecord) (refusal : Option String) (answer : Nat → Answer)
    (budget : RunBudget) (step : ResearchStepRecord) : Except String ToolExecutionResult := do
  let tool ← authorize context step catalog policy
  match refusal with
  | some code => .error code
  | none => do
      let granted ← consumeToolCall budget tool.toolName
      attemptTool answer step.definition.stepKey tool.toolName granted

/-! ## What a tool step consumes -/

/-- The calls of a result are what the budget has been charged, all of them to the tool of the
step. -/
structure Charged (toolName stepKey : String) (budget : RunBudget) (result : ToolExecutionResult) :
    Prop where
  limits : result.budget = { budget with
    consumedToolCalls := result.budget.consumedToolCalls
    callsPerTool := result.budget.callsPerTool
    retriesPerStep := result.budget.retriesPerStep }
  consumed : result.budget.consumedToolCalls = budget.consumedToolCalls + result.calls
  perTool : result.budget.callsPerTool = Function.update budget.callsPerTool toolName
    (budget.callsPerTool toolName + result.calls)
  within : result.budget.consumedToolCalls ≤ budget.maxToolCalls
  withinTool : result.budget.callsPerTool toolName ≤ budget.maxCallsPerTool
  calls : result.calls = 1 ∨ result.calls = 2
  retried : result.calls = 2 → budget.retriesPerStep stepKey < budget.maxRetriesPerStep

@[simp] lemma failedResult_budget (budget : RunBudget) (calls : Nat) (code : String) :
    (failedResult budget calls code).budget = budget := rfl

@[simp] lemma failedResult_calls (budget : RunBudget) (calls : Nat) (code : String) :
    (failedResult budget calls code).calls = calls := rfl

lemma concluded_ok {budget : RunBudget} {calls : Nat} {answer : Answer}
    {result : ToolExecutionResult} (h : concluded budget calls answer = .ok result) :
    result.budget = budget ∧ result.calls = calls := by
  cases answer <;> cases h <;> exact ⟨rfl, rfl⟩

lemma authorize_ok {context : ControlledRunContext} {step : ResearchStepRecord}
    {catalog : ToolCatalogSnapshot} {policy : ResearchPolicyRecord} {tool : AllowedTool}
    (h : authorize context step catalog policy = .ok tool) :
    step.definition.toolName = some tool.toolName := by
  simp only [authorize, check_bind_ok, require_bind_ok] at h
  obtain ⟨-, -, -, name, hname, version, -, -, -, -, -, hret⟩ := h
  cases hret
  exact hname

lemma charged_of {toolName stepKey : String} {budget : RunBudget} {result : ToolExecutionResult}
    (hbudget : result.budget = { budget with
      consumedToolCalls := budget.consumedToolCalls + result.calls
      callsPerTool := Function.update budget.callsPerTool toolName
        (budget.callsPerTool toolName + result.calls)
      retriesPerStep := result.budget.retriesPerStep })
    (hcalls : result.calls = 1 ∨ result.calls = 2)
    (hwithin : budget.consumedToolCalls + result.calls ≤ budget.maxToolCalls)
    (htool : budget.callsPerTool toolName + result.calls ≤ budget.maxCallsPerTool)
    (hretried : result.calls = 2 → budget.retriesPerStep stepKey < budget.maxRetriesPerStep) :
    Charged toolName stepKey budget result where
  limits := by rw [hbudget]
  consumed := by rw [hbudget]
  perTool := by rw [hbudget]
  within := by rw [hbudget]; exact hwithin
  withinTool := by
    rw [hbudget]
    simpa using htool
  calls := hcalls
  retried := hretried

/-- One granted call, or a second one after a granted retry. -/
lemma attemptTool_ok {answer : Nat → Answer} {stepKey toolName : String}
    {budget granted : RunBudget} {result : ToolExecutionResult}
    (hgranted : consumeToolCall budget toolName = .ok granted)
    (h : attemptTool answer stepKey toolName granted = .ok result) :
    Charged toolName stepKey budget result := by
  obtain ⟨hcalls, htool, rfl⟩ := consumeToolCall_ok.mp hgranted
  clear hgranted
  unfold attemptTool at h
  split at h
  · split at h
    · cases h
      exact charged_of rfl (.inl rfl) hcalls htool (by rintro ⟨⟩)
    · rename_i retried hretry
      obtain ⟨hretries, rfl⟩ := consumeRetry_ok.mp hretry
      split at h
      · cases h
        exact charged_of rfl (.inl rfl) hcalls htool (by rintro ⟨⟩)
      · rename_i again hagain
        obtain ⟨hcalls', htool', rfl⟩ := consumeToolCall_ok.mp hagain
        obtain ⟨hbudget, hnumber⟩ := concluded_ok h
        simp only [Function.update_self] at hcalls' htool'
        refine charged_of ?_ (.inr hnumber) ?_ ?_ fun _ => hretries
        · rw [hbudget, hnumber]
          simp only [Function.update_self, Function.update_idem, Nat.add_assoc]
        · rw [hnumber]
          exact hcalls'
        · rw [hnumber]
          exact htool'
  · obtain ⟨hbudget, hnumber⟩ := concluded_ok h
    refine charged_of (by rw [hbudget, hnumber]) (.inl hnumber) ?_ ?_ ?_
    · rw [hnumber]
      exact hcalls
    · rw [hnumber]
      exact htool
    · rw [hnumber]
      rintro ⟨⟩

/-- **What a tool step consumes**: the calls that were made, for the tool of the step, within the
limits of the budget. -/
theorem executeTool_ok {context : ControlledRunContext} {catalog : ToolCatalogSnapshot}
    {policy : ResearchPolicyRecord} {refusal : Option String} {answer : Nat → Answer}
    {budget : RunBudget} {step : ResearchStepRecord} {result : ToolExecutionResult}
    (h : executeTool context catalog policy refusal answer budget step = .ok result) :
    ∃ toolName, step.definition.toolName = some toolName ∧
      Charged toolName step.definition.stepKey budget result := by
  obtain ⟨tool, hauthorize, h⟩ := Checked.bind_ok.mp h
  split at h
  · cases h
  · obtain ⟨granted, hgranted, h⟩ := Checked.bind_ok.mp h
    exact ⟨tool.toolName, authorize_ok hauthorize, attemptTool_ok hgranted h⟩

end StockResearch.ResearchAgent
