import StockResearch.ResearchAgent.Schemas
import StockResearch.Core.DepthFirst
import Mathlib.Data.List.Dedup

/-!
# Validation of a plan

`ResearchPlanValidator` admits a draft only against one policy and one tool catalog.  It looks at
the draft as a graph: the keys are distinct, every dependency names a step, no step leads back to
itself, and the step that builds claims, the one that validates them and the one that assembles the
package are reached in this order.  The indices are the positions in the draft.

* **`validate_ok`**: what an accepted draft is known to satisfy.
* `rejectCycles_ne_recursion`, `hasAncestor_ne_recursion`: the bound of the recursion in the model
  is not reached on a draft that got as far as these checks.
-/

namespace StockResearch.ResearchAgent

open PyJson Checked DepthFirst

def planChecksum (hash : IdealHash) (draft : ResearchPlanDraft) : String :=
  hash.checksum draft.dump

/-- A draft with its checksum. -/
structure ValidatedResearchPlan where
  draft : ResearchPlanDraft
  planChecksum : String

/-! ## The checks -/

/-- `by_key[key].dependency_keys`; the keys are distinct and known when this is asked. -/
def dependenciesOf (steps : List ResearchStepDefinition) (key : String) : List String :=
  ((steps.find? fun step => step.stepKey = key).map (·.dependencyKeys)).getD []

/-- What a search that stopped without an answer raises. -/
def stopCode : Stop → String
  | .cycle => "CYCLIC_PLAN"
  | .exhausted => "RecursionError"

def rejectCycles (steps : List ResearchStepDefinition) : Except String Unit :=
  match visitAll (dependenciesOf steps) (steps.length + 1) (steps.map (·.stepKey)) with
  | .ok _ => .ok ()
  | .error stop => .error (stopCode stop)

/-- The checks on the target and the dependencies of one step. -/
def validateStep (keys : List String) (step : ResearchStepDefinition) : Except String Unit := do
  check (step.toolName.isNone = step.componentName.isNone) "INVALID_STEP_TARGET"
  check (step.toolName = none ∧ step.toolVersion ≠ none) "INVALID_STEP_TARGET"
  check (step.toolName ≠ none ∧ step.toolVersion = none) "INVALID_STEP_TARGET"
  check (step.stepKey ∈ step.dependencyKeys) "SELF_STEP_DEPENDENCY"
  check (∃ key ∈ step.dependencyKeys, key ∉ keys) "UNKNOWN_STEP_DEPENDENCY"

/-- `_validate_tools`, for one step. -/
def validateTool (policy : ResearchPolicyRecord) (catalog : ToolCatalogSnapshot)
    (step : ResearchStepDefinition) : Except String Unit :=
  match step.toolName, step.toolVersion with
  | some name, some version => do
      check (⟨name, version⟩ ∉ catalog.entries) "TOOL_NOT_IN_CATALOG"
      check (⟨name, version⟩ ∉ policy.allowedTools ∨ ⟨name, version⟩ ∈ policy.deniedTools)
        "TOOL_NOT_ALLOWED_BY_POLICY"
  | _, _ => .ok ()

def hasAncestor (steps : List ResearchStepDefinition) (required : List String)
    (step : ResearchStepDefinition) : Except String Bool :=
  match search (dependenciesOf steps) (· ∈ required) (steps.length + 1) [] step.dependencyKeys with
  | .ok found => .ok found.1
  | .error stop => .error (stopCode stop)

def requireOrder (steps : List ResearchStepDefinition)
    (targetType requiredAncestorType : ResearchStepType) (code : String) : Except String Unit :=
  let ancestors := (steps.filter (·.stepType = requiredAncestorType)).map (·.stepKey)
  match steps.filter (·.stepType = targetType) with
  | [target] => do
      check (ancestors.dedup.length ≠ 1) code
      let found ← hasAncestor steps ancestors target
      check (found = false) code
  | _ => .error code

/-- `ResearchPlanValidator.validate` -/
def validate (hash : IdealHash) (draft : ResearchPlanDraft) (policy : ResearchPolicyRecord)
    (catalog : ToolCatalogSnapshot) : Except String ValidatedResearchPlan := do
  let steps := draft.steps
  let keys := steps.map (·.stepKey)
  check (draft.toolCatalogVersion ≠ catalog.catalogVersion) "TOOL_CATALOG_VERSION_MISMATCH"
  check (policy.maxSteps < steps.length) "STEP_BUDGET_EXCEEDED"
  check (keys.dedup.length ≠ keys.length) "DUPLICATE_STEP_KEY"
  check (steps.map (·.stepIndex) ≠ List.range steps.length) "NON_CONTIGUOUS_STEP_INDEX"
  check (.resolveSecurity ∉ steps.map (·.stepType)) "REQUIRED_IDENTITY_STEP_MISSING"
  check (.loadSnapshot ∉ steps.map (·.stepType)) "REQUIRED_SNAPSHOT_STEP_MISSING"
  steps.forM (validateStep keys)
  rejectCycles steps
  steps.forM (validateTool policy catalog)
  requireOrder steps .buildClaims .validateEvidence "INVALID_CLAIM_BUILD_ORDER"
  requireOrder steps .validateClaims .buildClaims "INVALID_CLAIM_VALIDATION_ORDER"
  requireOrder steps .assemblePackage .validateClaims "INVALID_PACKAGE_ORDER"
  return { draft, planChecksum := planChecksum hash draft }

/-! ## What an accepted draft satisfies -/

/-- The facts about a draft that its acceptance establishes. -/
structure Accepted (draft : ResearchPlanDraft) (policy : ResearchPolicyRecord)
    (catalog : ToolCatalogSnapshot) : Prop where
  catalogVersion : draft.toolCatalogVersion = catalog.catalogVersion
  fits : draft.steps.length ≤ policy.maxSteps
  keys_nodup : (draft.steps.map (·.stepKey)).Nodup
  indices : draft.steps.map (·.stepIndex) = List.range draft.steps.length
  target : ∀ step ∈ draft.steps, step.toolName.isSome ↔ step.toolVersion.isSome
  not_self : ∀ step ∈ draft.steps, step.stepKey ∉ step.dependencyKeys
  known : ∀ step ∈ draft.steps, ∀ key ∈ step.dependencyKeys,
    ∃ other ∈ draft.steps, other.stepKey = key
  tools : ∀ step ∈ draft.steps, ∀ name version, step.toolName = some name →
    step.toolVersion = some version → ⟨name, version⟩ ∈ catalog.entries ∧
      ⟨name, version⟩ ∈ policy.allowedTools ∧ ⟨name, version⟩ ∉ policy.deniedTools

lemma forM_ok {α : Type} {f : α → Except String Unit} {xs : List α} :
    xs.forM f = .ok () ↔ ∀ x ∈ xs, f x = .ok () := by
  induction xs with
  | nil => simp [pure, Except.pure]
  | cons x xs ih =>
      rw [List.forM_eq_forM, List.forM_cons, unit_bind_ok, ← List.forM_eq_forM, ih,
        List.forall_mem_cons]

lemma nodup_of_length_dedup {α : Type} [DecidableEq α] {l : List α}
    (h : l.dedup.length = l.length) : l.Nodup := by
  have hself : l.dedup = l := (List.dedup_sublist l).eq_of_length h
  exact hself ▸ List.nodup_dedup l

lemma validateStep_ok {keys : List String} {step : ResearchStepDefinition}
    (h : validateStep keys step = .ok ()) :
    (step.toolName.isSome ↔ step.toolVersion.isSome) ∧ step.stepKey ∉ step.dependencyKeys ∧
      ∀ key ∈ step.dependencyKeys, key ∈ keys := by
  simp only [validateStep, check_bind_ok, check_ok, not_exists, not_and, not_not] at h
  obtain ⟨-, hnone, hsome, hself, hknown⟩ := h
  refine ⟨?_, hself, hknown⟩
  cases hname : step.toolName <;> cases hversion : step.toolVersion <;> simp_all

lemma validateTool_ok {policy : ResearchPolicyRecord} {catalog : ToolCatalogSnapshot}
    {step : ResearchStepDefinition} (h : validateTool policy catalog step = .ok ())
    {name version : String} (hname : step.toolName = some name)
    (hversion : step.toolVersion = some version) :
    ⟨name, version⟩ ∈ catalog.entries ∧ ⟨name, version⟩ ∈ policy.allowedTools ∧
      ⟨name, version⟩ ∉ policy.deniedTools := by
  rw [validateTool, hname, hversion] at h
  simpa only [check_bind_ok, check_ok, not_not, not_or] using h

/-- **What acceptance establishes.**  Nothing in it relates the index of a step to the indices of
its dependencies. -/
theorem validate_ok {hash : IdealHash} {draft : ResearchPlanDraft} {policy : ResearchPolicyRecord}
    {catalog : ToolCatalogSnapshot} {plan : ValidatedResearchPlan}
    (h : validate hash draft policy catalog = .ok plan) :
    Accepted draft policy catalog ∧ plan = ⟨draft, planChecksum hash draft⟩ := by
  simp only [validate, unit_bind_ok, check_ok, forM_ok, not_not, not_lt] at h
  obtain ⟨hversion, hfits, hkeys, hindices, -, -, hsteps, -, htools, -, -, -, hplan⟩ := h
  refine ⟨⟨hversion, hfits, nodup_of_length_dedup hkeys, hindices,
    fun step hstep => (validateStep_ok (hsteps step hstep)).1,
    fun step hstep => (validateStep_ok (hsteps step hstep)).2.1,
    fun step hstep key hkey => ?_, fun step hstep name version hname hver =>
      validateTool_ok (htools step hstep) hname hver⟩, ?_⟩
  · exact List.mem_map.mp ((validateStep_ok (hsteps step hstep)).2.2 key hkey)
  · cases hplan
    rfl

/-! ## The bound of the recursion -/

section Recursion

variable {steps : List ResearchStepDefinition}
  (hknown : ∀ step ∈ steps, ∀ key ∈ step.dependencyKeys, key ∈ steps.map (·.stepKey))

include hknown

lemma dependenciesOf_subset (key : String) :
    dependenciesOf steps key ⊆ steps.map (·.stepKey) := by
  intro other hother
  cases hfound : steps.find? fun step => step.stepKey = key with
  | none => simp [dependenciesOf, hfound] at hother
  | some step =>
      rw [dependenciesOf, hfound] at hother
      exact hknown step (List.mem_of_find?_eq_some hfound) other hother

/-- The search for cycles ends before the bound. -/
theorem rejectCycles_ne_recursion : rejectCycles steps ≠ .error "RecursionError" := by
  have hvisit := visit_not_exhausted fun key _ => dependenciesOf_subset hknown key
  have hbody : ∀ s : Marks String, s.visiting = [] → ∀ key ∈ steps.map (·.stepKey),
      visit (dependenciesOf steps) (steps.length + 1) s key ≠ .error .exhausted ∧
        ∀ s', visit (dependenciesOf steps) (steps.length + 1) s key = .ok s' →
          s'.visiting = [] := by
    intro s hs key hkey
    have h := hvisit (steps.length + 1) s key (by rw [hs]; exact List.nodup_nil)
      (by rw [hs]; exact List.nil_subset _) hkey (by rw [hs, List.length_map]; simp)
    rwa [hs] at h
  have hloop := foldlM_not_exhausted hbody ⟨[], []⟩ rfl
  unfold rejectCycles visitAll
  split
  · simp
  · rename_i stop hstop
    cases stop with
    | cycle => simp [stopCode]
    | exhausted => exact absurd hstop hloop.1

/-- The search for an ancestor ends before the bound. -/
theorem hasAncestor_ne_recursion (required : List String) {step : ResearchStepDefinition}
    (hstep : step ∈ steps) : hasAncestor steps required step ≠ .error "RecursionError" := by
  have hsearch : search (dependenciesOf steps) (· ∈ required) (steps.length + 1) []
      step.dependencyKeys ≠ .error .exhausted ∧ _ := search_not_exhausted (fun key _ => dependenciesOf_subset hknown key) (steps.length + 1) [] step.dependencyKeys
    List.nodup_nil (List.nil_subset _) (hknown step hstep) (by rw [List.length_map]; simp)
  unfold hasAncestor
  split
  · simp
  · rename_i stop hstop
    cases stop with
    | cycle => simp [stopCode]
    | exhausted => exact absurd hstop hsearch.1

end Recursion

end StockResearch.ResearchAgent
