import StockResearch.Core.Dict
import StockResearch.Core.Reachability
import StockResearch.ResearchAgent.StepOrder

/-!
# The graph of an accepted plan

`DependsOn` is the dependency relation of a list of steps, and `Precedes` what is reached along it
by one or more edges.

**Searches.**  `rejectCycles_iff`: the search for cycles rejects exactly the graphs that have one.
`hasAncestor_iff`: the search for an ancestor answers yes exactly when a required step is reached.

**Plans.**  `requireOrder_ok`: what one required order says of the graph.

**`plan_graph_law`**: both searches decide reachability, and an accepted plan has the steps of the
claim pipeline in their order.
-/

namespace StockResearch.ResearchAgent

open Checked DepthFirst Relation

/-- A step with the first key names the second one as a dependency. -/
def DependsOn (steps : List ResearchStepDefinition) (key dependency : String) : Prop :=
  ∃ step ∈ steps, step.stepKey = key ∧ dependency ∈ step.dependencyKeys

/-- The second key is reached from the first one by one or more dependencies. -/
def Precedes (steps : List ResearchStepDefinition) (ancestor key : String) : Prop :=
  TransGen (DependsOn steps) key ancestor

/-- The graph of the steps has no directed cycle. -/
def Acyclic (steps : List ResearchStepDefinition) : Prop := ∀ key, ¬ Precedes steps key key

/-- The keys are distinct, and every dependency is the key of a step. -/
structure WellKeyed (steps : List ResearchStepDefinition) : Prop where
  nodup : (steps.map (·.stepKey)).Nodup
  known : ∀ step ∈ steps, ∀ key ∈ step.dependencyKeys, key ∈ steps.map (·.stepKey)

variable {steps : List ResearchStepDefinition}

/-! ## The two searches -/

lemma WellKeyed.dependenciesOf_eq (h : WellKeyed steps) {step : ResearchStepDefinition}
    (hstep : step ∈ steps) : dependenciesOf steps step.stepKey = step.dependencyKeys := by
  have hfind : (steps.find? fun s => s.stepKey = step.stepKey) = some step :=
    Dict.find?_of_unique hstep (by simp) fun other hother hkey =>
      List.inj_on_of_nodup_map h.nodup hother hstep (by simpa using hkey)
  rw [dependenciesOf, hfind]
  rfl

/-- The edges that the searches follow are the dependencies of the steps. -/
lemma WellKeyed.edge_eq (h : WellKeyed steps) : Edge (dependenciesOf steps) = DependsOn steps := by
  funext key dependency
  refine propext ⟨fun hedge => ?_, ?_⟩
  · cases hfound : steps.find? fun step => step.stepKey = key with
    | none => simp [Edge, dependenciesOf, hfound] at hedge
    | some step =>
        refine ⟨step, List.mem_of_find?_eq_some hfound, by simpa using List.find?_some hfound, ?_⟩
        simpa [Edge, dependenciesOf, hfound] using hedge
  · rintro ⟨step, hstep, rfl, hmem⟩
    rw [Edge, h.dependenciesOf_eq hstep]
    exact hmem

/-- A key that depends on something is the key of a step. -/
lemma mem_keys_of_precedes {key ancestor : String} (h : Precedes steps ancestor key) :
    key ∈ steps.map (·.stepKey) := by
  obtain ⟨_, ⟨step, hstep, rfl, -⟩, -⟩ := TransGen.head'_iff.mp h
  exact List.mem_map_of_mem hstep

/-- **The search for cycles rejects exactly the graphs that have one.** -/
theorem rejectCycles_iff (h : WellKeyed steps) :
    (rejectCycles steps = .ok () ↔ Acyclic steps) ∧
      (rejectCycles steps = .error "CYCLIC_PLAN" ↔ ¬ Acyclic steps) := by
  have hclosed : ∀ key ∈ steps.map (·.stepKey),
      dependenciesOf steps key ⊆ steps.map (·.stepKey) :=
    fun key _ => dependenciesOf_subset h.known key
  have hfuel : (steps.map (·.stepKey)).length < steps.length + 1 := by simp
  have hacyclic : visitAll (dependenciesOf steps) (steps.length + 1) (steps.map (·.stepKey)) =
      .error .cycle ↔ ¬ Acyclic steps := by
    rw [visitAll_cycle_iff hclosed hfuel, h.edge_eq]
    constructor
    · rintro ⟨key, hprecedes, -⟩ hnone
      exact hnone key hprecedes
    · intro hnot
      unfold Acyclic at hnot
      push Not at hnot
      obtain ⟨key, hprecedes⟩ := hnot
      exact ⟨key, hprecedes, mem_keys_of_precedes hprecedes⟩
  have hbound := rejectCycles_ne_recursion h.known
  unfold rejectCycles at hbound ⊢
  cases hrun : visitAll (dependenciesOf steps) (steps.length + 1) (steps.map (·.stepKey)) with
  | ok marks =>
      rw [hrun] at hacyclic
      have hnone : Acyclic steps := by simpa using hacyclic
      simpa using hnone
  | error stop =>
      cases stop with
      | cycle =>
          rw [hrun] at hacyclic
          have hsome : ¬ Acyclic steps := hacyclic.mp rfl
          simpa [stopCode] using hsome
      | exhausted =>
          rw [hrun] at hbound
          exact absurd rfl hbound

/-- **The search for an ancestor answers yes exactly when a required step is reached.** -/
theorem hasAncestor_iff (h : WellKeyed steps) (required : List String)
    {step : ResearchStepDefinition} (hstep : step ∈ steps) :
    ∃ found, hasAncestor steps required step = .ok found ∧
      (found = true ↔ ∃ key ∈ required, Precedes steps key step.stepKey) := by
  have hclosed : ∀ key ∈ steps.map (·.stepKey),
      dependenciesOf steps key ⊆ steps.map (·.stepKey) :=
    fun key _ => dependenciesOf_subset h.known key
  have hkeys : step.dependencyKeys ⊆ steps.map (·.stepKey) := fun key => h.known step hstep key
  have hfuel : (steps.map (·.stepKey)).length < steps.length + 1 := by simp
  obtain ⟨found, seen, hsearch, hfound⟩ :=
    @search_iff _ _ _ (fun key => decide (key ∈ required)) _ _ hclosed hkeys _ hfuel
  refine ⟨found, by rw [hasAncestor, hsearch], ?_⟩
  rw [hfound, h.edge_eq]
  constructor
  · rintro ⟨first, hfirst, key, hreach, hrequired⟩
    exact ⟨key, by simpa using hrequired, TransGen.head' ⟨step, hstep, rfl, hfirst⟩ hreach⟩
  · rintro ⟨key, hrequired, hprecedes⟩
    obtain ⟨first, hedge, hreach⟩ := TransGen.head'_iff.mp hprecedes
    have hfirst : first ∈ step.dependencyKeys := by
      rw [← h.edge_eq, Edge, h.dependenciesOf_eq hstep] at hedge
      exact hedge
    exact ⟨first, hfirst, key, hreach, by simpa using hrequired⟩

/-! ## Accepted plans -/

/-- There is one step of each of the two types, and the first of them precedes the second one. -/
def Ordered (steps : List ResearchStepDefinition) (earlier later : ResearchStepType) : Prop :=
  ∃ a b, steps.filter (·.stepType = earlier) = [a] ∧ steps.filter (·.stepType = later) = [b] ∧
    Precedes steps a.stepKey b.stepKey

/-- Distinct keys, of which the set has one. -/
lemma eq_singleton_of_dedup {keys : List String} (hnodup : keys.Nodup)
    (h : keys.dedup.length = 1) : ∃ key, keys = [key] := by
  rw [hnodup.dedup] at h
  exact List.length_eq_one_iff.mp h

/-- What a required order that is met says of the graph. -/
lemma requireOrder_ok (h : WellKeyed steps) {later earlier : ResearchStepType} {code : String}
    (hok : requireOrder steps later earlier code = .ok ()) : Ordered steps earlier later := by
  unfold requireOrder at hok
  dsimp only at hok
  split at hok
  · rename_i target htarget
    have hmem : target ∈ steps := (List.mem_filter.mp (htarget ▸ List.mem_singleton_self _)).1
    obtain ⟨hlength, hok⟩ := check_bind_ok.mp hok
    obtain ⟨found, hfound, hok⟩ := bind_ok.mp hok
    have hyes : found = true := by simpa using check_ok.mp hok
    obtain ⟨found', hsearch, hiff⟩ := hasAncestor_iff h
      ((steps.filter (·.stepType = earlier)).map (·.stepKey)) hmem
    obtain rfl : found = found' := Except.ok.inj (hfound.symm.trans hsearch)
    obtain ⟨key, hkey, hprecedes⟩ := hiff.mp hyes
    have hnodup : ((steps.filter (·.stepType = earlier)).map (·.stepKey)).Nodup :=
      h.nodup.sublist (List.filter_sublist.map _)
    obtain ⟨only, honly⟩ := eq_singleton_of_dedup hnodup (not_not.mp hlength)
    obtain ⟨ancestor, hancestor, rfl⟩ := List.map_eq_singleton_iff.mp honly
    rw [honly, List.mem_singleton] at hkey
    subst hkey
    exact ⟨ancestor, target, hancestor, htarget, hprecedes⟩
  · cases hok

/-- The steps of a draft are well keyed when the search for cycles begins. -/
lemma wellKeyed_of_accepted {draft : ResearchPlanDraft} {policy : ResearchPolicyRecord}
    {catalog : ToolCatalogSnapshot} (h : Accepted draft policy catalog) : WellKeyed draft.steps :=
  ⟨h.keys_nodup, fun step hstep key hkey => by
    obtain ⟨other, hother, rfl⟩ := h.known step hstep key hkey
    exact List.mem_map_of_mem hother⟩

/-- **The graph law of plans.**  On steps with distinct keys and known dependencies the search for
cycles ends, and rejects exactly if there is a cycle.  If there is none, the search for an ancestor
finds one exactly if a required key is reached.  In an accepted plan the evidence is validated before
the claims are built, these are validated after that, and the package is assembled last. -/
theorem plan_graph_law :
    (∀ steps, WellKeyed steps →
      (rejectCycles steps = .ok () ∨ rejectCycles steps = .error "CYCLIC_PLAN") ∧
      (rejectCycles steps = .error "CYCLIC_PLAN" ↔ ∃ key, Precedes steps key key) ∧
      (Acyclic steps → ∀ required, ∀ step ∈ steps,
        ∃ found, hasAncestor steps required step = .ok found ∧
          (found = true ↔ ∃ key ∈ required, Precedes steps key step.stepKey))) ∧
    ∀ hash draft policy catalog plan, validate hash draft policy catalog = .ok plan →
      Acyclic plan.draft.steps ∧
      Ordered plan.draft.steps .validateEvidence .buildClaims ∧
      Ordered plan.draft.steps .buildClaims .validateClaims ∧
      Ordered plan.draft.steps .validateClaims .assemblePackage := by
  constructor
  · intro steps h
    obtain ⟨hok, hcycle⟩ := rejectCycles_iff h
    refine ⟨?_, ?_, fun _ required step hstep => hasAncestor_iff h required hstep⟩
    · by_cases hacyclic : Acyclic steps
      · exact Or.inl (hok.mpr hacyclic)
      · exact Or.inr (hcycle.mpr hacyclic)
    · rw [hcycle, Acyclic, not_forall_not]
  · intro hash draft policy catalog plan h
    obtain ⟨haccepted, rfl⟩ := validate_ok h
    have hkeyed := wellKeyed_of_accepted haccepted
    simp only [validate, unit_bind_ok, check_ok, forM_ok, not_not, not_lt] at h
    obtain ⟨-, -, -, -, -, -, -, hcycles, -, hbuild, hvalidate, hassemble, -⟩ := h
    exact ⟨(rejectCycles_iff hkeyed).1.mp hcycles, requireOrder_ok hkeyed hbuild,
      requireOrder_ok hkeyed hvalidate, requireOrder_ok hkeyed hassemble⟩

/-- A plan of six steps, and two steps that wait for each other. -/
theorem plan_graph_law_six_steps :
    rejectCycles [componentStep 0 "load_snapshot" .loadSnapshot ["resolve_security"],
        componentStep 1 "resolve_security" .resolveSecurity ["load_snapshot"]] =
      .error "CYCLIC_PLAN" ∧
    Ordered (sixSteps []).steps .validateClaims .assemblePackage := by
  refine ⟨?_, (plan_graph_law.2 default (sixSteps []) sixStepPolicy oneToolCatalog _
    sixSteps_accepted).2.2.2⟩
  refine (plan_graph_law.1 _ ⟨by decide, by decide⟩).2.1.mpr ⟨"load_snapshot", ?_⟩
  exact .tail (.single ⟨_, List.mem_cons_self .., rfl, List.mem_singleton_self _⟩)
    ⟨_, List.mem_cons_of_mem _ (List.mem_cons_self ..), rfl, List.mem_singleton_self _⟩

end StockResearch.ResearchAgent
