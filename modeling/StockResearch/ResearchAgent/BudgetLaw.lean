import StockResearch.ResearchAgent.Resumption

/-!
# What a run may consume

The budget of a run is read off its policy.  The budgets that the request asks for are compared with
the policy when the request is stored, and nothing reads them after that.

* `Usage`: what an execution used, read off what happened, and `RequestedBudgets.Respected`.
* `demand`: what a plan needs, from its steps, the first answers of its tools and the limits of the
  policy.
* `Ledgered`: the budget knows the calls that were made.
* **`execution_usage`**: an execution that ends stays within the limits of its policy, has consumed
  the calls that it made, and stays within the requested budgets if and only if the plan needs no
  more.
* **`requested_budget_ignored`**: a request for one tool call whose run makes two.
-/

namespace StockResearch.ResearchAgent

open PyJson PyTime Checked Txn Txn.Program

/-! ## Usage -/

/-- What an execution used: the steps that it started, the calls of the registry by step and tool,
and the time. -/
structure Usage where
  steps : Nat
  calls : List (String × String)
  microseconds : Nat

/-- The calls for a tool. -/
def Usage.perTool (u : Usage) (toolName : String) : Nat := (u.calls.filter (·.2 = toolName)).length

/-- The calls for a step after the first. -/
def Usage.retries (u : Usage) (stepKey : String) : Nat :=
  (u.calls.filter (·.1 = stepKey)).length - 1

/-- No requested limit is exceeded. -/
structure RequestedBudgets.Respected (requested : RequestedBudgets) (u : Usage) : Prop where
  steps : ∀ n ∈ requested.maxSteps, u.steps ≤ n
  toolCalls : ∀ n ∈ requested.maxToolCalls, u.calls.length ≤ n
  callsPerTool : ∀ n ∈ requested.maxCallsPerTool, ∀ toolName, u.perTool toolName ≤ n
  retriesPerStep : ∀ n ∈ requested.maxRetriesPerStep, ∀ stepKey, u.retries stepKey ≤ n
  duration : ∀ n ∈ requested.maxDurationSeconds, u.microseconds ≤ n * 1000000

def Occurrence.start? : Occurrence → Option ResearchStepRecord
  | .started step _ => some step
  | .called _ _ | .concluded _ _ => none

def Occurrence.call? : Occurrence → Option (String × String)
  | .called stepKey toolName => some (stepKey, toolName)
  | .started _ _ | .concluded _ _ => none

/-- The calls of the registry, in order. -/
def calls (occurrences : List Occurrence) : List (String × String) :=
  occurrences.filterMap Occurrence.call?

/-- What was used until now. -/
def usage (w : World) : Usage where
  steps := (w.occurrences.filterMap Occurrence.start?).length
  calls := calls w.occurrences
  microseconds := w.elapsed

/-! ## Demand -/

/-- The attempts of a tool step that comes after the given calls: a second one follows a transient
error, if the limits of the policy leave room for it. -/
def attempts (policy : ResearchPolicyRecord) (first : Answer) (made : List (String × String))
    (toolName : String) : Nat :=
  if first = .executionError "TRANSIENT_INTERNAL" ∧ 0 < policy.maxRetriesPerStep ∧
      made.length + 1 < policy.maxToolCalls ∧
      (made.filter (·.2 = toolName)).length + 1 < policy.maxCallsPerTool
  then 2 else 1

/-- The calls of the steps of a plan, after the given ones. -/
def demandCalls (σ : Surroundings) (policy : ResearchPolicyRecord) :
    List ResearchStepRecord → List (String × String) → List (String × String)
  | [], made => made
  | step :: steps, made =>
      match step.definition.toolName with
      | none => demandCalls σ policy steps made
      | some toolName => demandCalls σ policy steps (made ++
          List.replicate (attempts policy (σ.answer step 1) made toolName)
            (step.definition.stepKey, toolName))

/-- What the steps of a plan need that are not finished yet. -/
def demand (σ : Surroundings) (policy : ResearchPolicyRecord) (steps : List ResearchStepRecord) :
    Usage where
  steps := (steps.filter (·.status.terminal = false)).length
  calls := demandCalls σ policy (steps.filter (·.status.terminal = false)) []
  microseconds := ((steps.filter (·.status.terminal = false)).map σ.duration).sum + σ.closing

/-! ## The budget knows the calls -/

/-- A budget with the limits of the policy that has been charged for the given calls, and for no
retry of the given steps. -/
structure Ledgered (policy : ResearchPolicyRecord) (made : List (String × String))
    (untried : List String) (budget : RunBudget) : Prop where
  maxToolCalls : budget.maxToolCalls = policy.maxToolCalls
  maxCallsPerTool : budget.maxCallsPerTool = policy.maxCallsPerTool
  maxRetriesPerStep : budget.maxRetriesPerStep = policy.maxRetriesPerStep
  consumed : budget.consumedToolCalls = made.length
  within : made.length ≤ policy.maxToolCalls
  perTool : ∀ toolName, budget.callsPerTool toolName = (made.filter (·.2 = toolName)).length
  untried : ∀ key ∈ untried, budget.retriesPerStep key = 0

lemma ledgered_initial (policy : ResearchPolicyRecord) (untried : List String) :
    Ledgered policy [] untried (initialBudget policy) :=
  ⟨rfl, rfl, rfl, rfl, Nat.zero_le _, fun _ => rfl, fun _ _ => rfl⟩

lemma attemptTool_calls {answer : Nat → Answer} {stepKey toolName : String}
    {budget granted : RunBudget} {result : ToolExecutionResult}
    (hgranted : consumeToolCall budget toolName = .ok granted)
    (h : attemptTool answer stepKey toolName granted = .ok result) :
    (result.calls = if answer 1 = .executionError "TRANSIENT_INTERNAL" ∧
        budget.retriesPerStep stepKey < budget.maxRetriesPerStep ∧
        budget.consumedToolCalls + 1 < budget.maxToolCalls ∧
        budget.callsPerTool toolName + 1 < budget.maxCallsPerTool then 2 else 1) ∧
      ∀ key ≠ stepKey, result.budget.retriesPerStep key = budget.retriesPerStep key := by
  obtain ⟨hcalls, htool, rfl⟩ := consumeToolCall_ok.mp hgranted
  clear hgranted
  unfold attemptTool at h
  split at h
  · rename_i htransient
    split at h
    · rename_i code hretry
      cases h
      have hno : ¬ budget.retriesPerStep stepKey < budget.maxRetriesPerStep := by
        intro hlt
        cases hretry.symm.trans (consumeRetry_ok.mpr ⟨hlt, rfl⟩)
      exact ⟨by simp [hno], fun _ _ => rfl⟩
    · rename_i retried hretry
      obtain ⟨hretries, rfl⟩ := consumeRetry_ok.mp hretry
      split at h
      · rename_i code hagain
        cases h
        have hno : ¬ (budget.consumedToolCalls + 1 < budget.maxToolCalls ∧
            budget.callsPerTool toolName + 1 < budget.maxCallsPerTool) := by
          rintro ⟨hcalls', htool'⟩
          cases hagain.symm.trans
            (consumeToolCall_ok.mpr ⟨hcalls', by simpa using htool', rfl⟩)
        refine ⟨?_, fun key hkey => ?_⟩
        · rw [if_neg fun hall => hno hall.2.2]
          rfl
        · exact Function.update_of_ne hkey _ _
      · rename_i again hagain
        obtain ⟨hcalls', htool', rfl⟩ := consumeToolCall_ok.mp hagain
        simp only [Function.update_self] at hcalls' htool'
        obtain ⟨hbudget, hnumber⟩ := concluded_ok h
        refine ⟨?_, fun key hkey => ?_⟩
        · rw [hnumber, if_pos ⟨htransient, hretries, hcalls', htool'⟩]
        · rw [hbudget]
          exact Function.update_of_ne hkey _ _
  · rename_i htransient
    obtain ⟨hbudget, hnumber⟩ := concluded_ok h
    refine ⟨?_, fun _ _ => by rw [hbudget]⟩
    rw [hnumber, if_neg fun hall => htransient hall.1]

section Step

variable {σ : Surroundings} {a : Assignment} {run : ResearchAgentRunRecord} {progress : Progress}
  {step : ResearchStepRecord} {p : Performed}

lemma calls_replicate (n : Nat) (stepKey toolName : String) (stepId : Uuid) (outcome : ToolOutcome) :
    calls (List.replicate n (.called stepKey toolName) ++ [.concluded stepId outcome]) =
      List.replicate n (stepKey, toolName) := by
  rw [calls, List.filterMap_append, List.filterMap_replicate]
  simp [Occurrence.call?]

lemma perform_component_budget (hnone : step.definition.toolName = none)
    (h : perform σ a run progress step = .ok p) :
    calls p.occurrences = [] ∧ p.progress.budget = progress.budget := by
  rw [perform, hnone] at h
  obtain ⟨_, -, hret⟩ := Checked.bind_ok.mp h
  cases hret
  exact ⟨rfl, rfl⟩

/-- What a tool step adds to the calls, and that the budget is charged for it. -/
lemma perform_tool_budget {made : List (String × String)} {untried : List String}
    {toolName : String} (hsome : step.definition.toolName = some toolName)
    (hkey : step.definition.stepKey ∉ untried)
    (hledgered : Ledgered a.policy made (step.definition.stepKey :: untried) progress.budget)
    (h : perform σ a run progress step = .ok p) :
    calls p.occurrences = List.replicate (attempts a.policy (σ.answer step 1) made toolName)
        (step.definition.stepKey, toolName) ∧
      Ledgered a.policy (made ++ calls p.occurrences) untried p.progress.budget := by
  rw [perform, hsome] at h
  obtain ⟨result, hexecute, h⟩ := Checked.bind_ok.mp h
  obtain ⟨_, -, hret⟩ := Checked.bind_ok.mp h
  cases hret
  rw [calls_replicate]
  obtain ⟨name, hname, hcharged⟩ := executeTool_ok hexecute
  obtain rfl : name = toolName := Option.some.inj (hname.symm.trans hsome)
  obtain ⟨tool, hauthorize, hrest⟩ := Checked.bind_ok.mp hexecute
  obtain rfl : tool.toolName = name :=
    Option.some.inj ((authorize_ok hauthorize).symm.trans hsome)
  split at hrest
  · cases hrest
  obtain ⟨granted, hgranted, hattempt⟩ := Checked.bind_ok.mp hrest
  obtain ⟨hcalls, hretries⟩ := attemptTool_calls hgranted hattempt
  have huntried := hledgered.untried step.definition.stepKey List.mem_cons_self
  rw [huntried, hledgered.maxRetriesPerStep, hledgered.consumed, hledgered.maxToolCalls,
    hledgered.perTool, hledgered.maxCallsPerTool] at hcalls
  refine ⟨by rw [hcalls]; rfl, ?_⟩
  have hlimits := hcharged.limits
  refine ⟨?_, ?_, ?_, ?_, ?_, fun toolName => ?_, fun key hmem => ?_⟩
  · rw [hlimits]
    exact hledgered.maxToolCalls
  · rw [hlimits]
    exact hledgered.maxCallsPerTool
  · rw [hlimits]
    exact hledgered.maxRetriesPerStep
  · rw [hcharged.consumed, hledgered.consumed, List.length_append, List.length_replicate]
  · have hwithin := hcharged.within
    rw [hcharged.consumed, hledgered.consumed, hledgered.maxToolCalls] at hwithin
    rw [List.length_append, List.length_replicate]
    exact hwithin
  · rw [hcharged.perTool, List.filter_append, List.length_append]
    by_cases htool : toolName = tool.toolName
    · subst htool
      rw [Function.update_self, hledgered.perTool, List.filter_replicate_of_pos (by simp),
        List.length_replicate]
    · rw [Function.update_of_ne htool, hledgered.perTool,
        List.filter_replicate_of_neg (by simpa using Ne.symm htool), List.length_nil, Nat.add_zero]
  · have hne : key ≠ step.definition.stepKey := by
      rintro rfl
      exact hkey hmem
    rw [hretries key hne]
    exact hledgered.untried key (List.mem_cons_of_mem _ hmem)

end Step

/-- **The calls of the loop are those that its steps need**, and the budget is charged for them. -/
lemma performAll_calls {σ : Surroundings} {a : Assignment} {run : ResearchAgentRunRecord}
    {steps : List ResearchStepRecord} {progress final : Progress}
    {ps : List (ResearchStepRecord × Performed)} {made : List (String × String)}
    (hkeys : (steps.map (·.definition.stepKey)).Nodup)
    (hledgered : Ledgered a.policy made (steps.map (·.definition.stepKey)) progress.budget)
    (h : performAll σ a run steps progress = .ok (ps, final)) :
    made ++ ps.flatMap (fun x => calls x.2.occurrences) =
        demandCalls σ a.policy (steps.filter (·.status.terminal = false)) made ∧
      ps.map (·.1) = steps.filter (·.status.terminal = false) ∧
      Ledgered a.policy (made ++ ps.flatMap fun x => calls x.2.occurrences) [] final.budget := by
  induction steps generalizing progress ps made with
  | nil =>
      cases h
      simpa using ⟨rfl, hledgered⟩
  | cons step steps ih =>
      rw [List.map_cons, List.nodup_cons] at hkeys
      cases hterminal : step.status.terminal with
      | true =>
          rw [List.filter_cons_of_neg (by simp [hterminal])]
          refine ih hkeys.2 { hledgered with untried := fun key hkey => ?_ }
            ((performAll_skip hterminal).symm.trans h)
          exact hledgered.untried key (List.mem_cons_of_mem _ hkey)
      | false =>
          rw [List.filter_cons_of_pos (by simp [hterminal])]
          obtain ⟨p, hp, qs, hqs, heq⟩ := (performAll_perform hterminal).mp h
          obtain rfl : ps = (step, p) :: qs := heq
          rw [List.flatMap_cons, ← List.append_assoc, List.map_cons]
          cases htool : step.definition.toolName with
          | none =>
              obtain ⟨hcalls, hbudget⟩ := perform_component_budget htool hp
              have hstart : Ledgered a.policy made (steps.map (·.definition.stepKey))
                  p.progress.budget := by
                rw [hbudget]
                exact { hledgered with
                  untried := fun key hkey => hledgered.untried key (List.mem_cons_of_mem _ hkey) }
              obtain ⟨hdemand, hsteps, hend⟩ := ih hkeys.2 hstart hqs
              rw [demandCalls, htool, hcalls, List.append_nil]
              exact ⟨hdemand, by rw [hsteps], hend⟩
          | some toolName =>
              obtain ⟨hcalls, hstart⟩ := perform_tool_budget htool hkeys.1 hledgered hp
              obtain ⟨hdemand, hsteps, hend⟩ := ih hkeys.2 hstart hqs
              rw [demandCalls, htool]
              refine ⟨?_, by rw [hsteps], hend⟩
              rw [hdemand, hcalls]

/-! ## Executions -/

lemma map_definition_listSteps {draft : ResearchPlanDraft} {planId : Uuid} {w : World}
    (h : Planted draft planId w) :
    ((listSteps w.steps planId).map (·.definition)).Perm draft.steps := by
  rw [← h.rows]
  exact (List.perm_insertionSort stepLE _).map _

lemma LoopEffect.usage {σ : Surroundings} {ps : List (ResearchStepRecord × Performed)} {w w' : World}
    (h : LoopEffect σ ps w w') (hps : ∀ x ∈ ps, ∀ o ∈ x.2.occurrences, o.isStart = false)
    (hfresh : w.occurrences = []) :
    (w'.occurrences.filterMap Occurrence.start?).length = ps.length ∧
      calls w'.occurrences = ps.flatMap fun x => calls x.2.occurrences := by
  constructor
  · rw [h.occurrences Occurrence.start? fun _ _ => rfl, hfresh]
    have hone : ∀ x ∈ ps, ((.started x.1 [] :: x.2.occurrences).filterMap Occurrence.start?) =
        [x.1] := by
      intro x hx
      have hnone : x.2.occurrences.filterMap Occurrence.start? = [] := by
        refine List.filterMap_eq_nil_iff.mpr fun o ho => ?_
        have hstart := hps x hx o ho
        cases o with
        | started _ _ => cases hstart
        | called _ _ => rfl
        | concluded _ _ => rfl
      rw [List.filterMap_cons, hnone]
      rfl
    rw [List.flatMap_congr hone]
    simp
  · have hcalls := h.occurrences Occurrence.call? fun _ _ => rfl
    rw [hfresh] at hcalls
    exact hcalls

lemma performAll_noStart {σ : Surroundings} {a : Assignment} {run : ResearchAgentRunRecord}
    {steps : List ResearchStepRecord} {progress final : Progress}
    {ps : List (ResearchStepRecord × Performed)}
    (h : performAll σ a run steps progress = .ok (ps, final)) :
    ∀ x ∈ ps, ∀ o ∈ x.2.occurrences, o.isStart = false := by
  induction steps generalizing progress ps with
  | nil =>
      cases h
      simp
  | cons step steps ih =>
      cases hterminal : step.status.terminal with
      | true => exact ih ((performAll_skip hterminal).symm.trans h)
      | false =>
          obtain ⟨p, hp, qs, hqs, heq⟩ := (performAll_perform hterminal).mp h
          obtain rfl : ps = (step, p) :: qs := heq
          intro x hx
          rcases List.mem_cons.mp hx with rfl | hx
          · exact perform_occurrences hp
          · exact ih hqs x hx

/-- **What an execution uses.**  It stays within the limits of its policy, and its budget has been
charged for exactly the calls that it made.  The requested budgets are respected if and only if the
steps of the plan need no more than they allow. -/
theorem execution_usage {σ : Surroundings} {a : Assignment} {hash : IdealHash}
    {draft : ResearchPlanDraft} {plan : ValidatedResearchPlan} {planId : Uuid} {w w' : World}
    {run : ResearchAgentRunRecord} {package : ResearchPackageRecord}
    (hvalid : validate hash draft a.policy a.catalog = .ok plan) (hplanted : Planted draft planId w)
    (hbudget : w.run.budget = initialBudget a.policy) (hfresh : w.occurrences = [])
    (helapsed : w.elapsed = 0) (h : execute σ a w = (.ok (run, package), w')) :
    (usage w').steps ≤ a.policy.maxSteps ∧
      (usage w').calls.length ≤ a.policy.maxToolCalls ∧
      (usage w').calls.length = run.budget.consumedToolCalls ∧
      (a.request.requestedBudgets.Respected (usage w') ↔
        a.request.requestedBudgets.Respected
          (demand σ a.policy (listSteps w.steps planId))) := by
  obtain ⟨haccepted, -⟩ := validate_ok hvalid
  obtain ⟨w₁, steps, ps, progress, w₂, hbegin, hplan, hloop, heffect, hfinish, hend, htime⟩ :=
    execute_ok h
  have hw₁ := beginRun_ok hbegin
  have hsteps : steps = listSteps w.steps planId := by
    unfold planSteps at hplan
    rw [hw₁] at hplan
    simp only [hplanted.plan] at hplan
    exact (Except.ok.inj (Prod.mk.inj hplan).1).symm
  have hperm := map_definition_listSteps hplanted
  have hkeys : ((listSteps w.steps planId).map (·.definition.stepKey)).Nodup := by
    have hmap := (hperm.map (·.stepKey)).nodup_iff.mpr haccepted.keys_nodup
    rwa [List.map_map] at hmap
  have hstart : w₁.run.budget = initialBudget a.policy := by rw [hw₁]; exact hbudget
  rw [hsteps, hstart] at hloop
  obtain ⟨hcalls, hperformed, hledgered⟩ :=
    performAll_calls hkeys (ledgered_initial a.policy _) hloop
  obtain ⟨hstarted, hmade⟩ := heffect.usage (performAll_noStart hloop) (by rw [hw₁]; exact hfresh)
  rw [List.nil_append] at hcalls hledgered
  have husage : usage w' = demand σ a.policy (listSteps w.steps planId) := by
    have htimes : w'.elapsed = ((ps.map (·.1)).map σ.duration).sum + σ.closing := by
      rw [htime, heffect.elapsed, hw₁, List.map_map]
      change w.elapsed + _ + _ = _
      rw [helapsed, Nat.zero_add]
      rfl
    rw [usage, hend, hstarted, hmade, hcalls, htimes, hperformed, ← List.length_map (·.1),
      hperformed]
    rfl
  refine ⟨?_, ?_, ?_, by rw [husage]⟩
  · rw [husage]
    calc ((listSteps w.steps planId).filter (·.status.terminal = false)).length
        ≤ (listSteps w.steps planId).length := List.length_filter_le _ _
      _ = draft.steps.length := by rw [← hperm.length_eq, List.length_map]
      _ ≤ a.policy.maxSteps := haccepted.fits
  · rw [usage, hend, hmade]
    exact hledgered.within
  · rw [usage, hend, hmade, hfinish.budget]
    exact hledgered.consumed.symm

/-! ## A request for one call -/

/-- The policy of the largest limits, and a request for at most the given number of tool calls. -/
def requesting (maxToolCalls : Option Nat) : Assignment where
  request := { twoToolAssignment.request with
    requestedBudgets := ⟨none, maxToolCalls, none, none, none⟩ }
  policy := { twoToolPolicy with
    maxSteps := 20, maxToolCalls := 50, maxCallsPerTool := 5, maxRetriesPerStep := 1,
    maxDurationSeconds := 600 }
  catalog := twoToolCatalog

/-- The plan with two tools, executed for such a request. -/
def requestedRun (maxToolCalls : Option Nat) :
    Except String (ResearchAgentRunRecord × ResearchPackageRecord) × World :=
  execute (answering (.output "PASS")) (requesting maxToolCalls) (worldBefore twoToolPlan 0)

lemma twoToolPlan_accepted_wide (n : Option Nat) :
    validate default twoToolPlan (requesting n).policy (requesting n).catalog =
      .ok ⟨twoToolPlan, planChecksum default twoToolPlan⟩ := rfl

/-- A request for two calls is respected: the plan needs two. -/
theorem two_calls_respected : (usage (requestedRun (some 2)).2).calls.length ≤ 50 ∧
    (requesting (some 2)).request.requestedBudgets.Respected (usage (requestedRun (some 2)).2) := by
  have hend : ending (requestedRun (some 2)) = some (.blocked, .blocked, [],
      [⟨"get_latest_close", .pass, true⟩, ⟨"get_corporate_actions", .pass, true⟩]) := by
    decide +kernel
  have hcalls : (demand (answering (.output "PASS")) (requesting (some 2)).policy
      (listSteps (worldBefore twoToolPlan 0).steps 1)).calls.length = 2 := by
    decide +kernel
  obtain ⟨run, package, w', hrun, -⟩ := exists_of_ending hend
  obtain ⟨-, hwithin, -, hrespected⟩ := execution_usage (twoToolPlan_accepted_wide (some 2))
    planted_twoToolPlan rfl rfl rfl hrun
  rw [hrun]
  refine ⟨hwithin, hrespected.mpr ?_⟩
  constructor
  · rintro n ⟨⟩
  · rintro n ⟨⟩
    rw [hcalls]
  · rintro n ⟨⟩
  · rintro n ⟨⟩
  · rintro n ⟨⟩

/-- **A requested limit that is not kept**: the request allows one tool call, the plan is accepted,
and its run makes two. -/
theorem requested_budget_ignored :
    validate default twoToolPlan (requesting (some 1)).policy (requesting (some 1)).catalog =
      .ok ⟨twoToolPlan, planChecksum default twoToolPlan⟩ ∧
    ending (requestedRun (some 1)) = some (.blocked, .blocked, [],
      [⟨"get_latest_close", .pass, true⟩, ⟨"get_corporate_actions", .pass, true⟩]) ∧
    (usage (requestedRun (some 1)).2).calls =
      [("get_latest_close", "get_latest_close"),
        ("get_corporate_actions", "get_corporate_actions")] ∧
    ¬ (requesting (some 1)).request.requestedBudgets.Respected
      (usage (requestedRun (some 1)).2) := by
  have hcalls : (usage (requestedRun (some 1)).2).calls =
      [("get_latest_close", "get_latest_close"),
        ("get_corporate_actions", "get_corporate_actions")] := by decide +kernel
  refine ⟨twoToolPlan_accepted_wide (some 1), by decide +kernel, hcalls, fun hrespected => ?_⟩
  have hone := hrespected.toolCalls 1 rfl
  rw [hcalls] at hone
  exact absurd hone (by decide)

end StockResearch.ResearchAgent
