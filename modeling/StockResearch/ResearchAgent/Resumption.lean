import StockResearch.ResearchAgent.StepOrder

/-!
# Executions that are paused and resumed

The loop of `execute` collects the codes of blocked and failed tools in local variables.  A run that
is resumed goes on with the steps that are left and finds the finished ones by their statuses, but
it starts with empty variables.

* `outcomes`, `codes`: how the tool steps ended, and the codes that the loop makes of that.
* `performAll_codes`: what the loop has collected when it returns.
* `Finish`: what a run is closed with, given what was collected.
* **`resumed_run_agrees_iff`**: the resumed run ends like the one that was not interrupted if and
  only if every code from before the pause comes up again after it.
* **`failure_forgotten_after_resume`**: a failure that does not.
-/

namespace StockResearch.ResearchAgent

open PyJson PyTime Checked Txn Txn.Program

/-! ## Outcomes -/

/-- The result of a tool step, where the occurrence is one. -/
def Occurrence.outcome? : Occurrence → Option ToolOutcome
  | .concluded _ outcome => some outcome
  | .started _ _ | .called _ _ => none

/-- How the tool steps ended, in order. -/
def outcomes (occurrences : List Occurrence) : List ToolOutcome :=
  occurrences.filterMap Occurrence.outcome?

/-- The codes that the loop collects for outcomes. -/
def codes (upper : String → String) (results : List ToolOutcome) : List String :=
  results.flatMap fun outcome => capabilityCode upper outcome.toolName outcome.status

/-- Whether a tool step failed. -/
def anyFailed (results : List ToolOutcome) : Bool :=
  results.any fun outcome => outcome.status = .fail

lemma outcomes_append (xs ys : List Occurrence) : outcomes (xs ++ ys) = outcomes xs ++ outcomes ys :=
  List.filterMap_append

lemma codes_append (upper : String → String) (xs ys : List ToolOutcome) :
    codes upper (xs ++ ys) = codes upper xs ++ codes upper ys :=
  List.flatMap_append

lemma anyFailed_append (xs ys : List ToolOutcome) :
    anyFailed (xs ++ ys) = (anyFailed xs || anyFailed ys) :=
  List.any_append

section Step

variable {σ : Surroundings} {a : Assignment} {run : ResearchAgentRunRecord}
  {progress progress' : Progress} {step : ResearchStepRecord} {p p' : Performed}

lemma outcomes_calls (n : Nat) (stepKey toolName : String) (stepId : Uuid) (outcome : ToolOutcome) :
    outcomes (List.replicate n (.called stepKey toolName) ++ [.concluded stepId outcome]) =
      [outcome] := by
  rw [outcomes_append]
  have hcalls : outcomes (List.replicate n (.called stepKey toolName)) = [] := by
    refine List.filterMap_eq_nil_iff.mpr fun o ho => ?_
    rw [List.eq_of_mem_replicate ho]
    rfl
  rw [hcalls]
  rfl

/-- A step that calls no tool has no outcome and changes nothing that the loop knows. -/
lemma perform_component (hnone : step.definition.toolName = none)
    (h : perform σ a run progress step = .ok p) :
    outcomes p.occurrences = [] ∧ p.progress = progress ∧
      whenever (step.definition.stepKey = "resolve_security") (σ.identity step) = .ok p.evidence := by
  rw [perform, hnone] at h
  obtain ⟨evidence, hevidence, hret⟩ := Checked.bind_ok.mp h
  cases hret
  exact ⟨rfl, rfl, hevidence⟩

/-- A tool step has one outcome, and the loop adds the codes of that. -/
lemma perform_tool {toolName : String} (hsome : step.definition.toolName = some toolName)
    (h : perform σ a run progress step = .ok p) :
    ∃ status observed, outcomes p.occurrences = [⟨toolName, status, observed⟩] ∧
      p.progress.blocked = progress.blocked ++ capabilityCode σ.upper toolName status ∧
      p.progress.failed = (progress.failed || decide (status = .fail)) ∧
      whenever (observed = true) (σ.observed step status) = .ok p.evidence := by
  rw [perform, hsome] at h
  obtain ⟨result, -, h⟩ := Checked.bind_ok.mp h
  obtain ⟨evidence, hevidence, hret⟩ := Checked.bind_ok.mp h
  cases hret
  exact ⟨result.status, result.observed, outcomes_calls _ _ _ _ _, rfl, rfl, hevidence⟩

/-- What the loop knows after a step, from the outcome of the step. -/
lemma perform_codes (h : perform σ a run progress step = .ok p) :
    p.progress.blocked = progress.blocked ++ codes σ.upper (outcomes p.occurrences) ∧
      p.progress.failed = (progress.failed || anyFailed (outcomes p.occurrences)) := by
  cases htool : step.definition.toolName with
  | none =>
      obtain ⟨hoccurrences, hprogress, -⟩ := perform_component htool h
      simp [hoccurrences, hprogress, codes, anyFailed]
  | some toolName =>
      obtain ⟨status, observed, hoccurrences, hblocked, hfailed, -⟩ := perform_tool htool h
      simp [hoccurrences, hblocked, hfailed, codes, anyFailed]

/-- The number of outcomes of a step does not depend on how it ends. -/
lemma length_outcomes_perform (h : perform σ a run progress step = .ok p)
    (h' : perform σ a run progress' step = .ok p') :
    (outcomes p.occurrences).length = (outcomes p'.occurrences).length := by
  cases htool : step.definition.toolName with
  | none => rw [(perform_component htool h).1, (perform_component htool h').1]
  | some toolName =>
      obtain ⟨_, _, hoccurrences, -⟩ := perform_tool htool h
      obtain ⟨_, _, hoccurrences', -⟩ := perform_tool htool h'
      rw [hoccurrences, hoccurrences']
      rfl

/-- A step that ends the same way is followed by the same evidence. -/
lemma perform_evidence (h : perform σ a run progress step = .ok p)
    (h' : perform σ a run progress' step = .ok p')
    (hsame : outcomes p.occurrences = outcomes p'.occurrences) : p.evidence = p'.evidence := by
  cases htool : step.definition.toolName with
  | none =>
      have hevidence := (perform_component htool h).2.2
      rw [(perform_component htool h').2.2] at hevidence
      exact (Except.ok.inj hevidence).symm
  | some toolName =>
      obtain ⟨status, observed, hoccurrences, -, -, hevidence⟩ := perform_tool htool h
      obtain ⟨status', observed', hoccurrences', -, -, hevidence'⟩ := perform_tool htool h'
      rw [hoccurrences, hoccurrences'] at hsame
      obtain ⟨rfl, rfl⟩ : status = status' ∧ observed = observed' := by simpa using hsame
      rw [hevidence'] at hevidence
      exact (Except.ok.inj hevidence).symm

end Step

/-! ## The loop -/

/-- The outcomes of performed steps. -/
def outcomesOf (ps : List (ResearchStepRecord × Performed)) : List ToolOutcome :=
  ps.flatMap fun x => outcomes x.2.occurrences

section Loop

variable {σ : Surroundings} {a : Assignment} {run : ResearchAgentRunRecord}

/-- **What the loop has collected when it returns**: the codes of the steps that it performed. -/
lemma performAll_codes {steps : List ResearchStepRecord} {progress final : Progress}
    {ps : List (ResearchStepRecord × Performed)}
    (h : performAll σ a run steps progress = .ok (ps, final)) :
    final.blocked = progress.blocked ++ codes σ.upper (outcomesOf ps) ∧
      final.failed = (progress.failed || anyFailed (outcomesOf ps)) := by
  induction steps generalizing progress ps with
  | nil =>
      cases h
      simp [outcomesOf, codes, anyFailed]
  | cons step steps ih =>
      cases hterminal : step.status.terminal with
      | true => exact ih ((performAll_skip hterminal).symm.trans h)
      | false =>
          obtain ⟨p, hp, qs, hqs, heq⟩ := (performAll_perform hterminal).mp h
          obtain rfl : ps = (step, p) :: qs := heq
          obtain ⟨hblocked, hfailed⟩ := ih hqs
          obtain ⟨hblocked', hfailed'⟩ := perform_codes hp
          have houtcomes : outcomesOf ((step, p) :: qs) =
            outcomes p.occurrences ++ outcomesOf qs := rfl
          rw [hblocked, hfailed, hblocked', hfailed', houtcomes, codes_append, anyFailed_append,
            List.append_assoc, Bool.or_assoc]
          exact ⟨rfl, rfl⟩

/-- Loops over the same steps that see the same outcomes admit the same evidence. -/
lemma performAll_evidence {steps : List ResearchStepRecord} {progress progress' final final' : Progress}
    {ps ps' : List (ResearchStepRecord × Performed)}
    (h : performAll σ a run steps progress = .ok (ps, final))
    (h' : performAll σ a run steps progress' = .ok (ps', final'))
    (hsame : outcomesOf ps = outcomesOf ps') :
    ps.filterMap (·.2.evidence) = ps'.filterMap (·.2.evidence) := by
  induction steps generalizing progress progress' ps ps' with
  | nil =>
      cases h
      cases h'
      rfl
  | cons step steps ih =>
      cases hterminal : step.status.terminal with
      | true =>
          exact ih ((performAll_skip hterminal).symm.trans h)
            ((performAll_skip hterminal).symm.trans h') hsame
      | false =>
          obtain ⟨p, hp, qs, hqs, heq⟩ := (performAll_perform hterminal).mp h
          obtain ⟨p', hp', qs', hqs', heq'⟩ := (performAll_perform hterminal).mp h'
          obtain rfl : ps = (step, p) :: qs := heq
          obtain rfl : ps' = (step, p') :: qs' := heq'
          obtain ⟨hhead, hrest⟩ := List.append_inj hsame (length_outcomes_perform hp hp')
          have hevidence := perform_evidence hp hp' hhead
          have htail := ih hqs hqs' hrest
          simp only [List.filterMap_cons, hevidence, htail]

/-- The loop performs steps of its list, and leaves each of them in a terminal status. -/
lemma performAll_mem {steps : List ResearchStepRecord} {progress final : Progress}
    {ps : List (ResearchStepRecord × Performed)}
    (h : performAll σ a run steps progress = .ok (ps, final)) :
    (∀ x ∈ ps, x.1 ∈ steps ∧ x.2.target.terminal = true) ∧
      ∀ step ∈ steps, step.status.terminal = true ∨ ∃ x ∈ ps, x.1 = step := by
  induction steps generalizing progress ps with
  | nil =>
      cases h
      simp
  | cons step steps ih =>
      cases hterminal : step.status.terminal with
      | true =>
          obtain ⟨hsteps, hall⟩ := ih ((performAll_skip hterminal).symm.trans h)
          refine ⟨fun x hx => ⟨List.mem_cons_of_mem _ (hsteps x hx).1, (hsteps x hx).2⟩, ?_⟩
          intro s hs
          rcases List.mem_cons.mp hs with rfl | hs
          · exact .inl hterminal
          · exact hall s hs
      | false =>
          obtain ⟨p, hp, qs, hqs, heq⟩ := (performAll_perform hterminal).mp h
          obtain rfl : ps = (step, p) :: qs := heq
          obtain ⟨hsteps, hall⟩ := ih hqs
          constructor
          · intro x hx
            rcases List.mem_cons.mp hx with rfl | hx
            · exact ⟨List.mem_cons_self, perform_terminal hp⟩
            · exact ⟨List.mem_cons_of_mem _ (hsteps x hx).1, (hsteps x hx).2⟩
          · intro s hs
            rcases List.mem_cons.mp hs with rfl | hs
            · exact .inr ⟨(s, p), List.mem_cons_self, rfl⟩
            · obtain hdone | ⟨x, hx, hxs⟩ := hall s hs
              · exact .inl hdone
              · exact .inr ⟨x, List.mem_cons_of_mem _ hx, hxs⟩

/-- Steps that are finished already are passed over. -/
lemma performAll_done {done rest : List ResearchStepRecord} {progress : Progress}
    (hdone : ∀ step ∈ done, step.status.terminal = true) :
    performAll σ a run (done ++ rest) progress = performAll σ a run rest progress := by
  induction done with
  | nil => rfl
  | cons step done ih =>
      rw [List.cons_append, performAll_skip (hdone step List.mem_cons_self)]
      exact ih fun s hs => hdone s (List.mem_cons_of_mem _ hs)

lemma LoopEffect.outcomes {ps : List (ResearchStepRecord × Performed)} {w w' : World}
    (h : LoopEffect σ ps w w') :
    outcomes w'.occurrences = outcomes w.occurrences ++ outcomesOf ps :=
  h.occurrences Occurrence.outcome? fun _ _ => rfl

end Loop

/-! ## The rows after a loop -/

/-- A row with the status that the performed steps leave it in. -/
def restatus (ps : List (ResearchStepRecord × Performed)) (row : ResearchStepRecord) :
    ResearchStepRecord :=
  ps.foldl (fun row x => if row.id = x.1.id then { row with status := x.2.target } else row) row

lemma foldl_setStatus (ps : List (ResearchStepRecord × Performed)) (rows : List ResearchStepRecord) :
    ps.foldl (fun rows x => setStatus x.1.id x.2.target rows) rows = rows.map (restatus ps) := by
  induction ps generalizing rows with
  | nil => exact (List.map_id rows).symm
  | cons x ps ih =>
      rw [List.foldl_cons, ih, setStatus, List.map_map]
      rfl

lemma identityOf_restatus (ps : List (ResearchStepRecord × Performed)) (row : ResearchStepRecord) :
    identityOf (restatus ps row) = identityOf row := by
  induction ps generalizing row with
  | nil => rfl
  | cons x ps ih =>
      refine (ih _).trans ?_
      dsimp only
      split <;> rfl

lemma restatus_of_not_mem {ps : List (ResearchStepRecord × Performed)} {row : ResearchStepRecord}
    (h : ∀ x ∈ ps, x.1.id ≠ row.id) : restatus ps row = row := by
  induction ps with
  | nil => rfl
  | cons x ps ih =>
      have hne : row.id ≠ x.1.id := (h x List.mem_cons_self).symm
      have hhead : restatus (x :: ps) row = restatus ps row := by
        rw [restatus, List.foldl_cons, if_neg hne]
        rfl
      rw [hhead]
      exact ih fun y hy => h y (List.mem_cons_of_mem _ hy)

lemma restatus_terminal {ps : List (ResearchStepRecord × Performed)} {row : ResearchStepRecord}
    (htargets : ∀ x ∈ ps, x.2.target.terminal = true)
    (h : row.status.terminal = true ∨ ∃ x ∈ ps, x.1.id = row.id) :
    (restatus ps row).status.terminal = true := by
  induction ps generalizing row with
  | nil => exact h.resolve_right (by simp)
  | cons x ps ih =>
      refine ih (fun y hy => htargets y (List.mem_cons_of_mem _ hy)) ?_
      dsimp only
      split
      · exact .inl (htargets x List.mem_cons_self)
      · rename_i hne
        refine h.imp_right ?_
        rintro ⟨y, hy, hid⟩
        rcases List.mem_cons.mp hy with rfl | hy
        · exact absurd hid.symm hne
        · exact ⟨y, hy, hid⟩

/-- The order of the steps does not depend on their statuses. -/
lemma listSteps_restatus (ps : List (ResearchStepRecord × Performed))
    (rows : List ResearchStepRecord) (planId : Uuid) :
    listSteps (rows.map (restatus ps)) planId = (listSteps rows planId).map (restatus ps) := by
  have hplan : ∀ row, (restatus ps row).planId = row.planId := fun row =>
    congrArg (·.2.1) (identityOf_restatus ps row)
  have hle : ∀ x y, stepLE x y ↔ stepLE (restatus ps x) (restatus ps y) := by
    intro x y
    have hid : ∀ row, (restatus ps row).id = row.id := fun row =>
      congrArg (·.1) (identityOf_restatus ps row)
    have hdef : ∀ row, (restatus ps row).definition = row.definition := fun row =>
      congrArg (·.2.2) (identityOf_restatus ps row)
    unfold stepLE
    rw [hid, hid, hdef, hdef]
  unfold listSteps
  rw [List.filter_map,
    List.map_insertionSort stepLE stepLE (restatus ps) _ fun row _ row' _ => hle row row']
  congr 2
  refine List.filter_congr fun row _ => ?_
  simp [hplan]

/-- The steps of a plan after the first of them were performed: those are finished, and the others
are as they were. -/
lemma listSteps_after {σ : Surroundings} {a : Assignment} {run : ResearchAgentRunRecord}
    {rows : List ResearchStepRecord} {planId : Uuid} {k : Nat} {progress final : Progress}
    {ps : List (ResearchStepRecord × Performed)} (hids : (rows.map (·.id)).Nodup)
    (h : performAll σ a run ((listSteps rows planId).take k) progress = .ok (ps, final)) :
    ∃ done, (∀ step ∈ done, step.status.terminal = true) ∧
      listSteps (rows.map (restatus ps)) planId = done ++ (listSteps rows planId).drop k := by
  obtain ⟨hsteps, hall⟩ := performAll_mem h
  refine ⟨((listSteps rows planId).take k).map (restatus ps), ?_, ?_⟩
  · intro step hstep
    obtain ⟨row, hrow, rfl⟩ := List.mem_map.mp hstep
    refine restatus_terminal (fun x hx => (hsteps x hx).2) ?_
    refine (hall row hrow).imp_right ?_
    rintro ⟨x, hx, rfl⟩
    exact ⟨x, hx, rfl⟩
  · have hrest : ((listSteps rows planId).drop k).map (restatus ps) =
        (listSteps rows planId).drop k := by
      refine (List.map_congr_left fun row hrow => ?_).trans (List.map_id _)
      refine restatus_of_not_mem fun x hx heq => ?_
      have hnodup := listSteps_ids_nodup planId hids
      rw [← List.take_append_drop k (listSteps rows planId), List.map_append,
        List.nodup_append] at hnodup
      exact hnodup.2.2 _ (List.mem_map_of_mem (hsteps x hx).1) _ (List.mem_map_of_mem hrow) heq
    calc listSteps (rows.map (restatus ps)) planId
        = (listSteps rows planId).map (restatus ps) := listSteps_restatus ps rows planId
      _ = ((listSteps rows planId).take k ++ (listSteps rows planId).drop k).map (restatus ps) := by
          rw [List.take_append_drop]
      _ = ((listSteps rows planId).take k).map (restatus ps) ++ (listSteps rows planId).drop k := by
          rw [List.map_append, hrest]

/-! ## Closing a run -/

/-- What a run is closed with: the claims of its ledger, and the package made of them and of what
the loop has collected. -/
structure Finish (σ : Surroundings) (a : Assignment) (progress : Progress) (w : World)
    (run : ResearchAgentRunRecord) (content : PackageContent) : Prop where
  made : ∃ claims store, buildAndValidate σ.hash σ.parsers σ.supply w.run.id a.request.researchMode
      (listEvidence w.ledger w.run.id) w.claims = .ok (claims, store) ∧
    content = packageContent (packageContext w.run a.request) a.request.requestedSections claims
      (listEvidence w.ledger w.run.id) (blockedCapabilities progress.blocked)
      (packageWarnings w.run claims) progress.failed
  status : run.status = terminalStatus content.status
  budget : run.budget = progress.budget

section Closing

variable {σ : Surroundings} {a : Assignment}

lemma updateRunBudget_ok {budget : RunBudget} {w w' : World}
    (h : updateRunBudget budget w = (.ok (), w')) : w' = { w with run := { w.run with budget } } := by
  unfold updateRunBudget at h
  split at h
  · cases h
  · cases h
    rfl

lemma buildClaims_ok {w w' : World} {claims : List ResearchClaimRecord}
    (h : buildClaims σ a w = (.ok claims, w')) :
    ∃ store, buildAndValidate σ.hash σ.parsers σ.supply w.run.id a.request.researchMode
        (listEvidence w.ledger w.run.id) w.claims = .ok (claims, store) ∧
      w' = { w with claims := store } := by
  unfold buildClaims at h
  split at h
  · rename_i claims' store hbuild
    cases h
    exact ⟨store, hbuild, rfl⟩
  · cases h

lemma transitionRun_ok {target : ResearchRunStatus} {w w' : World}
    (h : transitionRun target w = (.ok (), w')) :
    w' = { w with run := { w.run with status := target } } := by
  unfold transitionRun at h
  split at h
  · cases h
    rfl
  · cases h

lemma closeRun_ok {progress : Progress} {w w' : World} {run : ResearchAgentRunRecord}
    {package : ResearchPackageRecord}
    (h : closeRun σ a progress w = (.ok (run, package), w')) :
    Finish σ a progress w run package.content ∧ w'.occurrences = w.occurrences ∧
      w'.elapsed = w.elapsed + σ.closing := by
  unfold closeRun at h
  obtain ⟨_, w₁, hbudget, h⟩ := bind_eq_ok.mp h
  obtain rfl := updateRunBudget_ok hbudget
  obtain ⟨claims, w₂, hclaims, h⟩ := bind_eq_ok.mp h
  obtain ⟨store, hbuild, rfl⟩ := buildClaims_ok hclaims
  obtain ⟨_, _, hget, h⟩ := bind_eq_ok.mp h
  cases hget
  obtain ⟨made, _, hcall, h⟩ := bind_eq_ok.mp h
  obtain ⟨hassemble, rfl⟩ := Prod.mk.inj hcall
  obtain ⟨_, _, hstore, h⟩ := bind_eq_ok.mp h
  cases hstore
  obtain ⟨_, _, hspend, h⟩ := bind_eq_ok.mp h
  cases hspend
  obtain ⟨_, _, htransition, h⟩ := bind_eq_ok.mp h
  obtain rfl := transitionRun_ok htransition
  obtain ⟨_, _, hget, h⟩ := bind_eq_ok.mp h
  cases hget
  cases h
  obtain ⟨-, rfl⟩ := assemble_ok.mp hassemble
  exact ⟨⟨⟨claims, store, hbuild, rfl⟩, rfl, rfl⟩, rfl, rfl⟩

/-- A run that begins is set to `RUNNING`. -/
lemma beginRun_ok {w w' : World} (h : beginRun w = (.ok (), w')) :
    w' = { w with run := { w.run with status := .running } } := by
  unfold beginRun at h
  split at h
  · exact transitionRun_ok h
  · split at h
    · rename_i hrunning
      cases h
      rw [← hrunning]
    · cases h

lemma planSteps_world {w w' : World} {steps : List ResearchStepRecord}
    (h : planSteps w = (.ok steps, w')) : w = w' := by
  unfold planSteps at h
  split at h
  · cases h
  · exact (Prod.mk.inj h).2

/-- The parts of an execution that returns. -/
lemma execute_ok {w w' : World} {run : ResearchAgentRunRecord} {package : ResearchPackageRecord}
    (h : execute σ a w = (.ok (run, package), w')) :
    ∃ w₁ steps ps progress w₂, beginRun w = (.ok (), w₁) ∧ planSteps w₁ = (.ok steps, w₁) ∧
      performAll σ a w₁.run steps ⟨w₁.run.budget, [], false⟩ = .ok (ps, progress) ∧
      LoopEffect σ ps w₁ w₂ ∧ Finish σ a progress w₂ run package.content ∧
      w'.occurrences = w₂.occurrences ∧ w'.elapsed = w₂.elapsed + σ.closing := by
  unfold execute at h
  obtain ⟨_, w₁, hbegin, h⟩ := bind_eq_ok.mp h
  obtain ⟨steps, w₁', hplan, h⟩ := bind_eq_ok.mp h
  obtain rfl := planSteps_world hplan
  obtain ⟨w₁, _, hget, h⟩ := bind_eq_ok.mp h
  obtain ⟨hread, rfl⟩ := Prod.mk.inj hget
  cases hread
  obtain ⟨progress, w₂, hloop, h⟩ := bind_eq_ok.mp h
  obtain ⟨ps, hps, heffect⟩ := runSteps_ok hloop
  obtain ⟨hfinish, hoccurrences, helapsed⟩ := closeRun_ok h
  exact ⟨w₁, steps, ps, progress, w₂, hbegin, hplan, hps, heffect, hfinish, hoccurrences, helapsed⟩

/-- The parts of an execution that is paused. -/
lemma executeUntil_ok {k : Nat} {w w' : World} (h : executeUntil σ a k w = (.ok (), w')) :
    ∃ w₁ steps ps progress w₂, beginRun w = (.ok (), w₁) ∧ planSteps w₁ = (.ok steps, w₁) ∧
      performAll σ a w₁.run (steps.take k) ⟨w₁.run.budget, [], false⟩ = .ok (ps, progress) ∧
      LoopEffect σ ps w₁ w₂ ∧ w' = { w₂ with run := { w₂.run with status := .paused } } := by
  unfold executeUntil at h
  obtain ⟨_, w₁, hbegin, h⟩ := bind_eq_ok.mp h
  obtain ⟨steps, w₁', hplan, h⟩ := bind_eq_ok.mp h
  obtain rfl := planSteps_world hplan
  obtain ⟨w₁, _, hget, h⟩ := bind_eq_ok.mp h
  obtain ⟨hread, rfl⟩ := Prod.mk.inj hget
  cases hread
  obtain ⟨progress, w₂, hloop, h⟩ := bind_eq_ok.mp h
  obtain ⟨ps, hps, heffect⟩ := runSteps_ok hloop
  refine ⟨w₁, steps, ps, progress, w₂, hbegin, hplan, hps, heffect, ?_⟩
  unfold pause at h
  obtain ⟨_, _, hget, h⟩ := bind_eq_ok.mp h
  cases hget
  split at h
  · cases h
  · exact transitionRun_ok h

/-- A run that is resumed is set to `RUNNING`, and nothing else changes. -/
lemma resume_ok {snapshotOk : Bool} {w w' : World} (h : resume a snapshotOk w = (.ok (), w')) :
    w' = { w with run := { w.run with status := .running } } := by
  unfold resume at h
  obtain ⟨_, _, hget, h⟩ := bind_eq_ok.mp h
  cases hget
  repeat' split at h
  all_goals first | exact transitionRun_ok h | cases h

end Closing

/-! ## The two executions -/

/-- The package lists the collected codes as a set. -/
lemma blockedCapabilities_eq_iff {xs ys : List String} :
    blockedCapabilities xs = blockedCapabilities ys ↔ ∀ code, code ∈ xs ↔ code ∈ ys := by
  have hmem : ∀ (l : List String) code, code ∈ blockedCapabilities l ↔ code ∈ l := by
    intro l code
    rw [blockedCapabilities, List.mem_insertionSort, List.mem_dedup]
  constructor
  · intro h code
    rw [← hmem xs, h, hmem ys]
  · intro h
    have hperm : xs.dedup.Perm ys.dedup :=
      (List.perm_ext_iff_of_nodup (List.nodup_dedup _) (List.nodup_dedup _)).mpr
        (by simpa using h)
    refine List.Perm.eq_of_pairwise (fun x y _ _ => le_antisymm)
      (List.pairwise_insertionSort _ _) (List.pairwise_insertionSort _ _) ?_
    exact (List.perm_insertionSort _ _).trans (hperm.trans (List.perm_insertionSort _ _).symm)

/-- A code that ends in `_FAILED` comes from a failure only. -/
lemma fail_of_code {upper : String → String} {name : String} {outcome : ToolOutcome}
    (h : upper name ++ "_FAILED" ∈ capabilityCode upper outcome.toolName outcome.status) :
    outcome.status = .fail := by
  cases hstatus : outcome.status with
  | fail => rfl
  | pass => simp [hstatus, capabilityCode] at h
  | partly => simp [hstatus, capabilityCode] at h
  | blocked =>
      rw [hstatus, capabilityCode, List.mem_singleton] at h
      have hreverse := congrArg (fun s : String => s.toList.reverse) h
      simp [String.toList_append] at hreverse

/-- Where the codes from before come up again, so do the failures. -/
lemma anyFailed_of_codes {upper : String → String} {before later : List ToolOutcome}
    (h : ∀ code ∈ codes upper before, code ∈ codes upper later) :
    (anyFailed before || anyFailed later) = anyFailed later := by
  cases hfailed : anyFailed before with
  | false => rfl
  | true =>
      obtain ⟨outcome, houtcome, hstatus⟩ := List.any_eq_true.mp hfailed
      have hcode : upper outcome.toolName ++ "_FAILED" ∈ codes upper before := by
        refine List.mem_flatMap.mpr ⟨outcome, houtcome, ?_⟩
        rw [of_decide_eq_true hstatus]
        exact List.mem_singleton_self _
      obtain ⟨again, hagain, hcode⟩ := List.mem_flatMap.mp (h _ hcode)
      have hlater : anyFailed later = true :=
        List.any_eq_true.mpr ⟨again, hagain, decide_eq_true (fail_of_code hcode)⟩
      rw [hlater]
      rfl

section Main

variable {σ : Surroundings} {a : Assignment}

/-- What an execution and one that is paused before step `k` and resumed have in common, and what
each of them has collected at its end. -/
structure Compared (σ : Surroundings) (a : Assignment) (before later : List ToolOutcome)
    (progressU progressR : Progress) (wU wR : World) : Prop where
  run : wR.run = wU.run
  ledger : wR.ledger = wU.ledger
  claims : wR.claims = wU.claims
  blockedU : progressU.blocked = codes σ.upper before ++ codes σ.upper later
  blockedR : progressR.blocked = codes σ.upper later
  failedU : progressU.failed = (anyFailed before || anyFailed later)
  failedR : progressR.failed = anyFailed later

/-- The claims and the package of two compared executions agree but for what was collected. -/
lemma Compared.agreeing_iff {before later : List ToolOutcome} {progressU progressR : Progress}
    {wU wR : World} (h : Compared σ a before later progressU progressR wU wR)
    {runU runR : ResearchAgentRunRecord} {contentU contentR : PackageContent}
    (hU : Finish σ a progressU wU runU contentU) (hR : Finish σ a progressR wR runR contentR) :
    (runR.status = runU.status ∧ contentR.status = contentU.status ∧
      contentR.blockedCapabilities = contentU.blockedCapabilities ∧
      contentR.warnings = contentU.warnings) ↔
    ∀ code ∈ codes σ.upper before, code ∈ codes σ.upper later := by
  obtain ⟨claimsU, _, hbuildU, hcontentU⟩ := hU.made
  obtain ⟨claimsR, _, hbuildR, hcontentR⟩ := hR.made
  rw [h.run, h.ledger, h.claims, hbuildU] at hbuildR
  cases hbuildR
  rw [h.run, h.ledger, h.blockedR, h.failedR] at hcontentR
  rw [h.blockedU, h.failedU] at hcontentU
  have hcodes : contentR.blockedCapabilities = contentU.blockedCapabilities ↔
      ∀ code ∈ codes σ.upper before, code ∈ codes σ.upper later := by
    rw [hcontentR, hcontentU]
    refine blockedCapabilities_eq_iff.trans ?_
    constructor
    · intro hall code hcode
      exact (hall code).mpr (List.mem_append_left _ hcode)
    · intro hsub code
      rw [List.mem_append]
      exact ⟨.inr, fun hcode => hcode.elim (hsub code) id⟩
  constructor
  · rintro ⟨-, -, hblocked, -⟩
    exact hcodes.mp hblocked
  · intro hsub
    have hstatus : contentR.status = contentU.status := by
      rw [hcontentR, hcontentU, anyFailed_of_codes hsub]
      rfl
    refine ⟨?_, hstatus, hcodes.mpr hsub, ?_⟩
    · rw [hR.status, hU.status, hstatus]
    · rw [hcontentR, hcontentU]
      rfl

/-- **A run that is paused and resumed ends like the one that was not interrupted, with the same
outcomes of its tools, if and only if every code from before the pause comes up again after it.** -/
theorem resumed_run_agrees_iff {draft : ResearchPlanDraft} {planId : Uuid} {w wP wU wR : World}
    {k : Nat} {snapshotOk : Bool} {runU runR : ResearchAgentRunRecord}
    {packageU packageR : ResearchPackageRecord} (hplanted : Planted draft planId w)
    (hfresh : w.occurrences = [])
    (huninterrupted : execute σ a w = (.ok (runU, packageU), wU))
    (hpaused : executeUntil σ a k w = (.ok (), wP))
    (hresumed : resumeAndExecute σ a snapshotOk wP = (.ok (runR, packageR), wR))
    (hsame : outcomes wR.occurrences = outcomes wU.occurrences) :
    (runR.status = runU.status ∧ packageR.content.status = packageU.content.status ∧
      packageR.content.blockedCapabilities = packageU.content.blockedCapabilities ∧
      packageR.content.warnings = packageU.content.warnings) ↔
    ∀ code ∈ codes σ.upper (outcomes wP.occurrences),
      code ∈ codes σ.upper
        ((outcomes wR.occurrences).drop (outcomes wP.occurrences).length) := by
  obtain ⟨w₁, steps, ps, progressU, wU', hbegin, hplan, hloop, heffectU, hfinishU, hU, -⟩ :=
    execute_ok huninterrupted
  obtain ⟨_, _, ps₁, progress₁, wP', hbegin', hplan', hfirst, heffectP, rfl⟩ :=
    executeUntil_ok hpaused
  obtain rfl : w₁ = _ := (Prod.mk.inj (hbegin.symm.trans hbegin')).2
  obtain rfl : steps = _ := Except.ok.inj (Prod.mk.inj (hplan.symm.trans hplan')).1
  clear hbegin' hplan'
  obtain ⟨_, wQ, hresume, hexecute⟩ := bind_eq_ok.mp hresumed
  obtain ⟨_, stepsR, psR, progressR, wR', hbeginR, hplanR, hloopR, heffectR, hfinishR, hR, -⟩ :=
    execute_ok hexecute
  -- A resumed run is the paused one, set to `RUNNING` again.
  have hw₁ := beginRun_ok hbegin
  have hagain : ∀ r : ResearchAgentRunRecord, r.status = .running →
      { r with status := .running } = r := by
    rintro r hr
    rw [← hr]
  have hrunP : wP'.run = w₁.run := heffectP.run
  have hrunning : w₁.run.status = .running := by rw [hw₁]
  obtain rfl : wQ = wP' := by
    rw [resume_ok hresume]
    simp only [hagain wP'.run (hrunP ▸ hrunning)]
  have hbeginR' := beginRun_ok hbeginR
  rw [hagain wQ.run (hrunP ▸ hrunning)] at hbeginR'
  subst hbeginR'
  -- It goes through the steps that the pause left.
  have hsteps : steps = listSteps w.steps planId := by
    unfold planSteps at hplan
    rw [hw₁] at hplan
    simp only [hplanted.plan] at hplan
    exact (Except.ok.inj (Prod.mk.inj hplan).1).symm
  have hstepsR : stepsR = listSteps (w.steps.map (restatus ps₁)) planId := by
    unfold planSteps at hplanR
    have hplanP : wQ.planId = some planId := by
      rw [heffectP.planId, hw₁]
      exact hplanted.plan
    have hrows : wQ.steps = w.steps.map (restatus ps₁) := by
      rw [heffectP.steps, foldl_setStatus, hw₁]
    simp only [hplanP, hrows] at hplanR
    exact (Except.ok.inj (Prod.mk.inj hplanR).1).symm
  rw [hsteps] at hfirst hloop
  obtain ⟨done, hdone, hafter⟩ := listSteps_after hplanted.ids hfirst
  rw [hstepsR, hafter, performAll_done hdone, hrunP] at hloopR
  rw [← List.take_append_drop k (listSteps w.steps planId)] at hloop
  obtain ⟨_, _, hfirst', qs, hrest, heq⟩ := performAll_append.mp hloop
  rw [hfirst] at hfirst'
  cases hfirst'
  obtain rfl : ps = ps₁ ++ qs := heq
  -- The outcomes after the pause are the same.
  have hnone : outcomes w₁.occurrences = [] := by
    rw [hw₁, hfresh]
    rfl
  have houtcomesP : outcomes wQ.occurrences = outcomesOf ps₁ := by
    rw [heffectP.outcomes, hnone, List.nil_append]
  have hsplit : outcomesOf (ps₁ ++ qs) = outcomesOf ps₁ ++ outcomesOf qs := List.flatMap_append
  have houtcomesR : outcomes wR.occurrences = outcomesOf ps₁ ++ outcomesOf psR := by
    rw [hR, heffectR.outcomes, houtcomesP]
  have hlater : outcomesOf qs = outcomesOf psR := by
    rw [houtcomesR, hU, heffectU.outcomes, hnone, List.nil_append, hsplit] at hsame
    exact (List.append_cancel_left hsame).symm
  have hcompared : Compared σ a (outcomesOf ps₁) (outcomesOf psR) progressU progressR wU' wR' := by
    obtain ⟨hblockedU, hfailedU⟩ := performAll_codes hloop
    obtain ⟨hblockedR, hfailedR⟩ := performAll_codes hloopR
    rw [hsplit, hlater] at hblockedU hfailedU
    refine ⟨?_, Table.ext_rows ?_, ?_, ?_, hblockedR, ?_, hfailedR⟩
    · rw [heffectR.run, hrunP, heffectU.run]
    · rw [heffectR.ledger, heffectP.ledger, heffectU.ledger, List.filterMap_append,
        performAll_evidence hrest hloopR hlater, List.append_assoc]
    · rw [heffectR.claims, heffectP.claims, heffectU.claims]
    · rw [hblockedU, List.nil_append, codes_append]
    · rw [hfailedU, Bool.false_or, anyFailed_append]
  rw [houtcomesR, houtcomesP, List.drop_left]
  exact hcompared.agreeing_iff hfinishU hfinishR

end Main

/-! ## Two tools, and a pause between them -/

def toolStep (stepIndex : Nat) (toolName : String) : ResearchStepDefinition where
  stepIndex := stepIndex
  stepKey := toolName
  stepType := .queryStructuredData
  title := toolName
  required := true
  dependencyKeys := ["load_snapshot"]
  toolName := some toolName
  toolVersion := some "1.0.0"
  componentName := none
  inputBinding := []
  fanoutLimit := 1

def twoToolCatalog : ToolCatalogSnapshot where
  catalogVersion := "tool-catalog-v1:" ++ zeroChecksum
  catalogChecksum := zeroChecksum
  entries := [⟨"get_latest_close", "1.0.0"⟩, ⟨"get_corporate_actions", "1.0.0"⟩]

def twoToolPlan : ResearchPlanDraft where
  plannerVersion := "deterministic-template-v1"
  planVersion := "research-plan-v1"
  toolCatalogVersion := twoToolCatalog.catalogVersion
  steps := [
    componentStep 0 "resolve_security" .resolveSecurity [],
    componentStep 1 "load_snapshot" .loadSnapshot ["resolve_security"],
    toolStep 2 "get_latest_close",
    toolStep 3 "get_corporate_actions",
    componentStep 4 "validate_evidence" .validateEvidence
      ["get_latest_close", "get_corporate_actions"],
    componentStep 5 "build_claims" .buildClaims ["validate_evidence"],
    componentStep 6 "validate_claims" .validateClaims ["build_claims"],
    componentStep 7 "assemble_package" .assemblePackage ["validate_claims"]]
  bounded := by decide

def twoToolPolicy : ResearchPolicyRecord where
  version := "policy-v1"
  allowedTools := [⟨"get_latest_close", "1.0.0"⟩, ⟨"get_corporate_actions", "1.0.0"⟩]
  deniedTools := []
  maxSteps := 12
  maxToolCalls := 24
  maxCallsPerTool := 5
  maxRetriesPerStep := 1
  maxDurationSeconds := 120
  reusePartialRuns := false

def twoToolAssignment : Assignment where
  request := { overview.request with toolCatalogVersion := twoToolCatalog.catalogVersion }
  policy := twoToolPolicy
  catalog := twoToolCatalog

/-- A record that no claim is made of. -/
def bareEvidence (id : Uuid) : ResearchEvidenceRecord where
  id := id
  runId := 1
  evidenceType := .snapshot
  status := .valid
  securityId := 1
  snapshotId := 1
  researchAsOfTime := yearEnd
  sourceChecksum := none
  publishedAt := none
  citationId := none
  calculationRunId := none
  calculationInputIds := []
  formulaVersion := none
  syntheticStatus := .realVerified
  payload := []
  warningCodes := []
  createdAt := yearEnd

/-- Surroundings in which the first tool gives the answer `first` and the second one an output. -/
def answering (first : Answer) : Surroundings where
  hash := default
  parsers := ⟨fun _ => none, fun _ => none⟩
  supply := ⟨id, id, yearEnd, fun _ => yearEnd⟩
  upper text := String.ofList (text.toList.map Char.toUpper)
  refusal _ := none
  answer step _ := if step.definition.toolName = some "get_latest_close" then first else .output "PASS"
  observed step _ := .ok (bareEvidence step.id)
  identity step := .ok (bareEvidence step.id)
  duration _ := 1000
  closing := 1000
  packageId := 1
  packageCreatedAt := yearEnd

/-- The statuses of a run and its package, and the codes and outcomes that go with them. -/
def ending (r : Except String (ResearchAgentRunRecord × ResearchPackageRecord) × World) :
    Option (ResearchRunStatus × ResearchPackageStatus × List String × List ToolOutcome) :=
  match r.1 with
  | .ok (run, package) => some (run.status, package.content.status,
      package.content.blockedCapabilities, outcomes r.2.occurrences)
  | .error _ => none

/-- The run of the plan, from the start to the end. -/
def uninterrupted (first : Answer) :
    Except String (ResearchAgentRunRecord × ResearchPackageRecord) × World :=
  execute (answering first) twoToolAssignment (worldBefore twoToolPlan 0)

/-- The run, paused between the tools. -/
def pausedBetween (first : Answer) : Except String Unit × World :=
  executeUntil (answering first) twoToolAssignment 3 (worldBefore twoToolPlan 0)

def resumedAfter (first : Answer) :
    Except String (ResearchAgentRunRecord × ResearchPackageRecord) × World :=
  resumeAndExecute (answering first) twoToolAssignment true (pausedBetween first).2

lemma exists_of_ending {r : Except String (ResearchAgentRunRecord × ResearchPackageRecord) × World}
    {status : ResearchRunStatus} {packageStatus : ResearchPackageStatus} {blocked : List String}
    {results : List ToolOutcome} (h : ending r = some (status, packageStatus, blocked, results)) :
    ∃ run package w, r = (.ok (run, package), w) ∧ run.status = status ∧
      package.content.status = packageStatus ∧ package.content.blockedCapabilities = blocked ∧
      outcomes w.occurrences = results := by
  obtain ⟨result, w⟩ := r
  unfold ending at h
  split at h
  · rename_i run package hok
    cases h
    exact ⟨run, package, w, Prod.ext hok rfl, rfl, rfl, rfl, rfl⟩
  · cases h

lemma twoToolPlan_accepted : validate default twoToolPlan twoToolPolicy twoToolCatalog =
    .ok ⟨twoToolPlan, planChecksum default twoToolPlan⟩ := rfl

lemma planted_twoToolPlan : Planted twoToolPlan 1 (worldBefore twoToolPlan 0) :=
  planted_worldBefore (validate_ok twoToolPlan_accepted).1 0

section Defs

variable {first : Answer} {run : ResearchAgentRunRecord} {package : ResearchPackageRecord}
  {w : World}

lemma uninterrupted_def (h : uninterrupted first = (.ok (run, package), w)) :
    execute (answering first) twoToolAssignment (worldBefore twoToolPlan 0) =
      (.ok (run, package), w) := h

lemma resumedAfter_def (h : resumedAfter first = (.ok (run, package), w)) :
    resumeAndExecute (answering first) twoToolAssignment true (pausedBetween first).2 =
      (.ok (run, package), w) := h

lemma pausedBetween_ok (h : (pausedBetween first).1.toOption = some ()) :
    executeUntil (answering first) twoToolAssignment 3 (worldBefore twoToolPlan 0) =
      (.ok (), (pausedBetween first).2) := by
  change pausedBetween first = _
  generalize pausedBetween first = r at h
  obtain ⟨outcome, w⟩ := r
  cases outcome with
  | error e => cases h
  | ok _ => rfl

end Defs

/-- Without a failure before the pause the resumed run ends like the other. -/
theorem resumed_run_without_failures : ∃ runU packageU wU runR packageR wR,
    uninterrupted (.output "PASS") = (.ok (runU, packageU), wU) ∧
    resumedAfter (.output "PASS") = (.ok (runR, packageR), wR) ∧
    runR.status = runU.status ∧ packageR.content.status = packageU.content.status ∧
    packageR.content.blockedCapabilities = packageU.content.blockedCapabilities ∧
    packageR.content.warnings = packageU.content.warnings := by
  have hendU : ending (uninterrupted (.output "PASS")) = some (.blocked, .blocked, [],
      [⟨"get_latest_close", .pass, true⟩, ⟨"get_corporate_actions", .pass, true⟩]) := by
    decide +kernel
  have hendR : ending (resumedAfter (.output "PASS")) = some (.blocked, .blocked, [],
      [⟨"get_latest_close", .pass, true⟩, ⟨"get_corporate_actions", .pass, true⟩]) := by
    decide +kernel
  have hpaused : (pausedBetween (.output "PASS")).1.toOption = some () := by decide +kernel
  have hcodes : codes (answering (.output "PASS")).upper
      (outcomes (pausedBetween (.output "PASS")).2.occurrences) = [] := by decide +kernel
  obtain ⟨runU, packageU, wU, hU, -, -, -, houtU⟩ := exists_of_ending hendU
  obtain ⟨runR, packageR, wR, hR, -, -, -, houtR⟩ := exists_of_ending hendR
  refine ⟨runU, packageU, wU, runR, packageR, wR, hU, hR, ?_⟩
  have hagree := resumed_run_agrees_iff planted_twoToolPlan rfl (uninterrupted_def hU)
    (pausedBetween_ok hpaused) (resumedAfter_def hR) (houtR.trans houtU.symm)
  rw [hcodes] at hagree
  exact hagree.mpr (by simp)

/-- **A failure before the pause is forgotten.**  The plan is accepted, the run without a pause ends
`FAILED` and lists the tool; the one that is resumed, with the same outcomes, ends `BLOCKED` and
lists nothing. -/
theorem failure_forgotten_after_resume :
    validate default twoToolPlan twoToolPolicy twoToolCatalog =
      .ok ⟨twoToolPlan, planChecksum default twoToolPlan⟩ ∧
    (pausedBetween (.registryError .executionFailed)).1.toOption = some () ∧
    ending (uninterrupted (.registryError .executionFailed)) =
      some (.failed, .failed, ["GET_LATEST_CLOSE_FAILED"],
        [⟨"get_latest_close", .fail, false⟩, ⟨"get_corporate_actions", .pass, true⟩]) ∧
    ending (resumedAfter (.registryError .executionFailed)) =
      some (.blocked, .blocked, [],
        [⟨"get_latest_close", .fail, false⟩, ⟨"get_corporate_actions", .pass, true⟩]) := by
  refine ⟨twoToolPlan_accepted, ?_, ?_, ?_⟩
  · decide +kernel
  · decide +kernel
  · decide +kernel

end StockResearch.ResearchAgent
