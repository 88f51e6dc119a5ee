import StockResearch.ResearchAgent.Execution

/-!
# What a step of an execution does

`StepEffect` lists what one turn of the loop of `execute` can end in, and **`runStep_effect`** says
that it ends in nothing else.  **`runSteps_ok`** lifts it to the loop: when the loop returns, the
world is the one before with the effects of the performed steps, in order.
-/

namespace StockResearch.ResearchAgent

open PyJson PyTime Checked Txn Txn.Program

/-! ## Rows -/

lemma setStatus_setStatus (stepId : Uuid) (s t : ResearchStepStatus)
    (rows : List ResearchStepRecord) :
    setStatus stepId t (setStatus stepId s rows) = setStatus stepId t rows := by
  unfold setStatus
  rw [List.map_map]
  refine List.map_congr_left fun row _ => ?_
  by_cases h : row.id = stepId
  · simp [h]
  · simp [h]

lemma mem_setStatus {stepId : Uuid} {target : ResearchStepStatus} {rows : List ResearchStepRecord}
    {row : ResearchStepRecord} (h : row ∈ setStatus stepId target rows) :
    ∃ old ∈ rows, row.id = old.id ∧ row.planId = old.planId ∧ row.definition = old.definition ∧
      row.status = if row.id = stepId then target else old.status := by
  obtain ⟨old, hold, rfl⟩ := List.mem_map.mp h
  refine ⟨old, hold, ?_⟩
  split
  · rename_i heq
    simp [heq]
  · rename_i hne
    simp [hne]

section Wp

variable {w : World}

lemma wp_transitionStep {stepId : Uuid} {expected target : ResearchStepStatus}
    {Q : Except String Unit → World → Prop}
    (hok : (∃ row ∈ w.steps, row.id = stepId ∧ row.status = expected) →
      Q (.ok ()) { w with steps := setStatus stepId target w.steps })
    (herror : (∀ row ∈ w.steps, row.id = stepId → row.status ≠ expected) →
      Q (.error "RESEARCH_STEP_STATE_MISMATCH") w) :
    wp (transitionStep stepId expected target) Q w := by
  unfold wp transitionStep
  split
  · rename_i h
    refine hok ?_
    simpa using h
  · rename_i h
    refine herror ?_
    simpa using h

@[simp] lemma wp_note {f : World → List Occurrence} {Q : Except String Unit → World → Prop} :
    wp (note f) Q w ↔ Q (.ok ()) { w with occurrences := w.occurrences ++ f w } := Iff.rfl

@[simp] lemma wp_spend {n : Nat} {Q : Except String Unit → World → Prop} :
    wp (spend n) Q w ↔ Q (.ok ()) { w with elapsed := w.elapsed + n } := Iff.rfl

lemma wp_addEvidence {evidence : Option ResearchEvidenceRecord}
    {Q : Except String Unit → World → Prop}
    (hok : ∀ ledger : Table ResearchEvidenceRecord,
      ledger.rows = w.ledger.rows ++ evidence.toList → Q (.ok ()) { w with ledger })
    (herror : Q (.error "IntegrityError") w) : wp (addEvidence evidence) Q w := by
  cases evidence with
  | none => exact hok w.ledger (by simp)
  | some item =>
      unfold wp addEvidence
      cases hinsert : w.ledger.insert item with
      | none => simpa [hinsert] using herror
      | some ledger => simpa [hinsert] using hok ledger (by simpa using Table.rows_insert hinsert)

end Wp

/-! ## One step -/

section Step

variable {σ : Surroundings} {a : Assignment} {run : ResearchAgentRunRecord}
  {progress : Progress} {step : ResearchStepRecord} {w : World}

def Occurrence.isStart : Occurrence → Bool
  | .started _ _ => true
  | .called _ _ | .concluded _ _ => false

/-- What one turn of the loop can end in: the step was terminal; it could not be started; it was
started and something was raised; or it was performed. -/
inductive StepEffect (σ : Surroundings) (a : Assignment) (run : ResearchAgentRunRecord)
    (progress : Progress) (step : ResearchStepRecord) (w : World) :
    Except String Progress → World → Prop where
  | skipped (hterminal : step.status.terminal = true) :
      StepEffect σ a run progress step w (.ok progress) w
  | refused (e : String) (w' : World) (hsame : w'.occurrences = w.occurrences)
      (hnot : ∀ row ∈ w.steps, row.id = step.id → row.status ≠ .pending) :
      StepEffect σ a run progress step w (.error e) w'
  | raised (e : String) (w' : World) (more : List Occurrence)
      (hsame : w'.occurrences =
        w.occurrences ++ .started step (setStatus step.id .running w.steps) :: more)
      (hmore : ∀ o ∈ more, o.isStart = false) : StepEffect σ a run progress step w (.error e) w'
  | performed (p : Performed) (ledger : Table ResearchEvidenceRecord)
      (hopen : step.status.terminal = false)
      (hpending : ∃ row ∈ w.steps, row.id = step.id ∧ row.status = .pending)
      (hperform : perform σ a run progress step = .ok p)
      (hledger : ledger.rows = w.ledger.rows ++ p.evidence.toList) :
      StepEffect σ a run progress step w (.ok p.progress)
        { w with
          steps := setStatus step.id p.target w.steps
          ledger
          occurrences := w.occurrences ++
            .started step (setStatus step.id .running w.steps) :: p.occurrences
          elapsed := w.elapsed + σ.duration step }

/-- Performing a step starts no other. -/
lemma perform_occurrences {p : Performed} (h : perform σ a run progress step = .ok p) :
    ∀ o ∈ p.occurrences, o.isStart = false := by
  unfold perform at h
  split at h
  · obtain ⟨_, -, hret⟩ := Checked.bind_ok.mp h
    cases hret
    simp
  · obtain ⟨result, -, h⟩ := Checked.bind_ok.mp h
    obtain ⟨_, -, hret⟩ := Checked.bind_ok.mp h
    cases hret
    intro o ho
    rcases List.mem_append.mp ho with ho | ho
    · rw [List.eq_of_mem_replicate ho]
      rfl
    · rw [List.mem_singleton.mp ho]
      rfl

lemma runStep_started (hpending : ∃ row ∈ w.steps, row.id = step.id ∧ row.status = .pending)
    (hopen : step.status.terminal = false) :
    after (fun _ => do
        note fun w => [.started step w.steps]
        let performed ← Program.call (perform σ a run progress step)
        note fun _ => performed.occurrences
        addEvidence performed.evidence
        spend (σ.duration step)
        transitionStep step.id .running performed.target
        return performed.progress) (StepEffect σ a run progress step w) (.ok ())
      { w with steps := setStatus step.id .running (setStatus step.id .ready w.steps) } := by
  simp only [after, wp_bind, wp_note, wp_call, setStatus_setStatus]
  cases hperform : perform σ a run progress step with
  | error e => exact .raised e _ [] rfl (by simp)
  | ok p =>
      have hmore := perform_occurrences hperform
      simp only [wp_bind, wp_note, after]
      refine wp_addEvidence (fun ledger hledger => ?_) ?_
      · simp only [after, wp_bind, wp_spend]
        refine wp_transitionStep (fun _ => ?_) fun _ => ?_
        · have hdone := StepEffect.performed p ledger hopen hpending hperform hledger
          simpa [after, setStatus_setStatus] using hdone
        · exact StepEffect.raised _ _ p.occurrences (by simp) hmore
      · exact StepEffect.raised _ _ p.occurrences (by simp) hmore

/-- **One turn of the loop ends in one of the listed effects.** -/
theorem runStep_effect : wp (runStep σ a run progress step) (StepEffect σ a run progress step w) w := by
  unfold runStep
  split
  · rename_i hterminal
    exact .skipped hterminal
  · rename_i hopen
    rw [wp_bind]
    refine wp_transitionStep (fun hpending => ?_) fun hnot => StepEffect.refused _ _ rfl hnot
    simp only [after, wp_bind]
    refine wp_transitionStep (fun _ => ?_) fun hnot => ?_
    · exact runStep_started hpending (by simpa using hopen)
    · -- The row that was pending is ready now.
      obtain ⟨row, hrow, hid, -⟩ := hpending
      have hready : { row with status := .ready } ∈ setStatus step.id .ready w.steps :=
        List.mem_map.mpr ⟨row, hrow, by simp [hid]⟩
      exact absurd rfl (hnot _ hready hid)

end Step

/-! ## The loop -/

section Loop

variable {σ : Surroundings} {a : Assignment} {run : ResearchAgentRunRecord}

/-- The steps that the loop performs, with what each of them comes to. -/
def performAll (σ : Surroundings) (a : Assignment) (run : ResearchAgentRunRecord) :
    List ResearchStepRecord → Progress →
      Except String (List (ResearchStepRecord × Performed) × Progress)
  | [], progress => .ok ([], progress)
  | step :: steps, progress =>
      if step.status.terminal then performAll σ a run steps progress
      else do
        let performed ← perform σ a run progress step
        let rest ← performAll σ a run steps performed.progress
        return ((step, performed) :: rest.1, rest.2)

lemma performAll_skip {step : ResearchStepRecord} {steps : List ResearchStepRecord}
    {progress : Progress} (h : step.status.terminal = true) :
    performAll σ a run (step :: steps) progress = performAll σ a run steps progress := by
  rw [performAll, if_pos h]

lemma performAll_perform {step : ResearchStepRecord} {steps : List ResearchStepRecord}
    {progress : Progress} (h : step.status.terminal = false)
    {r : List (ResearchStepRecord × Performed) × Progress} :
    performAll σ a run (step :: steps) progress = .ok r ↔
      ∃ p, perform σ a run progress step = .ok p ∧
        ∃ ps, performAll σ a run steps p.progress = .ok (ps, r.2) ∧ r.1 = (step, p) :: ps := by
  rw [performAll, if_neg (by simp [h])]
  simp only [Checked.bind_ok]
  constructor
  · rintro ⟨p, hp, ⟨ps, final⟩, hps, hret⟩
    cases hret
    exact ⟨p, hp, ps, hps, rfl⟩
  · rintro ⟨p, hp, ps, hps, heq⟩
    refine ⟨p, hp, (ps, r.2), hps, ?_⟩
    rw [← heq]
    rfl

/-- A loop over two lists is a loop over the first and then one over the second. -/
lemma performAll_append {steps others : List ResearchStepRecord} {progress : Progress}
    {r : List (ResearchStepRecord × Performed) × Progress} :
    performAll σ a run (steps ++ others) progress = .ok r ↔
      ∃ ps middle, performAll σ a run steps progress = .ok (ps, middle) ∧
        ∃ qs, performAll σ a run others middle = .ok (qs, r.2) ∧ r.1 = ps ++ qs := by
  induction steps generalizing progress r with
  | nil =>
      constructor
      · intro h
        exact ⟨[], progress, rfl, r.1, h, rfl⟩
      · rintro ⟨_, _, hnil, qs, h, heq⟩
        cases hnil
        rw [List.nil_append, h, ← List.nil_append qs, ← heq]
  | cons step steps ih =>
      rw [List.cons_append]
      cases hterminal : step.status.terminal with
      | true => rw [performAll_skip hterminal, performAll_skip hterminal, ih]
      | false =>
          simp only [performAll_perform hterminal, ih]
          constructor
          · rintro ⟨p, hp, _, ⟨ps, middle, hps, qs, hqs, rfl⟩, heq⟩
            exact ⟨(step, p) :: ps, middle, ⟨p, hp, ps, hps, rfl⟩, qs, hqs, heq⟩
          · rintro ⟨_, middle, ⟨p, hp, ps, hps, rfl⟩, qs, hqs, heq⟩
            exact ⟨p, hp, ps ++ qs, ⟨ps, middle, hps, qs, hqs, rfl⟩, heq⟩

/-- The world after a loop that performed the given steps. -/
structure LoopEffect (σ : Surroundings) (ps : List (ResearchStepRecord × Performed))
    (w w' : World) : Prop where
  run : w'.run = w.run
  planId : w'.planId = w.planId
  claims : w'.claims = w.claims
  ledger : w'.ledger.rows = w.ledger.rows ++ ps.filterMap (·.2.evidence)
  steps : w'.steps = ps.foldl (fun rows x => setStatus x.1.id x.2.target rows) w.steps
  /-- What happened, but for the rows that a start is recorded with. -/
  occurrences : ∀ {β : Type} (f : Occurrence → Option β),
    (∀ step rows, f (.started step rows) = f (.started step [])) →
    w'.occurrences.filterMap f = w.occurrences.filterMap f ++
      ps.flatMap fun x => (.started x.1 [] :: x.2.occurrences).filterMap f
  elapsed : w'.elapsed = w.elapsed + (ps.map fun x => σ.duration x.1).sum

lemma LoopEffect.nil (w : World) : LoopEffect σ [] w w :=
  ⟨rfl, rfl, rfl, by simp, rfl, fun _ _ => by simp, by simp⟩

lemma LoopEffect.cons {step : ResearchStepRecord} {p : Performed} {w w' : World}
    {ledger : Table ResearchEvidenceRecord} {ps : List (ResearchStepRecord × Performed)}
    (hledger : ledger.rows = w.ledger.rows ++ p.evidence.toList)
    (h : LoopEffect σ ps { w with
      steps := setStatus step.id p.target w.steps
      ledger
      occurrences := w.occurrences ++
        .started step (setStatus step.id .running w.steps) :: p.occurrences
      elapsed := w.elapsed + σ.duration step } w') : LoopEffect σ ((step, p) :: ps) w w' where
  run := h.run
  planId := h.planId
  claims := h.claims
  ledger := by
    rw [h.ledger, hledger]
    cases hevidence : p.evidence <;> simp [hevidence]
  steps := h.steps
  occurrences f hf := by
    rw [h.occurrences f hf, List.filterMap_append, List.filterMap_cons, hf, List.flatMap_cons,
      List.append_assoc]
    simp [List.filterMap_cons]
  elapsed := by
    rw [h.elapsed, List.map_cons, List.sum_cons]
    exact Nat.add_assoc _ _ _

/-- **When the loop returns, the world is the one before with what the steps came to.** -/
theorem runSteps_ok {steps : List ResearchStepRecord} {progress final : Progress} {w w' : World}
    (h : runSteps σ a run steps progress w = (.ok final, w')) :
    ∃ ps, performAll σ a run steps progress = .ok (ps, final) ∧ LoopEffect σ ps w w' := by
  induction steps generalizing progress w with
  | nil =>
      cases h
      exact ⟨[], rfl, .nil _⟩
  | cons step steps ih =>
      have hwp : wp (runSteps σ a run (step :: steps) progress)
          (fun r w₁ => r = .ok final ∧ w₁ = w') w := by
        unfold wp
        rw [h]
        exact ⟨rfl, rfl⟩
      rw [runSteps, wp_bind] at hwp
      have heffect : StepEffect σ a run progress step w _ _ := runStep_effect
      unfold wp at hwp
      generalize (runStep σ a run progress step w).1 = r at heffect hwp
      generalize (runStep σ a run progress step w).2 = w₁ at heffect hwp
      cases heffect with
      | skipped hterminal =>
          obtain ⟨ps, hps, heffect⟩ := ih (Prod.ext hwp.1 hwp.2)
          exact ⟨ps, (performAll_skip hterminal).trans hps, heffect⟩
      | refused e _ _ _ => exact absurd hwp.1 (by rintro ⟨⟩)
      | raised e _ _ _ _ => exact absurd hwp.1 (by rintro ⟨⟩)
      | performed p ledger hopen _ hperform hledger =>
          obtain ⟨ps, hps, heffect⟩ := ih (Prod.ext hwp.1 hwp.2)
          refine ⟨(step, p) :: ps, ?_, .cons hledger heffect⟩
          exact (performAll_perform hopen).mpr ⟨p, hperform, ps, hps, rfl⟩

end Loop

end StockResearch.ResearchAgent
