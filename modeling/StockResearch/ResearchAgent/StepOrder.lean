import StockResearch.ResearchAgent.Plans
import StockResearch.ResearchAgent.StepEffects

/-!
# Dependencies and the order of execution

The validator looks at the dependencies of a plan as a graph and at the indices as positions, but it
never compares the two.  `execute` follows the indices and does not read the dependencies.  So a
step is started after its dependencies exactly where every dependency has a smaller index.

* `LoopInv`: what the loop keeps, with the steps it has been through and those ahead of it.
* **`dependencies_settled_iff`**: for an accepted draft, every execution starts every step after its
  dependencies if and only if the draft is ordered by index.
* **`forward_dependency_started_early`**: an accepted draft that is not.
-/

namespace StockResearch.ResearchAgent

open PyJson PyTime Checked Txn Txn.Program

/-- Whenever a step was started, the rows of the steps it depends on were terminal. -/
def Settled (occurrences : List Occurrence) : Prop :=
  ∀ step rows, .started step rows ∈ occurrences → ∀ row ∈ rows, row.planId = step.planId →
    row.definition.stepKey ∈ step.definition.dependencyKeys → row.status.terminal = true

/-- Every dependency has a smaller index. -/
def IndexOrdered (steps : List ResearchStepDefinition) : Prop :=
  ∀ step ∈ steps, ∀ other ∈ steps, other.stepKey ∈ step.dependencyKeys →
    other.stepIndex < step.stepIndex

instance (steps : List ResearchStepDefinition) : Decidable (IndexOrdered steps) :=
  inferInstanceAs (Decidable (∀ step ∈ steps, ∀ other ∈ steps,
    other.stepKey ∈ step.dependencyKeys → other.stepIndex < step.stepIndex))

/-- The steps of a draft are stored as a plan of the run, with any statuses. -/
structure Planted (draft : ResearchPlanDraft) (planId : Uuid) (w : World) : Prop where
  plan : w.planId = some planId
  rows : (w.steps.filter (·.planId = planId)).map (·.definition) = draft.steps
  ids : (w.steps.map (·.id)).Nodup

/-! ## The order of the steps -/

lemma stepLE_total (a b : ResearchStepRecord) : stepLE a b ∨ stepLE b a := by
  unfold stepLE
  rcases Nat.lt_trichotomy a.definition.stepIndex b.definition.stepIndex with h | h | h
  · exact .inl (.inl h)
  · rcases le_total a.id b.id with hid | hid
    · exact .inl (.inr ⟨h, hid⟩)
    · exact .inr (.inr ⟨h.symm, hid⟩)
  · exact .inr (.inl h)

lemma stepLE_trans {a b c : ResearchStepRecord} (hab : stepLE a b) (hbc : stepLE b c) :
    stepLE a c := by
  unfold stepLE at *
  rcases hab with hab | ⟨hab, hid⟩ <;> rcases hbc with hbc | ⟨hbc, hid'⟩
  · exact .inl (hab.trans hbc)
  · exact .inl (hbc ▸ hab)
  · exact .inl (hab ▸ hbc)
  · exact .inr ⟨hab.trans hbc, hid.trans hid'⟩

lemma mem_listSteps {rows : List ResearchStepRecord} {planId : Uuid} {row : ResearchStepRecord} :
    row ∈ listSteps rows planId ↔ row ∈ rows ∧ row.planId = planId := by
  rw [listSteps, List.mem_insertionSort, List.mem_filter, decide_eq_true_eq]

lemma listSteps_sorted (rows : List ResearchStepRecord) (planId : Uuid) :
    (listSteps rows planId).Pairwise stepLE := by
  have : Std.Total stepLE := ⟨stepLE_total⟩
  have : IsTrans ResearchStepRecord stepLE := ⟨fun _ _ _ => stepLE_trans⟩
  exact List.pairwise_insertionSort stepLE _

lemma listSteps_ids_nodup {rows : List ResearchStepRecord} (planId : Uuid)
    (h : (rows.map (·.id)).Nodup) : ((listSteps rows planId).map (·.id)).Nodup := by
  have hperm := (List.perm_insertionSort stepLE (rows.filter (·.planId = planId))).map (·.id)
  exact hperm.nodup_iff.mpr (h.sublist (List.filter_sublist.map _))

/-! ## The loop -/

/-- What stays of a row when its status changes. -/
def identityOf (row : ResearchStepRecord) : Uuid × Uuid × ResearchStepDefinition :=
  (row.id, row.planId, row.definition)

lemma map_identityOf_setStatus (stepId : Uuid) (target : ResearchStepStatus)
    (rows : List ResearchStepRecord) :
    (setStatus stepId target rows).map identityOf = rows.map identityOf := by
  unfold setStatus
  rw [List.map_map]
  refine List.map_congr_left fun row _ => ?_
  simp only [Function.comp_apply]
  split <;> rfl

/-- What a loop that has been through `done` and has `rest` before it keeps. -/
structure LoopInv (rows done rest : List ResearchStepRecord) (w : World) : Prop where
  same : w.steps.map identityOf = rows.map identityOf
  finished : ∀ row ∈ w.steps, ∀ step ∈ done, row.id = step.id → row.status.terminal = true
  untouched : ∀ row ∈ w.steps, ∀ step ∈ rest, row.id = step.id → row.status = step.status
  settled : Settled w.occurrences

lemma settled_append_start {occurrences more : List Occurrence} {step : ResearchStepRecord}
    {rows : List ResearchStepRecord} (h : Settled occurrences)
    (hmore : ∀ o ∈ more, o.isStart = false)
    (hrows : ∀ row ∈ rows, row.planId = step.planId →
      row.definition.stepKey ∈ step.definition.dependencyKeys → row.status.terminal = true) :
    Settled (occurrences ++ .started step rows :: more) := by
  intro s r hmem
  rcases List.mem_append.mp hmem with hmem | hmem
  · exact h s r hmem
  · rcases List.mem_cons.mp hmem with heq | hmem
    · cases heq
      exact hrows
    · exact absurd (hmore _ hmem) (by simp [Occurrence.isStart])

lemma stepStatus_terminal (status : ObservationStatus) : (stepStatus status).terminal = true := by
  cases status <;> rfl

/-- A performed step ends in a terminal status. -/
lemma perform_terminal {σ : Surroundings} {a : Assignment} {run : ResearchAgentRunRecord}
    {progress : Progress} {step : ResearchStepRecord} {p : Performed}
    (h : perform σ a run progress step = .ok p) : p.target.terminal = true := by
  unfold perform at h
  split at h
  · obtain ⟨_, -, hret⟩ := Checked.bind_ok.mp h
    cases hret
    dsimp only
    split <;> rfl
  · obtain ⟨result, -, h⟩ := Checked.bind_ok.mp h
    obtain ⟨_, -, hret⟩ := Checked.bind_ok.mp h
    cases hret
    exact stepStatus_terminal _

section Loop

variable {σ : Surroundings} {a : Assignment} {run : ResearchAgentRunRecord}
  {rows : List ResearchStepRecord} {planId : Uuid}

/-- The rows that a step depends on are terminal when it is started. -/
lemma dependencies_terminal (hids : (rows.map (·.id)).Nodup)
    (hordered : IndexOrdered ((listSteps rows planId).map (·.definition)))
    {done rest : List ResearchStepRecord} {step : ResearchStepRecord} {w : World}
    (hlist : listSteps rows planId = done ++ step :: rest)
    (hinv : LoopInv rows done (step :: rest) w) :
    ∀ row ∈ setStatus step.id .running w.steps, row.planId = step.planId →
      row.definition.stepKey ∈ step.definition.dependencyKeys → row.status.terminal = true := by
  intro row hrow hplan hkey
  obtain ⟨old, hold, hid, hplan', hdef, hstatus⟩ := mem_setStatus hrow
  have hstep : step ∈ listSteps rows planId := by rw [hlist]; simp
  have hidentity : identityOf old ∈ rows.map identityOf :=
    hinv.same ▸ List.mem_map_of_mem hold
  obtain ⟨origin, horigin, heq⟩ := List.mem_map.mp hidentity
  simp only [identityOf, Prod.mk.injEq] at heq
  have hin : origin ∈ listSteps rows planId := by
    refine mem_listSteps.mpr ⟨horigin, ?_⟩
    rw [heq.2.1, ← hplan', hplan, (mem_listSteps.mp hstep).2]
  have hlt : origin.definition.stepIndex < step.definition.stepIndex := by
    refine hordered _ (List.mem_map_of_mem hstep) _ (List.mem_map_of_mem hin) ?_
    rw [heq.2.2, ← hdef]
    exact hkey
  -- A smaller index stands before the step in the sorted list.
  have hdone : origin ∈ done := by
    have hsorted := listSteps_sorted rows planId
    rw [hlist, List.pairwise_append, List.pairwise_cons] at hsorted
    rw [hlist, List.mem_append, List.mem_cons] at hin
    rcases hin with hin | rfl | hin
    · exact hin
    · exact absurd hlt (lt_irrefl _)
    · rcases hsorted.2.1.1 origin hin with h | ⟨h, -⟩ <;> omega
  have hne : row.id ≠ step.id := by
    have hnodup := listSteps_ids_nodup planId hids
    rw [hlist, List.map_append, List.nodup_append] at hnodup
    rw [hid, ← heq.1]
    exact hnodup.2.2 _ (List.mem_map_of_mem hdone) _ (by simp)
  rw [hstatus, if_neg hne]
  exact hinv.finished old hold origin hdone heq.1.symm

/-- One turn of the loop, for a list that is ordered by index. -/
lemma runStep_loopInv (hids : (rows.map (·.id)).Nodup)
    (hordered : IndexOrdered ((listSteps rows planId).map (·.definition)))
    {done rest : List ResearchStepRecord} {step : ResearchStepRecord} {w : World}
    (hlist : listSteps rows planId = done ++ step :: rest)
    (hinv : LoopInv rows done (step :: rest) w) (progress : Progress) :
    wp (runStep σ a run progress step)
      (fun r w' => match r with
        | .ok _ => LoopInv rows (done ++ [step]) rest w'
        | .error _ => Settled w'.occurrences) w := by
  have hstart := dependencies_terminal hids hordered hlist hinv
  have heffect : StepEffect σ a run progress step w _ _ := runStep_effect
  unfold wp
  generalize (runStep σ a run progress step w).1 = r at heffect
  generalize (runStep σ a run progress step w).2 = w' at heffect
  cases heffect with
  | skipped hterminal =>
      refine ⟨hinv.same, fun row hrow s hs hid => ?_, fun row hrow s hs => ?_, hinv.settled⟩
      · rcases List.mem_append.mp hs with hs | hs
        · exact hinv.finished row hrow s hs hid
        · rw [List.mem_singleton.mp hs] at hid
          rw [hinv.untouched row hrow step (by simp) hid]
          exact hterminal
      · exact hinv.untouched row hrow s (List.mem_cons_of_mem _ hs)
  | refused e w' hsame _ =>
      change Settled w'.occurrences
      rw [hsame]
      exact hinv.settled
  | raised e w' more hsame hmore =>
      change Settled w'.occurrences
      rw [hsame]
      exact settled_append_start hinv.settled hmore hstart
  | performed p ledger _ _ hperform _ =>
      refine ⟨?_, fun row hrow s hs hid => ?_, fun row hrow s hs hid => ?_, ?_⟩
      · exact (map_identityOf_setStatus _ _ _).trans hinv.same
      · obtain ⟨old, hold, hold_id, -, -, hstatus⟩ := mem_setStatus hrow
        rw [hstatus]
        split
        · exact perform_terminal hperform
        · rename_i hne
          rcases List.mem_append.mp hs with hs | hs
          · exact hinv.finished old hold s hs (hold_id ▸ hid)
          · rw [List.mem_singleton.mp hs] at hid
            exact absurd hid hne
      · obtain ⟨old, hold, hold_id, -, -, hstatus⟩ := mem_setStatus hrow
        have hne : row.id ≠ step.id := by
          have hnodup := listSteps_ids_nodup planId hids
          rw [hlist, List.map_append, List.nodup_append, List.map_cons, List.nodup_cons] at hnodup
          rw [hid]
          rintro heq
          exact hnodup.2.1.1 (heq ▸ List.mem_map_of_mem hs)
        rw [hstatus, if_neg hne]
        exact hinv.untouched old hold s (List.mem_cons_of_mem _ hs) (hold_id ▸ hid)
      · exact settled_append_start hinv.settled (perform_occurrences hperform) hstart

/-- The whole loop. -/
lemma runSteps_settled (hids : (rows.map (·.id)).Nodup)
    (hordered : IndexOrdered ((listSteps rows planId).map (·.definition)))
    {rest : List ResearchStepRecord} :
    ∀ {done : List ResearchStepRecord} {w : World} (progress : Progress),
      listSteps rows planId = done ++ rest → LoopInv rows done rest w →
      wp (runSteps σ a run rest progress) (fun _ w' => Settled w'.occurrences) w := by
  induction rest with
  | nil => exact fun _ _ hinv => hinv.settled
  | cons step rest ih =>
      intro done w progress hlist hinv
      rw [runSteps, wp_bind]
      have hturn : wp (runStep σ a run progress step) (fun r w' => match r with
          | .ok _ => LoopInv rows (done ++ [step]) rest w'
          | .error _ => Settled w'.occurrences) w :=
        runStep_loopInv hids hordered hlist hinv progress
      unfold wp at hturn ⊢
      cases hr : (runStep σ a run progress step w).1 with
      | error e =>
          rw [hr] at hturn
          exact hturn
      | ok progress' =>
          rw [hr] at hturn
          exact ih progress' (by rw [hlist]; simp) hturn

end Loop

/-! ## Before and after the loop -/

lemma keeps_transitionRun {τ : Type} {f : World → τ} (target : ResearchRunStatus)
    (hf : ∀ w run, f { w with run } = f w) : Keeps f (transitionRun target) := by
  intro w
  unfold transitionRun
  split
  · exact hf w _
  · rfl

lemma keeps_beginRun {τ : Type} {f : World → τ} (hf : ∀ w run, f { w with run } = f w) :
    Keeps f beginRun := by
  intro w
  unfold beginRun
  split
  · exact keeps_transitionRun _ hf w
  split
  · rfl
  · rfl

lemma closeRun_keeps (σ : Surroundings) (a : Assignment) (progress : Progress) :
    Keeps World.occurrences (closeRun σ a progress) := by
  unfold closeRun
  refine Keeps.bind (fun w => ?_) fun _ => Keeps.bind (fun w => ?_) fun claims => Keeps.get.bind
    fun w => (Keeps.call _).bind fun package => Keeps.bind (fun _ => rfl) fun _ =>
      Keeps.bind (fun _ => rfl) fun _ => (keeps_transitionRun _ fun _ _ => rfl).bind fun _ =>
        Keeps.get.bind fun _ => Keeps.pure _
  · unfold updateRunBudget
    split <;> rfl
  · unfold buildClaims
    split <;> rfl

/-- What happens during an execution happens in its loop. -/
lemma execute_occurrences {σ : Surroundings} {a : Assignment} {P : List Occurrence → Prop}
    {w w₁ : World} {steps : List ResearchStepRecord} (hbegin : beginRun w = (.ok (), w₁))
    (hplan : planSteps w₁ = (.ok steps, w₁))
    (hloop : wp (runSteps σ a w₁.run steps ⟨w₁.run.budget, [], false⟩)
      (fun _ w' => P w'.occurrences) w₁) : P (execute σ a w).2.occurrences := by
  have hwp : wp (execute σ a) (fun _ w' => P w'.occurrences) w := by
    rw [execute, wp_bind]
    unfold wp
    rw [hbegin]
    simp only [after, wp_bind]
    unfold wp
    rw [hplan]
    simp only [after, wp_bind, wp_get]
    unfold wp at hloop ⊢
    cases (runSteps σ a w₁.run steps ⟨w₁.run.budget, [], false⟩ w₁).1 with
    | error e => exact hloop
    | ok progress =>
        change P (closeRun σ a progress _).2.occurrences
        rw [closeRun_keeps]
        exact hloop
  exact hwp

/-- **In an ordered plan every step is started after its dependencies**, whatever the tools do and
from any statuses of the steps. -/
theorem execute_settled (σ : Surroundings) (a : Assignment) {draft : ResearchPlanDraft}
    {planId : Uuid} {w : World} (hplanted : Planted draft planId w)
    (hordered : IndexOrdered draft.steps) (hfresh : w.occurrences = []) :
    Settled (execute σ a w).2.occurrences := by
  have hlist : IndexOrdered ((listSteps w.steps planId).map (·.definition)) := by
    have hdraft : ∀ d ∈ (listSteps w.steps planId).map (·.definition), d ∈ draft.steps := by
      intro d hd
      obtain ⟨row, hrow, rfl⟩ := List.mem_map.mp hd
      rw [← hplanted.rows]
      exact List.mem_map_of_mem ((List.perm_insertionSort stepLE _).mem_iff.mp hrow)
    exact fun step hstep other hother => hordered step (hdraft step hstep) other (hdraft other hother)
  have hframe := keeps_beginRun (f := fun w => (w.steps, w.planId, w.occurrences))
    (fun _ _ => rfl) w
  obtain ⟨hsteps, hplan, hoccurrences⟩ : (beginRun w).2.steps = w.steps ∧
      (beginRun w).2.planId = w.planId ∧ (beginRun w).2.occurrences = w.occurrences := by
    simpa using hframe
  have hnone : Settled (beginRun w).2.occurrences := by
    rw [hoccurrences, hfresh]
    rintro _ _ ⟨⟩
  cases hbegin : beginRun w with
  | mk r w₁ =>
      rw [hbegin] at hsteps hplan hnone
      dsimp only at hsteps hplan hnone
      cases r with
      | error e =>
          have hraised : wp (execute σ a) (fun _ w' => Settled w'.occurrences) w := by
            rw [execute, wp_bind]
            unfold wp
            rw [hbegin]
            exact hnone
          exact hraised
      | ok _ =>
          have hlisted : planSteps w₁ = (.ok (listSteps w.steps planId), w₁) := by
            unfold planSteps
            rw [hplan, hplanted.plan, hsteps]
          have hinv : LoopInv w.steps [] (listSteps w.steps planId) w₁ := by
            refine ⟨by rw [hsteps], fun _ _ s hs => absurd hs (by simp), ?_, hnone⟩
            intro row hrow s hs hid
            rw [hsteps] at hrow
            rw [List.inj_on_of_nodup_map hplanted.ids hrow (mem_listSteps.mp hs).1 hid]
          exact execute_occurrences hbegin hlisted (runSteps_settled hplanted.ids hlist _ rfl hinv)

/-! ## A plan that is not ordered -/

section Unordered

variable {σ : Surroundings} {a : Assignment} {run : ResearchAgentRunRecord}

lemma runSteps_skip {done rest : List ResearchStepRecord} {progress : Progress}
    (hdone : ∀ step ∈ done, step.status.terminal = true) :
    runSteps σ a run (done ++ rest) progress = runSteps σ a run rest progress := by
  induction done with
  | nil => rfl
  | cons step done ih =>
      have hskip : runStep σ a run progress step = pure progress := by
        rw [runStep, if_pos (hdone step (by simp))]
      rw [List.cons_append, runSteps, hskip, pure_bind]
      exact ih fun s hs => hdone s (List.mem_cons_of_mem _ hs)

/-- What has happened stays on record. -/
lemma runSteps_keeps_occurrence {o : Occurrence} {steps : List ResearchStepRecord} :
    ∀ {progress : Progress} {w : World}, o ∈ w.occurrences →
      wp (runSteps σ a run steps progress) (fun _ w' => o ∈ w'.occurrences) w := by
  induction steps with
  | nil => exact fun ho => ho
  | cons step steps ih =>
      intro progress w ho
      rw [runSteps, wp_bind]
      have heffect : StepEffect σ a run progress step w _ _ := runStep_effect
      unfold wp
      generalize (runStep σ a run progress step w).1 = r at heffect
      generalize (runStep σ a run progress step w).2 = w' at heffect
      cases heffect with
      | skipped _ => exact ih ho
      | refused e w' hsame _ =>
          change o ∈ w'.occurrences
          rw [hsame]
          exact ho
      | raised e w' more hsame _ =>
          change o ∈ w'.occurrences
          rw [hsame]
          exact List.mem_append_left _ ho
      | performed p ledger _ _ _ _ => exact ih (List.mem_append_left _ ho)

/-- A step whose row is pending is started when its turn comes. -/
lemma runSteps_starts {step : ResearchStepRecord} {rest : List ResearchStepRecord}
    {progress : Progress} {w : World} (hrow : step ∈ w.steps) (hpending : step.status = .pending) :
    wp (runSteps σ a run (step :: rest) progress) (fun _ w' =>
      .started step (setStatus step.id .running w.steps) ∈ w'.occurrences) w := by
  rw [runSteps, wp_bind]
  have heffect : StepEffect σ a run progress step w _ _ := runStep_effect
  unfold wp
  generalize (runStep σ a run progress step w).1 = r at heffect
  generalize (runStep σ a run progress step w).2 = w' at heffect
  cases heffect with
  | skipped hterminal =>
      rw [hpending] at hterminal
      cases hterminal
  | refused e w' _ hnot => exact absurd hpending (hnot step hrow rfl)
  | raised e w' more hsame _ =>
      change _ ∈ w'.occurrences
      rw [hsame]
      simp
  | performed p ledger _ _ _ _ => exact runSteps_keeps_occurrence (by simp)

end Unordered

/-- The row of a step in a run that has gone through the steps before number `n`. -/
def rowBefore (n : Nat) (step : ResearchStepDefinition) : ResearchStepRecord where
  id := ⟨BitVec.ofNat 128 step.stepIndex⟩
  runId := 1
  planId := 1
  definition := step
  status := if step.stepIndex < n then .pass else .pending

/-- A run that has gone through the steps before number `n`, with nothing else to its name. -/
def worldBefore (draft : ResearchPlanDraft) (n : Nat) : World where
  run := {
    id := 1
    requestId := 1
    securityId := 1
    snapshotId := 1
    researchAsOfTime := yearEnd
    status := .running
    policyVersion := "policy-v1"
    plannerVersion := draft.plannerVersion
    toolCatalogVersion := draft.toolCatalogVersion
    toolCatalogChecksum := zeroChecksum
    idempotencyKey := zeroChecksum
    budget := ⟨20, 50, 5, 1, 600, 0, 0, fun _ => 0, fun _ => 0⟩
    warningCodes := []
    createdAt := yearEnd }
  planId := some 1
  steps := draft.steps.map (rowBefore n)
  ledger := ∅
  claims := ⟨∅, ∅⟩
  package := none
  occurrences := []
  elapsed := 0

section Unordered

variable {draft : ResearchPlanDraft} {policy : ResearchPolicyRecord} {catalog : ToolCatalogSnapshot}

lemma Accepted.index_lt (h : Accepted draft policy catalog) {step : ResearchStepDefinition}
    (hstep : step ∈ draft.steps) : step.stepIndex < 20 := by
  have hmem : step.stepIndex ∈ List.range draft.steps.length :=
    h.indices ▸ List.mem_map_of_mem hstep
  exact (List.mem_range.mp hmem).trans_le draft.bounded.2

lemma Accepted.index_inj (h : Accepted draft policy catalog) {step other : ResearchStepDefinition}
    (hstep : step ∈ draft.steps) (hother : other ∈ draft.steps)
    (heq : step.stepIndex = other.stepIndex) : step = other := by
  have hnodup : (draft.steps.map (·.stepIndex)).Nodup := h.indices ▸ List.nodup_range
  exact List.inj_on_of_nodup_map hnodup hstep hother heq

lemma Accepted.rowId_inj (h : Accepted draft policy catalog) (n : Nat)
    {step other : ResearchStepDefinition} (hstep : step ∈ draft.steps)
    (hother : other ∈ draft.steps) (heq : (rowBefore n step).id = (rowBefore n other).id) :
    step = other := by
  refine h.index_inj hstep hother ?_
  have hbits : (BitVec.ofNat 128 step.stepIndex).toNat = (BitVec.ofNat 128 other.stepIndex).toNat :=
    congrArg (fun u : Uuid => u.bits.toNat) heq
  have hsmall := h.index_lt hstep
  have hsmall' := h.index_lt hother
  rw [BitVec.toNat_ofNat, BitVec.toNat_ofNat, Nat.mod_eq_of_lt (by omega),
    Nat.mod_eq_of_lt (by omega)] at hbits
  exact hbits

lemma planted_worldBefore (h : Accepted draft policy catalog) (n : Nat) :
    Planted draft 1 (worldBefore draft n) where
  plan := rfl
  rows := by
    have hall : (draft.steps.map (rowBefore n)).filter (·.planId = 1) =
        draft.steps.map (rowBefore n) := by
      refine List.filter_eq_self.mpr fun row hrow => ?_
      obtain ⟨step, -, rfl⟩ := List.mem_map.mp hrow
      rfl
    change ((draft.steps.map (rowBefore n)).filter (·.planId = 1)).map (·.definition) = draft.steps
    rw [hall, List.map_map]
    exact List.map_id _
  ids := by
    change ((draft.steps.map (rowBefore n)).map (·.id)).Nodup
    rw [List.map_map]
    refine List.Nodup.map_on (fun step hstep other hother heq => ?_) ?_
    · exact h.rowId_inj n hstep hother heq
    · exact List.Nodup.of_map _ h.keys_nodup

/-- The steps before number `n` have a smaller index, so they are finished. -/
lemma done_terminal (h : Accepted draft policy catalog) {step : ResearchStepDefinition}
    (hstep : step ∈ draft.steps) {done rest : List ResearchStepRecord}
    (hlist : listSteps (worldBefore draft step.stepIndex).steps 1 =
      done ++ rowBefore step.stepIndex step :: rest) :
    ∀ row ∈ done, row.status.terminal = true := by
  intro row hmem
  have hin : row ∈ listSteps (worldBefore draft step.stepIndex).steps 1 := by
    rw [hlist]
    exact List.mem_append_left _ hmem
  obtain ⟨d, hd, rfl⟩ := List.mem_map.mp (mem_listSteps.mp hin).1
  have hsorted := listSteps_sorted (worldBefore draft step.stepIndex).steps 1
  have hnodup := listSteps_ids_nodup 1 (planted_worldBefore h step.stepIndex).ids
  rw [hlist, List.pairwise_append] at hsorted
  rw [hlist, List.map_append, List.nodup_append, List.map_cons] at hnodup
  have hne : (rowBefore step.stepIndex d).id ≠ (rowBefore step.stepIndex step).id :=
    hnodup.2.2 _ (List.mem_map_of_mem hmem) _ List.mem_cons_self
  have hlt : d.stepIndex < step.stepIndex := by
    rcases hsorted.2.2 _ hmem _ List.mem_cons_self with hlt | ⟨heq, -⟩
    · exact hlt
    · rw [h.index_inj hd hstep heq] at hne
      exact absurd rfl hne
  have hpass : (rowBefore step.stepIndex d).status = .pass := if_pos hlt
  rw [hpass]
  rfl

/-- Where a step depends on one that does not have a smaller index, the run that has gone through
the steps before it starts it too early. -/
lemma started_early (σ : Surroundings) (a : Assignment) (h : Accepted draft policy catalog)
    {step other : ResearchStepDefinition} (hstep : step ∈ draft.steps)
    (hother : other ∈ draft.steps) (hkey : other.stepKey ∈ step.dependencyKeys)
    (hle : step.stepIndex ≤ other.stepIndex) :
    ¬ Settled (execute σ a (worldBefore draft step.stepIndex)).2.occurrences := by
  have hpending : (rowBefore step.stepIndex step).status = .pending := if_neg (lt_irrefl _)
  have hrow : rowBefore step.stepIndex step ∈ (worldBefore draft step.stepIndex).steps :=
    List.mem_map_of_mem hstep
  obtain ⟨done, rest, hlist⟩ : ∃ done rest,
      listSteps (worldBefore draft step.stepIndex).steps 1 =
        done ++ rowBefore step.stepIndex step :: rest :=
    List.append_of_mem (mem_listSteps.mpr ⟨hrow, rfl⟩)
  have hplan : planSteps (worldBefore draft step.stepIndex) =
      (.ok (done ++ rowBefore step.stepIndex step :: rest), worldBefore draft step.stepIndex) := by
    rw [← hlist]
    rfl
  have hstarted : .started (rowBefore step.stepIndex step)
      (setStatus (rowBefore step.stepIndex step).id .running
        (worldBefore draft step.stepIndex).steps) ∈
      (execute σ a (worldBefore draft step.stepIndex)).2.occurrences := by
    refine execute_occurrences rfl hplan ?_
    rw [runSteps_skip (done_terminal h hstep hlist)]
    exact runSteps_starts hrow hpending
  intro hsettled
  -- The row of the other step is still pending then.
  have hneother : other ≠ step := by
    rintro rfl
    exact h.not_self _ hstep hkey
  have hnerow : (rowBefore step.stepIndex other).id ≠ (rowBefore step.stepIndex step).id :=
    fun heq => hneother (h.rowId_inj _ hother hstep heq)
  have hwaiting : rowBefore step.stepIndex other ∈ setStatus (rowBefore step.stepIndex step).id
      .running (worldBefore draft step.stepIndex).steps :=
    List.mem_map.mpr ⟨_, List.mem_map_of_mem hother, if_neg hnerow⟩
  have hterminal := hsettled _ _ hstarted _ hwaiting rfl hkey
  have hother_pending : (rowBefore step.stepIndex other).status = .pending := if_neg (by omega)
  rw [hother_pending] at hterminal
  cases hterminal

end Unordered

/-- **Every execution of an accepted draft starts every step after its dependencies if and only if
every dependency has a smaller index.** -/
theorem dependencies_settled_iff (σ : Surroundings) (a : Assignment) {hash : IdealHash}
    {draft : ResearchPlanDraft} {policy : ResearchPolicyRecord} {catalog : ToolCatalogSnapshot}
    {plan : ValidatedResearchPlan} (h : validate hash draft policy catalog = .ok plan) :
    (∀ planId w, Planted draft planId w → w.occurrences = [] →
      Settled (execute σ a w).2.occurrences) ↔ IndexOrdered draft.steps := by
  obtain ⟨haccepted, -⟩ := validate_ok h
  constructor
  · intro hall step hstep other hother hkey
    by_contra hle
    exact started_early σ a haccepted hstep hother hkey (not_lt.mp hle)
      (hall 1 _ (planted_worldBefore haccepted _) rfl)
  · exact fun hordered planId w hplanted hfresh => execute_settled σ a hplanted hordered hfresh

/-! ## A forward dependency that is accepted -/

/-- A step that calls no tool. -/
def componentStep (stepIndex : Nat) (stepKey : String) (stepType : ResearchStepType)
    (dependencyKeys : List String) : ResearchStepDefinition where
  stepIndex := stepIndex
  stepKey := stepKey
  stepType := stepType
  title := stepKey
  required := true
  dependencyKeys := dependencyKeys
  toolName := none
  toolVersion := none
  componentName := some stepKey
  inputBinding := []
  fanoutLimit := 1

def oneToolCatalog : ToolCatalogSnapshot where
  catalogVersion := "tool-catalog-v1:" ++ zeroChecksum
  catalogChecksum := zeroChecksum
  entries := [⟨"get_latest_close", "1.0.0"⟩]

/-- The steps that every plan has, and the dependencies that lead to the package.  The security
waits for `first`. -/
def sixSteps (first : List String) : ResearchPlanDraft where
  plannerVersion := "deterministic-template-v1"
  planVersion := "research-plan-v1"
  toolCatalogVersion := oneToolCatalog.catalogVersion
  steps := [
    componentStep 0 "resolve_security" .resolveSecurity first,
    componentStep 1 "load_snapshot" .loadSnapshot [],
    componentStep 2 "validate_evidence" .validateEvidence ["load_snapshot"],
    componentStep 3 "build_claims" .buildClaims ["validate_evidence"],
    componentStep 4 "validate_claims" .validateClaims ["build_claims"],
    componentStep 5 "assemble_package" .assemblePackage ["validate_claims"]]
  bounded := by simp

def sixStepPolicy : ResearchPolicyRecord where
  version := "policy-v1"
  allowedTools := [⟨"get_latest_close", "1.0.0"⟩]
  deniedTools := []
  maxSteps := 6
  maxToolCalls := 1
  maxCallsPerTool := 1
  maxRetriesPerStep := 0
  maxDurationSeconds := 60
  reusePartialRuns := false

/-- Surroundings in which no tool answers. -/
def quiet : Surroundings where
  hash := default
  parsers := ⟨fun _ => none, fun _ => none⟩
  supply := ⟨id, id, yearEnd, fun _ => yearEnd⟩
  upper := id
  refusal _ := some "INVALID_QUERY"
  answer _ _ := .raised "INVALID_QUERY"
  observed _ _ := .error "INVALID_QUERY"
  identity _ := .error "INVALID_QUERY"
  duration _ := 0
  closing := 0
  packageId := 1
  packageCreatedAt := yearEnd

def overview : Assignment where
  request := {
    id := 1
    resolvedSecurityId := 1
    normalizedSecurityQuery := "ACME"
    researchType := .companyOverview
    snapshotId := 1
    researchAsOfTime := yearEnd
    requestedSections := [.securityIdentity]
    policyVersion := "policy-v1"
    plannerVersion := "deterministic-template-v1"
    requestedBudgets := ⟨none, none, none, none, none⟩
    researchMode := .realResearch
    toolCatalogVersion := oneToolCatalog.catalogVersion
    toolCatalogChecksum := zeroChecksum }
  policy := sixStepPolicy
  catalog := oneToolCatalog

lemma sixSteps_accepted : validate default (sixSteps []) sixStepPolicy oneToolCatalog =
    .ok ⟨sixSteps [], planChecksum default (sixSteps [])⟩ := rfl

lemma sixSteps_forward_accepted :
    validate default (sixSteps ["load_snapshot"]) sixStepPolicy oneToolCatalog =
      .ok ⟨sixSteps ["load_snapshot"], planChecksum default (sixSteps ["load_snapshot"])⟩ := rfl

/-- The six steps without the forward dependency are started in order. -/
theorem six_steps_settled : IndexOrdered (sixSteps []).steps ∧
    Settled (execute quiet overview (worldBefore (sixSteps []) 0)).2.occurrences := by
  have hordered : IndexOrdered (sixSteps []).steps := by decide
  refine ⟨hordered, ?_⟩
  exact (dependencies_settled_iff quiet overview sixSteps_accepted).mpr hordered 1 _
    (planted_worldBefore (validate_ok sixSteps_accepted).1 0) rfl

/-- **An accepted plan whose first step depends on its second**: in a run with nothing but pending
steps the first is started while the second is pending. -/
theorem forward_dependency_started_early :
    validate default (sixSteps ["load_snapshot"]) sixStepPolicy oneToolCatalog =
      .ok ⟨sixSteps ["load_snapshot"], planChecksum default (sixSteps ["load_snapshot"])⟩ ∧
    Planted (sixSteps ["load_snapshot"]) 1 (worldBefore (sixSteps ["load_snapshot"]) 0) ∧
    ¬ Settled (execute quiet overview
      (worldBefore (sixSteps ["load_snapshot"]) 0)).2.occurrences := by
  have haccepted := (validate_ok sixSteps_forward_accepted).1
  have hfirst : componentStep 0 "resolve_security" .resolveSecurity ["load_snapshot"] ∈
      (sixSteps ["load_snapshot"]).steps := by simp [sixSteps]
  have hsecond : componentStep 1 "load_snapshot" .loadSnapshot [] ∈
      (sixSteps ["load_snapshot"]).steps := by simp [sixSteps]
  have hearly := started_early quiet overview haccepted hfirst hsecond
    (by simp [componentStep]) (by decide)
  exact ⟨sixSteps_forward_accepted, planted_worldBefore haccepted 0, hearly⟩

end StockResearch.ResearchAgent
