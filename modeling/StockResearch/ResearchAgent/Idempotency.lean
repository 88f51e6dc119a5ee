import StockResearch.ResearchAgent.ToolExecution
import StockResearch.Core.Table

/-!
# Reuse of runs

A run is stored under a key that is hashed from its request, and a request whose key is taken by a
live or completed run is handed that run.  The key is put together from a list of fields.

* `runKey_inj`: the key determines the fields of the list, and nothing else of the request.
* `Keyed`: every run is stored under the key of its own request.  All steps keep it.
* **`reused_run_semantics_iff`**: a request and the run it is handed agree in meaning if and only if
  their requests agree on the research mode and the requested budgets, which the key leaves out.
* **`synthetic_run_handed_to_real_request`**: two requests that do not.
-/

namespace StockResearch.ResearchAgent

open PyJson PyTime Txn

/-! ## The key -/

def researchRunIdempotencyKey (hash : IdealHash) (normalizedRequest : String)
    (securityId snapshotId : Uuid) (researchAsOfTime : Instant) (researchType : ResearchType)
    (requestedSections : List ResearchSection)
    (policyVersion plannerVersion toolCatalogChecksum : String) : String :=
  hash.checksum (.obj [
    ("normalized_request", .str normalizedRequest),
    ("security_id", .str securityId.str),
    ("snapshot_id", .str snapshotId.str),
    ("research_as_of_time", .str researchAsOfTime.isoformat),
    ("research_type", .str researchType.value),
    ("requested_sections", .arr (requestedSections.map fun s => .str s.value)),
    ("policy_version", .str policyVersion),
    ("planner_version", .str plannerVersion),
    ("tool_catalog_checksum", .str toolCatalogChecksum)])

/-- The key of a request, as the command that creates runs computes it. -/
def runKey (hash : IdealHash) (request : ResearchRequestRecord) : String :=
  researchRunIdempotencyKey hash request.normalizedSecurityQuery request.resolvedSecurityId
    request.snapshotId request.researchAsOfTime request.researchType request.requestedSections
    request.policyVersion request.plannerVersion request.toolCatalogChecksum

/-- Two requests agree on everything that changes what a run does or may publish. -/
structure SameSemantics (request other : ResearchRequestRecord) : Prop where
  security : request.resolvedSecurityId = other.resolvedSecurityId
  snapshot : request.snapshotId = other.snapshotId
  asOf : request.researchAsOfTime = other.researchAsOfTime
  researchType : request.researchType = other.researchType
  sections : request.requestedSections = other.requestedSections
  mode : request.researchMode = other.researchMode
  budgets : request.requestedBudgets = other.requestedBudgets

lemma ResearchType.value_inj {a b : ResearchType} (h : a.value = b.value) : a = b := by
  cases a <;> cases b <;> first | rfl | exact absurd h (by decide)

lemma ResearchSection.value_inj {a b : ResearchSection} (h : a.value = b.value) : a = b := by
  cases a <;> cases b <;> first | rfl | exact absurd h (by decide)

lemma sectionTexts_inj {ss ts : List ResearchSection}
    (h : sortItems (ss.map fun s => .str s.value) = sortItems (ts.map fun s => .str s.value)) :
    ss = ts := by
  rw [sortItems_eq_map, sortItems_eq_map, List.map_map, List.map_map] at h
  refine List.map_injective_iff.mpr (fun a b hab => ?_) h
  exact ResearchSection.value_inj (Value.str.inj hab)

/-- What the key determines. -/
theorem runKey_inj {hash : IdealHash} {request other : ResearchRequestRecord}
    (h : runKey hash request = runKey hash other) :
    request.normalizedSecurityQuery = other.normalizedSecurityQuery ∧
    request.resolvedSecurityId = other.resolvedSecurityId ∧
    request.snapshotId = other.snapshotId ∧
    request.researchAsOfTime = other.researchAsOfTime ∧
    request.researchType = other.researchType ∧
    request.requestedSections = other.requestedSections ∧
    request.policyVersion = other.policyVersion ∧
    request.plannerVersion = other.plannerVersion ∧
    request.toolCatalogChecksum = other.toolCatalogChecksum := by
  have htext := IdealHash.checksum_inj.mp h
  have hitems : ∀ ss : List ResearchSection, PlainItems (ss.map fun s => .str s.value) := by
    intro ss
    rw [plainItems_iff]
    simp [Plain]
  have hfields := canonicalText_obj_inj (by simp [Plain, PlainFields, hitems])
    (by simp [Plain, PlainFields, hitems]) (by rfl) htext
  simp only [List.map_cons, List.map_nil, List.cons.injEq, Prod.mk.injEq, true_and, and_true,
    sortKeys, Value.str.injEq, Value.arr.injEq] at hfields
  obtain ⟨hquery, hsecurity, hsnapshot, hasOf, htype, hsections, hpolicy, hplanner, hcatalog⟩ :=
    hfields
  exact ⟨hquery, Uuid.str_inj.mp hsecurity, Uuid.str_inj.mp hsnapshot, Instant.isoformat_inj hasOf,
    ResearchType.value_inj htype, sectionTexts_inj hsections, hpolicy, hplanner, hcatalog⟩

/-- Requests with the same key agree on all of the meaning that the key covers. -/
lemma sameSemantics_iff_of_runKey {hash : IdealHash} {request other : ResearchRequestRecord}
    (h : runKey hash request = runKey hash other) :
    SameSemantics request other ↔
      request.researchMode = other.researchMode ∧
        request.requestedBudgets = other.requestedBudgets := by
  obtain ⟨-, hsecurity, hsnapshot, hasOf, htype, hsections, -, -, -⟩ := runKey_inj h
  constructor
  · intro hsame
    exact ⟨hsame.mode, hsame.budgets⟩
  · rintro ⟨hmode, hbudgets⟩
    exact ⟨hsecurity, hsnapshot, hasOf, htype, hsections, hmode, hbudgets⟩

/-! ## The tables -/

/-- `_REUSABLE`, and the statuses that the query of `find_reusable_run` lists. -/
def ResearchRunStatus.reusable : ResearchRunStatus → Bool
  | .created | .planning | .planned | .running | .paused | .completed => true
  | .partly | .blocked | .failed | .cancelled => false

def isReusableRun (run : ResearchAgentRunRecord) (policy : ResearchPolicyRecord) : Bool :=
  if run.policyVersion ≠ policy.version then false
  else if run.status.reusable then true
  else run.status = .partly && policy.reusePartialRuns

instance : Schema ResearchRequestRecord where
  clash a b := a.id = b.id
  check _ := True
  clash_symm _ _ h := h.symm
  decClash _ _ := inferInstance
  decCheck _ := inferInstance

/-- The primary key, and the unique index on the keys of reusable runs. -/
instance : Schema ResearchAgentRunRecord where
  clash a b := a.id = b.id ∨
    (a.status.reusable = true ∧ b.status.reusable = true ∧ a.idempotencyKey = b.idempotencyKey)
  check _ := True
  clash_symm _ _ h := h.imp Eq.symm fun ⟨ha, hb, hkey⟩ => ⟨hb, ha, hkey.symm⟩
  decClash _ _ := inferInstance
  decCheck _ := inferInstance

structure RunStore where
  requests : Table ResearchRequestRecord
  runs : Table ResearchAgentRunRecord

/-- `ORDER BY created_at, id` -/
def runLE (a b : ResearchAgentRunRecord) : Prop :=
  a.createdAt < b.createdAt ∨ (a.createdAt = b.createdAt ∧ a.id ≤ b.id)

instance : DecidableRel runLE := fun a b =>
  inferInstanceAs (Decidable (a.createdAt < b.createdAt ∨ (a.createdAt = b.createdAt ∧ a.id ≤ b.id)))

def findReusableRun (store : RunStore) (key : String) : Option ResearchAgentRunRecord :=
  ((store.runs.select fun run => run.idempotencyKey = key ∧ run.status.reusable = true).insertionSort
    runLE).head?

def getRequest (store : RunStore) (requestId : Uuid) : Option ResearchRequestRecord :=
  store.requests.selectOne (·.id = requestId)

def createRun (value : ResearchAgentRunRecord) (store : RunStore) :
    Except String (ResearchAgentRunRecord × RunStore) :=
  match findReusableRun store value.idempotencyKey with
  | some run => .ok (run, store)
  | none =>
      match getRequest store value.requestId with
      | none => .error "RESEARCH_REQUEST_NOT_FOUND"
      | some _ =>
          match store.runs.insert value with
          | some runs => .ok (value, { store with runs })
          | none =>
              match findReusableRun store value.idempotencyKey with
              | some winner => .ok (winner, store)
              | none => .error "IntegrityError"

/-- The row that the command asks `create_run` to store. -/
def runWrite (hash : IdealHash) (request : ResearchRequestRecord) (policy : ResearchPolicyRecord)
    (id : Uuid) (warningCodes : List String) (now : Instant) :
    ResearchAgentRunRecord where
  id := id
  requestId := request.id
  securityId := request.resolvedSecurityId
  snapshotId := request.snapshotId
  researchAsOfTime := request.researchAsOfTime
  status := .created
  policyVersion := request.policyVersion
  plannerVersion := request.plannerVersion
  toolCatalogVersion := request.toolCatalogVersion
  toolCatalogChecksum := request.toolCatalogChecksum
  idempotencyKey := runKey hash request
  budget := initialBudget policy
  warningCodes := warningCodes
  createdAt := now

/-! ## Histories -/

/-- What can happen to the tables: a request is stored, a run is created for a stored request, or
the status and the budget of a run change. -/
inductive RunStep (hash : IdealHash) (store : RunStore) : RunStore → Prop where
  | addRequest (request : ResearchRequestRecord) (requests : Table ResearchRequestRecord)
      (hinsert : store.requests.insert request = some requests) :
      RunStep hash store { store with requests }
  | createRun (request : ResearchRequestRecord) (policy : ResearchPolicyRecord) (id : Uuid)
      (warningCodes : List String) (now : Instant) (run : ResearchAgentRunRecord)
      (store' : RunStore) (hrequest : request ∈ store.requests.rows)
      (hcreate : createRun (runWrite hash request policy id warningCodes now) store =
        .ok (run, store')) : RunStep hash store store'
  | updateRun (runId : Uuid) (status : ResearchRunStatus) (budget : RunBudget)
      (runs : Table ResearchAgentRunRecord)
      (hupdate : store.runs.update (·.id = runId) (fun run => { run with status, budget }) =
        some runs) : RunStep hash store { store with runs }

/-- The tables after any number of steps. -/
inductive RunStore.Reachable (hash : IdealHash) : RunStore → Prop where
  | empty : RunStore.Reachable hash ⟨∅, ∅⟩
  | step {store store' : RunStore} (hstore : RunStore.Reachable hash store)
      (hstep : RunStep hash store store') : RunStore.Reachable hash store'

/-- Every run is stored under the key of its own request, and with its policy. -/
def Keyed (hash : IdealHash) (store : RunStore) : Prop :=
  ∀ run ∈ store.runs.rows, ∃ request ∈ store.requests.rows, request.id = run.requestId ∧
    run.idempotencyKey = runKey hash request ∧ run.policyVersion = request.policyVersion

lemma createRun_runs {value run : ResearchAgentRunRecord} {store store' : RunStore}
    (h : createRun value store = .ok (run, store')) :
    store'.requests = store.requests ∧ ∀ r ∈ store'.runs.rows, r ∈ store.runs.rows ∨ r = value := by
  unfold createRun at h
  split at h
  · cases h
    exact ⟨rfl, fun _ hr => .inl hr⟩
  · split at h
    · cases h
    · split at h
      · rename_i runs hinsert
        cases h
        exact ⟨rfl, fun _ hr => (Table.mem_insert hinsert).mp hr⟩
      · split at h
        · cases h
          exact ⟨rfl, fun _ hr => .inl hr⟩
        · cases h

lemma RunStep.keyed {hash : IdealHash} {store store' : RunStore} (hstep : RunStep hash store store')
    (h : Keyed hash store) : Keyed hash store' := by
  intro run hrun
  cases hstep with
  | addRequest request requests hinsert =>
      obtain ⟨own, hown, hkey⟩ := h run hrun
      exact ⟨own, (Table.mem_insert hinsert).mpr (.inl hown), hkey⟩
  | createRun request policy id warningCodes now run' _ hrequest hcreate =>
      obtain ⟨hrequests, hruns⟩ := createRun_runs hcreate
      rw [hrequests]
      rcases hruns run hrun with hold | rfl
      · exact h run hold
      · exact ⟨request, hrequest, rfl, rfl, rfl⟩
  | updateRun runId status budget runs hupdate =>
      change run ∈ runs.rows at hrun
      rw [Table.rows_update hupdate] at hrun
      obtain ⟨old, hold, rfl⟩ := List.mem_map.mp hrun
      obtain ⟨own, hown, hid, hkey⟩ := h old hold
      refine ⟨own, hown, ?_⟩
      split
      · exact ⟨hid, hkey⟩
      · exact ⟨hid, hkey⟩

lemma RunStore.Reachable.keyed {hash : IdealHash} {store : RunStore} (h : store.Reachable hash) :
    Keyed hash store := by
  induction h with
  | empty => exact fun _ hrun => absurd hrun (by simp [EmptyCollection.emptyCollection])
  | step _ hstep ih => exact hstep.keyed ih

lemma findReusableRun_some {store : RunStore} {key : String} {run : ResearchAgentRunRecord}
    (h : findReusableRun store key = some run) :
    run ∈ store.runs.rows ∧ run.idempotencyKey = key ∧ run.status.reusable = true := by
  have hmem := List.mem_of_head? h
  rw [List.mem_insertionSort, Table.mem_select, decide_eq_true_eq] at hmem
  exact hmem

lemma findReusableRun_request {hash : IdealHash} {store : RunStore} (hstore : store.Reachable hash)
    {request : ResearchRequestRecord} {run : ResearchAgentRunRecord}
    (h : findReusableRun store (runKey hash request) = some run) :
    ∃ original, getRequest store run.requestId = some original ∧
      runKey hash request = runKey hash original ∧ run.policyVersion = original.policyVersion := by
  obtain ⟨hrun, hkey, -⟩ := findReusableRun_some h
  obtain ⟨original, horiginal, hid, hown, hpolicy⟩ := hstore.keyed run hrun
  refine ⟨original, ?_, hkey.symm.trans hown, hpolicy⟩
  refine Table.selectOne_of_mem horiginal (decide_eq_true hid) fun r hr => ?_
  exact (of_decide_eq_true hr).trans hid.symm

/-- A run that is found under the key of a request is one that `is_reusable_run` admits for the
policy of the request. -/
theorem findReusableRun_isReusable {hash : IdealHash} {store : RunStore}
    (hstore : store.Reachable hash) {request : ResearchRequestRecord}
    {run : ResearchAgentRunRecord} {policy : ResearchPolicyRecord}
    (hpolicy : request.policyVersion = policy.version)
    (h : findReusableRun store (runKey hash request) = some run) :
    isReusableRun run policy = true := by
  obtain ⟨-, -, hreusable⟩ := findReusableRun_some h
  obtain ⟨original, -, hkey, hown⟩ := findReusableRun_request hstore h
  obtain ⟨-, -, -, -, -, -, hversion, -, -⟩ := runKey_inj hkey
  have hrun : run.policyVersion = policy.version := hown.trans (hversion.symm.trans hpolicy)
  simp [isReusableRun, hrun, hreusable]

/-- **What two requests under one key have in common.**  They agree in meaning if and only if they
agree on the research mode and the requested budgets; and so do, in every history, a request and
the one whose run it is handed. -/
theorem reused_run_semantics_iff (hash : IdealHash) (request : ResearchRequestRecord) :
    (∀ other, runKey hash request = runKey hash other →
      (SameSemantics request other ↔
        request.researchMode = other.researchMode ∧
          request.requestedBudgets = other.requestedBudgets)) ∧
    ∀ store : RunStore, store.Reachable hash →
      ∀ run, findReusableRun store (runKey hash request) = some run →
        ∃ original, getRequest store run.requestId = some original ∧
          (SameSemantics request original ↔
            request.researchMode = original.researchMode ∧
              request.requestedBudgets = original.requestedBudgets) := by
  refine ⟨fun other => sameSemantics_iff_of_runKey, fun store hstore run hfound => ?_⟩
  obtain ⟨original, horiginal, hkey, -⟩ := findReusableRun_request hstore hfound
  exact ⟨original, horiginal, sameSemantics_iff_of_runKey hkey⟩

/-! ## A run that changes hands -/

def overviewRequest (id : Uuid) (researchMode : ResearchMode) : ResearchRequestRecord where
  id := id
  resolvedSecurityId := 5
  normalizedSecurityQuery := "ACME"
  researchType := .companyOverview
  snapshotId := 6
  researchAsOfTime := yearEnd
  requestedSections := [.securityIdentity, .dataQuality, .limitations]
  policyVersion := "controlled-offline-v1"
  plannerVersion := "deterministic-template-v1"
  requestedBudgets := ⟨none, none, none, none, none⟩
  researchMode := researchMode
  toolCatalogVersion := "tool-catalog-v1:" ++ zeroChecksum
  toolCatalogChecksum := zeroChecksum

def offlinePolicy : ResearchPolicyRecord where
  version := "controlled-offline-v1"
  allowedTools := [⟨"get_latest_close", "1.0.0"⟩]
  deniedTools := []
  maxSteps := 12
  maxToolCalls := 24
  maxCallsPerTool := 5
  maxRetriesPerStep := 1
  maxDurationSeconds := 120
  reusePartialRuns := false

def syntheticRun : ResearchAgentRunRecord :=
  { runWrite default (overviewRequest 1 .syntheticTestOnly) offlinePolicy 7 [] yearEnd with
    status := .completed }

/-- The synthetic request with its run, and the real request that came later. -/
def bothRequests : RunStore where
  requests := ⟨[overviewRequest 1 .syntheticTestOnly, overviewRequest 2 .realResearch],
    by decide, fun _ _ => trivial⟩
  runs := .single syntheticRun trivial

lemma bothRequests_reachable : bothRequests.Reachable default := by
  have hrequest : RunStep default ⟨∅, ∅⟩
      ⟨.single (overviewRequest 1 .syntheticTestOnly) trivial, ∅⟩ :=
    .addRequest (overviewRequest 1 .syntheticTestOnly) _ rfl
  have hrun : RunStep default ⟨.single (overviewRequest 1 .syntheticTestOnly) trivial, ∅⟩
      ⟨.single (overviewRequest 1 .syntheticTestOnly) trivial,
        .single (runWrite default (overviewRequest 1 .syntheticTestOnly) offlinePolicy 7 [] yearEnd)
          trivial⟩ :=
    .createRun (overviewRequest 1 .syntheticTestOnly) offlinePolicy 7 [] yearEnd _ _ (by simp [Table.single]) rfl
  have hcompleted : RunStep default ⟨.single (overviewRequest 1 .syntheticTestOnly) trivial,
        .single (runWrite default (overviewRequest 1 .syntheticTestOnly) offlinePolicy 7 [] yearEnd)
          trivial⟩
      ⟨.single (overviewRequest 1 .syntheticTestOnly) trivial, .single syntheticRun trivial⟩ :=
    .updateRun 7 .completed (initialBudget offlinePolicy) _ rfl
  have hsecond : RunStep default
      ⟨.single (overviewRequest 1 .syntheticTestOnly) trivial, .single syntheticRun trivial⟩
      bothRequests :=
    .addRequest (overviewRequest 2 .realResearch) _ rfl
  exact .step (.step (.step (.step .empty hrequest) hrun) hcompleted) hsecond

/-- **The run of a synthetic request is handed to a request for real research.** -/
theorem synthetic_run_handed_to_real_request :
    bothRequests.Reachable default ∧
    runKey default (overviewRequest 2 .realResearch) =
      runKey default (overviewRequest 1 .syntheticTestOnly) ∧
    findReusableRun bothRequests (runKey default (overviewRequest 2 .realResearch)) =
      some syntheticRun ∧
    getRequest bothRequests syntheticRun.requestId =
      some (overviewRequest 1 .syntheticTestOnly) ∧
    ¬ SameSemantics (overviewRequest 2 .realResearch) (overviewRequest 1 .syntheticTestOnly) := by
  refine ⟨bothRequests_reachable, rfl, ?_, rfl, fun hsame => ?_⟩
  · have hkey : runKey default (overviewRequest 2 .realResearch) =
        syntheticRun.idempotencyKey := rfl
    have hselect : bothRequests.runs.select (fun run =>
        run.idempotencyKey = syntheticRun.idempotencyKey ∧ run.status.reusable = true) =
        [syntheticRun] :=
      List.filter_eq_self.mpr fun run hrun => by
        rw [List.mem_singleton.mp hrun]
        exact decide_eq_true ⟨rfl, rfl⟩
    rw [findReusableRun, hkey, hselect]
    rfl
  · exact ResearchMode.noConfusion hsame.mode

/-- The run that is handed on is one that `is_reusable_run` admits. -/
theorem syntheticRun_isReusable : isReusableRun syntheticRun offlinePolicy = true := by
  have hselect : bothRequests.runs.select (fun run =>
      run.idempotencyKey = syntheticRun.idempotencyKey ∧ run.status.reusable = true) =
      [syntheticRun] :=
    List.filter_eq_self.mpr fun run hrun => by
      rw [List.mem_singleton.mp hrun]
      exact decide_eq_true ⟨rfl, rfl⟩
  have hfound : findReusableRun bothRequests
      (runKey default (overviewRequest 1 .syntheticTestOnly)) = some syntheticRun := by
    change findReusableRun bothRequests syntheticRun.idempotencyKey = some syntheticRun
    rw [findReusableRun, hselect]
    rfl
  exact findReusableRun_isReusable bothRequests_reachable rfl hfound

end StockResearch.ResearchAgent
