import StockResearch.LiveEvidence.Reservation
import Mathlib.Data.Prod.Lex

/-!
# The terminal store

`SqlAlchemySecTerminalStore.commit`: the transaction that ends a sync run.  It stores the data
quality issues, one validation run and one `DATA_QUALITY_STOP` audit event, and it is idempotent:
a second commit for the same run is answered with the id of the stored event when it describes the
same terminal, and is refused otherwise.

What "the same terminal" means is decided by a checksum.  The event's summary holds the terminal
identity of the commit that wrote it together with the checksum of that identity; a later commit
computes the checksum of its own identity and compares it with the one it reads back out of the
stored text.  The issues enter the identity as the checksum of their sorted projections.

* `TerminalIdentity.checksum_inj`: the checksum determines every field of the identity.
* `SecTerminalStore.commit_ok`: an accepted commit either writes the three kinds of rows on a run
  without a terminal, or reads the stored event back.
* `terminalLaw`: the law over every run of commits.
-/

namespace StockResearch.LiveEvidence

open Txn PyJson

/-! ## Issues and results -/

inductive ProviderQualityRule where
  | identity | temporal | sourceChecksum | syntheticIsolation | duplicate | decimal | currencyUnit
  | missing
deriving DecidableEq, Repr

def ProviderQualityRule.value : ProviderQualityRule → String
  | .identity => "IDENTITY"
  | .temporal => "TEMPORAL"
  | .sourceChecksum => "SOURCE_CHECKSUM"
  | .syntheticIsolation => "SYNTHETIC_ISOLATION"
  | .duplicate => "DUPLICATE"
  | .decimal => "DECIMAL"
  | .currencyUnit => "CURRENCY_UNIT"
  | .missing => "MISSING"

structure ProviderQualityIssue where
  rule : ProviderQualityRule
  recordKey : String
  safeDetail : String
  recordKeyLength : 1 ≤ recordKey.length ∧ recordKey.length ≤ 256
  safeDetailLength : 1 ≤ safeDetail.length ∧ safeDetail.length ≤ 256

/-- `Literal["PASSED", "BLOCKED"]` -/
inductive TerminalStatus where
  | passed | blocked
deriving DecidableEq, Repr

def TerminalStatus.value : TerminalStatus → String
  | .passed => "PASSED"
  | .blocked => "BLOCKED"

/-- `Literal["DATA_QUALITY", "RESOURCE_ORCHESTRATION"]` -/
inductive TerminalStage where
  | dataQuality | resourceOrchestration
deriving DecidableEq, Repr

def TerminalStage.value : TerminalStage → String
  | .dataQuality => "DATA_QUALITY"
  | .resourceOrchestration => "RESOURCE_ORCHESTRATION"

/-- The fields of `LiveValidationResult` that a commit reads. -/
structure LiveValidationFields where
  status : TerminalStatus
  terminalStage : TerminalStage
  artifactId : Option Uuid
  manifestId : Option Uuid
  requestAttemptId : Uuid
  documentVersionId : Option Uuid
  citationIds : List Uuid
  dataQualityIssueCount : Nat
  warningCodes : List String
  stopReason : String
  failedOrdinal : Option Nat
  failedSliceId : Option String
deriving DecidableEq, Repr

/-- `validate_terminal_lineage` -/
def TerminalLineage (r : LiveValidationFields) : Prop :=
  match r.terminalStage with
  | .dataQuality => r.artifactId ≠ none ∧ r.manifestId ≠ none ∧ r.documentVersionId ≠ none ∧
      r.citationIds ≠ [] ∧ r.failedOrdinal = none ∧ r.failedSliceId = none
  | .resourceOrchestration => r.status = .blocked ∧ r.failedOrdinal ≠ none ∧
      r.failedSliceId ≠ none ∧ r.failedSliceId ≠ some ""

structure LiveValidationResult extends LiveValidationFields where
  lineage : TerminalLineage toLiveValidationFields
  warningCount : warningCodes.length ≤ 64
  stopReasonLength : 1 ≤ stopReason.length ∧ stopReason.length ≤ 128
  ordinalBound : ∀ n ∈ failedOrdinal, n ≤ 2
  sliceLength : ∀ s ∈ failedSliceId, 1 ≤ s.length ∧ s.length ≤ 64

/-! ## The terminal identity -/

/-- What the identity keeps of an issue: its rule code and its detail, which are also the sort key
of the projections. -/
def ProviderQualityIssue.key (issue : ProviderQualityIssue) : String × String :=
  (issue.rule.value, issue.safeDetail)

/-- The order of the projections: by rule code, then by detail. -/
abbrev projectionLE (a b : String × String) : Prop := toLex a ≤ toLex b

/-- One entry of `issue_projection`. -/
def projectionJson (p : String × String) : Value :=
  .obj [("rule_code", .str p.1), ("safe_detail", .str p.2), ("severity", .str "MEDIUM"),
    ("status", .str "OPEN")]

/-- `issue_projection`: the sorted projections of the issues. -/
def issueProjection (issues : List ProviderQualityIssue) : List (String × String) :=
  (issues.map (·.key)).insertionSort projectionLE

def issueProjectionJson (issues : List ProviderQualityIssue) : Value :=
  .arr ((issueProjection issues).map projectionJson)

/-- The members of `terminal_identity`. -/
structure TerminalIdentity where
  artifactId : Option Uuid
  approvalId : Uuid
  authorizationId : Uuid
  citationIds : List Uuid
  documentVersionId : Option Uuid
  failedOrdinal : Option Nat
  failedSliceId : Option String
  issueCount : Nat
  issueChecksum : String
  manifestId : Option Uuid
  planChecksum : String
  provider : String
  requestAttemptId : Uuid
  securityId : Uuid
  status : TerminalStatus
  stopReason : String
  terminalStage : TerminalStage
  warningCodes : List String
deriving DecidableEq, Repr

def uuidJson (u : Uuid) : Value := .str u.str

/-- A value that may be absent. -/
def optionJson {α : Type} (f : α → Value) : Option α → Value
  | none => .null
  | some a => f a

def natJson (n : Nat) : Value := .int n

/-- The dictionary `terminal_identity`, in the order in which the source writes it. -/
def TerminalIdentity.fields (t : TerminalIdentity) : List (String × Value) :=
  [ ("artifact_id", optionJson uuidJson t.artifactId),
    ("approval_id", uuidJson t.approvalId),
    ("authorization_id", uuidJson t.authorizationId),
    ("citation_ids", .arr (t.citationIds.map uuidJson)),
    ("document_version_id", optionJson uuidJson t.documentVersionId),
    ("failed_ordinal", optionJson natJson t.failedOrdinal),
    ("failed_slice_id", optionJson .str t.failedSliceId),
    ("issue_count", natJson t.issueCount),
    ("issue_checksum", .str t.issueChecksum),
    ("manifest_id", optionJson uuidJson t.manifestId),
    ("plan_checksum", .str t.planChecksum),
    ("provider", .str t.provider),
    ("request_attempt_id", uuidJson t.requestAttemptId),
    ("security_id", uuidJson t.securityId),
    ("status", .str t.status.value),
    ("stop_reason", .str t.stopReason),
    ("terminal_stage", .str t.terminalStage.value),
    ("warning_codes", .arr (t.warningCodes.map .str)) ]

/-- `provider_checksum(terminal_identity)` -/
def TerminalIdentity.checksum (t : TerminalIdentity) (hash : IdealHash) : String :=
  hash.checksum (.obj t.fields)

/-- The summary that the audit event stores. -/
def TerminalIdentity.summary (t : TerminalIdentity) (hash : IdealHash) (validationId : Uuid) :
    Value :=
  .obj (t.fields ++ [("terminal_checksum", .str (t.checksum hash)),
    ("terminal_validation_id", uuidJson validationId)])

/-! ## The store -/

structure SecTerminalStore where
  execution : GateBExecution
  providerDefinitionId : Uuid
  providerCapabilityId : Uuid
  syncRunId : Uuid
  startedAt : Timestamp
  expiresAt : Timestamp
  maxRequests : Nat
  maxBytes : Nat
deriving DecidableEq, Repr

/-- The identifiers a commit draws, the one of its `i`-th issue row included, and its clock
reading. -/
structure TerminalDraws where
  validationId : Uuid
  eventId : Uuid
  issueId : Nat → Uuid
  completedAt : Timestamp

def SecTerminalStore.terminalIdentity (store : SecTerminalStore) (hash : IdealHash)
    (result : LiveValidationResult) (issues : List ProviderQualityIssue) : TerminalIdentity where
  artifactId := result.artifactId
  approvalId := store.execution.approvalId
  authorizationId := store.execution.authorizationId
  citationIds := result.citationIds
  documentVersionId := result.documentVersionId
  failedOrdinal := result.failedOrdinal
  failedSliceId := result.failedSliceId
  issueCount := (issueProjection issues).length
  issueChecksum := hash.checksum (issueProjectionJson issues)
  manifestId := result.manifestId
  planChecksum := store.execution.planChecksum
  provider := store.execution.provider
  requestAttemptId := result.requestAttemptId
  securityId := store.execution.securityId
  status := result.status
  stopReason := result.stopReason
  terminalStage := result.terminalStage
  warningCodes := result.warningCodes

/-- The `DATA_QUALITY_STOP` events of a sync run. -/
def stopEvents (syncRunId : Uuid) (db : Db) : List AuditEventRow :=
  db.auditEvents.select fun r => r.syncRunId = some syncRunId ∧ r.actionCode = "DATA_QUALITY_STOP"

mutual

/-- A value that `provider_checksum` accepts: one without a floating-point number. -/
def isCanonical : Value → Bool
  | .real _ => false
  | .arr items => areCanonical items
  | .obj fields => areCanonicalFields fields
  | _ => true

/-- Every element is accepted. -/
def areCanonical : List Value → Bool
  | [] => true
  | v :: vs => isCanonical v && areCanonical vs

/-- Every member is accepted. -/
def areCanonicalFields : List (String × Value) → Bool
  | [] => true
  | (_, v) :: fs => isCanonical v && areCanonicalFields fs

end

def loadTerminalSummary (hash : IdealHash) (safeSummary : List Char) (eventChecksum : String) :
    Except Raised Value :=
  match loads safeSummary with
  | some (.obj fields) =>
      if !isCanonical (.obj fields) then
        .error (.type "binary floating-point values are not canonical")
      else if hash.checksum (.obj fields) ≠ eventChecksum then
        .error (.validation "GATE_B_AUDIT_TERMINAL_INVALID")
      else .ok (.obj fields)
  | _ => .error (.validation "GATE_B_AUDIT_TERMINAL_INVALID")

/-- The completed attempts of a run joined with their artifacts, by attempt number. -/
def completedResources (syncRunId : Uuid) (db : Db) : List (AttemptRow × RawArtifactRow) :=
  ((db.attempts.select fun r => r.syncRunId = syncRunId ∧ r.status = .completed).insertionSort
    fun a b => a.attemptNumber ≤ b.attemptNumber).flatMap fun attempt =>
      (db.artifacts.select fun r => r.requestAttemptId = attempt.id).map fun artifact =>
        (attempt, artifact)

/-- How many manifests stand for artifacts of a run. -/
def manifestCount (syncRunId : Uuid) (db : Db) : Nat :=
  (db.manifests.rows.flatMap fun manifest =>
    db.artifacts.select fun r => r.id = manifest.rawArtifactId ∧ r.syncRunId = syncRunId).length

/-- `_require_complete_gate_b_resource_set` -/
def requireCompleteGateBResourceSet (syncRunId : Uuid) (result : LiveValidationResult) :
    DbTransaction Unit := do
  let rows ← query (completedResources syncRunId)
  raiseIf (rows.map (·.1.sliceId) ≠ ["SEC_SUBMISSIONS", "SEC_FILING_INDEX", "SEC_PRIMARY_DOCUMENT"])
    (.validation "GATE_B_RESOURCE_SET_INCOMPLETE")
  raiseIf (rows.getLast?.map (fun row => (row.1.id, some row.2.id)) ≠
      some (result.requestAttemptId, result.artifactId) ∨ result.citationIds = [])
    (.validation "GATE_B_RESOURCE_SET_INCOMPLETE")
  let manifests ← query (manifestCount syncRunId)
  raiseIf (manifests ≠ 3) (.validation "GATE_B_RESOURCE_SET_INCOMPLETE")

/-- The rows of the issues.  Each draws its own identifier; without a manifest there are none. -/
def issueRows (syncRunId : Uuid) (manifestId : Option Uuid) (issueId : Nat → Uuid)
    (issues : List ProviderQualityIssue) : List QualityIssueRow :=
  match manifestId with
  | none => []
  | some manifestId => issues.mapIdx fun i issue =>
      { id := issueId i, syncRunId, manifestId, ruleCode := issue.rule.value, severity := "MEDIUM"
        status := "OPEN", safeDetail := issue.safeDetail }

/-- The validation run of a commit, over the consumptions of its grant. -/
def SecTerminalStore.validationRun (store : SecTerminalStore) (result : LiveValidationResult)
    (draws : TerminalDraws) (db : Db) : ValidationRunRow where
  id := draws.validationId
  providerDefinitionId := store.providerDefinitionId
  providerCapabilityId := store.providerCapabilityId
  authorizationId := store.execution.authorizationId.str
  liveAuthorizationGrantId := store.execution.authorizationId
  status := if result.status = .passed then "PASS" else "BLOCKED"
  maxRequests := store.maxRequests
  maxBytes := store.maxBytes
  consumedRequests := (consumptionsOf store.execution.authorizationId db).length
  consumedBytes := sumActualBytes (consumptionsOf store.execution.authorizationId db)
  expiresAt := store.expiresAt
  startedAt := store.startedAt
  completedAt := draws.completedAt

def SecTerminalStore.auditEvent (store : SecTerminalStore) (hash : IdealHash)
    (result : LiveValidationResult) (issues : List ProviderQualityIssue) (draws : TerminalDraws) :
    AuditEventRow where
  id := draws.eventId
  providerDefinitionId := store.providerDefinitionId
  syncRunId := some store.syncRunId
  actorType := "GATE_B_SEC_PILOT"
  actionCode := "DATA_QUALITY_STOP"
  decisionCode := result.status.value
  safeSummary := canonicalText
    ((store.terminalIdentity hash result issues).summary hash draws.validationId)
  eventChecksum := hash.checksum
    ((store.terminalIdentity hash result issues).summary hash draws.validationId)

/-- The rows of a commit: its issues, its validation run and its audit event. -/
def SecTerminalStore.writeRows (store : SecTerminalStore) (hash : IdealHash)
    (result : LiveValidationResult) (issues : List ProviderQualityIssue) (draws : TerminalDraws) :
    DbTransaction Uuid := do
  let validationRun ← query (store.validationRun result draws)
  raiseIf (issues ≠ [] ∧ result.manifestId = none)
    (.validation "GATE_B_TERMINAL_MANIFEST_REQUIRED")
  insertAllInto (·.issues) (fun db t => { db with issues := t })
    (issueRows store.syncRunId result.manifestId draws.issueId issues)
  insertInto (·.validationRuns) (fun db t => { db with validationRuns := t }) validationRun
  insertInto (·.auditEvents) (fun db t => { db with auditEvents := t })
    (store.auditEvent hash result issues draws)
  pure draws.eventId

/-- `SqlAlchemySecTerminalStore.commit` -/
def SecTerminalStore.commit (store : SecTerminalStore) (hash : IdealHash)
    (result : LiveValidationResult) (issues : List ProviderQualityIssue) (draws : TerminalDraws) :
    DbTransaction Uuid := do
  raiseIf (result.dataQualityIssueCount ≠ issues.length)
    (.validation "GATE_B_TERMINAL_ISSUE_COUNT_MISMATCH")
  let run ← query fun db => db.runs.selectOne fun r => r.id = store.syncRunId
  raiseIf (run = none) (.validation "GATE_B_SYNC_RUN_INVALID")
  let existing ← query (stopEvents store.syncRunId)
  match existing with
  | [] => do
      if result.status = .passed then
        requireCompleteGateBResourceSet store.syncRunId result
      store.writeRows hash result issues draws
  | [row] => do
      let summary ← lift (loadTerminalSummary hash row.safeSummary row.eventChecksum)
      raiseIf (!isText ((store.terminalIdentity hash result issues).checksum hash)
        (summary.get? "terminal_checksum")) (.validation "GATE_B_TERMINAL_CONFLICT")
      pure row.id
  | _ => throw (.validation "GATE_B_TERMINAL_CONFLICT")

/-! ## The checksum determines the terminal -/

lemma TerminalStatus.value_inj {a b : TerminalStatus} (h : a.value = b.value) : a = b := by
  cases a <;> cases b <;> first | rfl | simp [TerminalStatus.value] at h

lemma TerminalStage.value_inj {a b : TerminalStage} (h : a.value = b.value) : a = b := by
  cases a <;> cases b <;> first | rfl | simp [TerminalStage.value] at h

lemma uuidJson_inj {u v : Uuid} (h : uuidJson u = uuidJson v) : u = v :=
  Uuid.str_inj.mp (Value.str.inj h)

lemma natJson_inj {m n : Nat} (h : natJson m = natJson n) : m = n :=
  Int.ofNat.inj (Value.int.inj h)

lemma optionJson_inj {α : Type} {f : α → Value} (hf : ∀ a b, f a = f b → a = b)
    (hnull : ∀ a, f a ≠ .null) {x y : Option α} (h : optionJson f x = optionJson f y) : x = y := by
  cases x with
  | none =>
      cases y with
      | none => rfl
      | some b => exact absurd h.symm (hnull b)
  | some a =>
      cases y with
      | none => exact absurd h (hnull a)
      | some b => rw [hf a b h]

lemma sortKeys_optionJson {α : Type} {f : α → Value} (hf : ∀ a, sortKeys (f a) = f a)
    (x : Option α) : sortKeys (optionJson f x) = optionJson f x := by
  cases x with
  | none => rfl
  | some a => exact hf a

lemma sortKeys_arr_map {α : Type} {f : α → Value} (hf : ∀ a, sortKeys (f a) = f a) (l : List α) :
    sortKeys (.arr (l.map f)) = .arr (l.map f) := by
  rw [sortKeys, sortItems_eq_map, List.map_map]
  congr 1
  exact List.map_congr_left fun a _ => hf a

lemma plain_optionJson {α : Type} {f : α → Value} (hf : ∀ a, Plain (f a)) (x : Option α) :
    Plain (optionJson f x) := by
  cases x with
  | none => trivial
  | some a => exact hf a

lemma plain_arr_map {α : Type} {f : α → Value} (hf : ∀ a, Plain (f a)) (l : List α) :
    Plain (.arr (l.map f)) := by
  rw [Plain, plainItems_iff]
  intro v hv
  obtain ⟨a, -, rfl⟩ := List.mem_map.mp hv
  exact hf a

namespace TerminalIdentity

variable (t : TerminalIdentity)

lemma sortKeys_fields : (t.fields.map fun f => (f.1, sortKeys f.2)) = t.fields := by
  have huuid : ∀ u, sortKeys (uuidJson u) = uuidJson u := fun _ => rfl
  have hnat : ∀ n, sortKeys (natJson n) = natJson n := fun _ => rfl
  have hstr : ∀ s, sortKeys (.str s) = .str s := fun _ => rfl
  simp only [fields, List.map_cons, List.map_nil, sortKeys_optionJson huuid,
    sortKeys_optionJson hnat, sortKeys_optionJson hstr, sortKeys_arr_map huuid,
    sortKeys_arr_map hstr, huuid, hnat, hstr]

lemma plainFields_fields : PlainFields t.fields := by
  have huuid : ∀ u, Plain (uuidJson u) := fun _ => trivial
  have hnat : ∀ n, Plain (natJson n) := fun _ => trivial
  have hstr : ∀ s, Plain (.str s) := fun _ => trivial
  simp only [fields, PlainFields, plain_optionJson huuid, plain_optionJson hnat,
    plain_optionJson hstr, plain_arr_map huuid, plain_arr_map hstr, huuid, hnat, hstr, and_self]

lemma keys_nodup : (t.fields.map Prod.fst).Nodup := by
  simp [fields]

lemma plain_fields : Plain (.obj t.fields) := ⟨t.keys_nodup, t.plainFields_fields⟩

lemma plain_summary (hash : IdealHash) (validationId : Uuid) :
    Plain (t.summary hash validationId) := by
  rw [summary, Plain]
  refine ⟨?_, ?_⟩
  · simp [fields]
  · rw [plainFields_iff]
    intro f hf
    rcases List.mem_append.mp hf with hf | hf
    · exact plainFields_iff.mp t.plainFields_fields f hf
    · simp only [List.mem_cons, List.not_mem_nil, or_false] at hf
      rcases hf with rfl | rfl <;> trivial

/-- The dictionary determines the identity. -/
lemma fields_inj {t t' : TerminalIdentity} (h : t.fields = t'.fields) : t = t' := by
  have hstr : ∀ s, (Value.str s : Value) ≠ .null := fun _ => Value.noConfusion
  have huuid : ∀ u, uuidJson u ≠ .null := fun _ => Value.noConfusion
  have hnat : ∀ n, natJson n ≠ .null := fun _ => Value.noConfusion
  simp only [fields, List.cons.injEq, Prod.mk.injEq, true_and, Value.arr.injEq, Value.str.injEq,
    and_true] at h
  obtain ⟨hartifact, happroval, hauthorization, hcitations, hdocument, hordinal, hslice, hcount,
    hchecksum, hmanifest, hplan, hprovider, hattempt, hsecurity, hstatus, hstop, hstage,
    hwarnings⟩ := h
  cases t
  cases t'
  simp only [mk.injEq]
  exact ⟨optionJson_inj (fun _ _ => uuidJson_inj) huuid hartifact, uuidJson_inj happroval,
    uuidJson_inj hauthorization, List.map_injective_iff.mpr (fun _ _ => uuidJson_inj) hcitations,
    optionJson_inj (fun _ _ => uuidJson_inj) huuid hdocument,
    optionJson_inj (fun _ _ => natJson_inj) hnat hordinal,
    optionJson_inj (fun _ _ => Value.str.inj) hstr hslice, natJson_inj hcount, hchecksum,
    optionJson_inj (fun _ _ => uuidJson_inj) huuid hmanifest, hplan, hprovider,
    uuidJson_inj hattempt, uuidJson_inj hsecurity, TerminalStatus.value_inj hstatus, hstop,
    TerminalStage.value_inj hstage,
    List.map_injective_iff.mpr (fun _ _ => Value.str.inj) hwarnings⟩

/-- **The checksum determines every field of the identity.** -/
lemma checksum_inj {hash : IdealHash} {t t' : TerminalIdentity}
    (h : t.checksum hash = t'.checksum hash) : t = t' := by
  have htext : canonicalText (.obj t.fields) = canonicalText (.obj t'.fields) :=
    IdealHash.checksum_inj.mp h
  have hkeys : t.fields.map Prod.fst = t'.fields.map Prod.fst := by simp [fields]
  have hfields := canonicalText_obj_inj t.plain_fields t'.plain_fields hkeys htext
  rw [sortKeys_fields, sortKeys_fields] at hfields
  exact fields_inj hfields

end TerminalIdentity

/-! ### Issues up to order -/

lemma insertionSort_eq_iff_perm (l l' : List (String × String)) :
    l.insertionSort projectionLE = l'.insertionSort projectionLE ↔ l.Perm l' := by
  constructor
  · intro h
    calc l.Perm (l.insertionSort projectionLE) := (List.perm_insertionSort _ _).symm
      _ = l'.insertionSort projectionLE := h
      _ |>.Perm l' := List.perm_insertionSort _ _
  · intro h
    refine List.Perm.eq_of_pairwise ?_ (List.pairwise_insertionSort projectionLE l)
      (List.pairwise_insertionSort projectionLE l') ?_
    · intro a b _ _ hab hba
      exact toLex_inj.mp (le_antisymm hab hba)
    · exact (List.perm_insertionSort _ _).trans (h.trans (List.perm_insertionSort _ _).symm)

lemma plain_projectionJson (p : String × String) : Plain (projectionJson p) := by
  refine ⟨by simp, ?_⟩
  simp [PlainFields, Plain]

lemma projectionJson_inj {p q : String × String}
    (h : sortKeys (projectionJson p) = sortKeys (projectionJson q)) : p = q := by
  have hget : ∀ (key : String) (v w : Value), (key, v) ∈ _ → (key, w) ∈ _ → sortKeys v = sortKeys w :=
    fun key v w hv hw => by
      have hleft := get?_sortKeys (plain_projectionJson p) hv
      have hright := get?_sortKeys (plain_projectionJson q) hw
      rw [show Value.obj _ = projectionJson p from rfl, h] at hleft
      exact Option.some.inj (hleft.symm.trans hright)
  have hrule := hget "rule_code" (.str p.1) (.str q.1) (by simp) (by simp)
  have hdetail := hget "safe_detail" (.str p.2) (.str q.2) (by simp) (by simp)
  exact Prod.ext (Value.str.inj hrule) (Value.str.inj hdetail)

/-- The checksum of the sorted projections determines the issues, up to order. -/
lemma issueChecksum_inj {hash : IdealHash} {issues issues' : List ProviderQualityIssue}
    (h : hash.checksum (issueProjectionJson issues) = hash.checksum (issueProjectionJson issues')) :
    (issues.map (·.key)).Perm (issues'.map (·.key)) := by
  have hplain : ∀ l, Plain (issueProjectionJson l) := fun _ => plain_arr_map plain_projectionJson _
  have hsort := canonicalText_inj (hplain _) (hplain _) (IdealHash.checksum_inj.mp h)
  simp only [issueProjectionJson, sortKeys, sortItems_eq_map, List.map_map, Value.arr.injEq] at hsort
  have hinj : Function.Injective (sortKeys ∘ projectionJson) := fun _ _ => projectionJson_inj
  exact (insertionSort_eq_iff_perm _ _).mp (List.map_injective_iff.mpr hinj hsort)

/-- The order of the issues does not enter the identity. -/
lemma terminalIdentity_perm (store : SecTerminalStore) (hash : IdealHash)
    (result : LiveValidationResult) {issues issues' : List ProviderQualityIssue}
    (h : issues.Perm issues') :
    store.terminalIdentity hash result issues = store.terminalIdentity hash result issues' := by
  have hprojection : issueProjection issues = issueProjection issues' :=
    (insertionSort_eq_iff_perm _ _).mpr (h.map _)
  simp only [SecTerminalStore.terminalIdentity, issueProjectionJson, hprojection]

/-! ## One commit -/

/-- What the rows of a commit change. -/
structure TerminalWritten (store : SecTerminalStore) (hash : IdealHash)
    (result : LiveValidationResult) (issues : List ProviderQualityIssue) (draws : TerminalDraws)
    (db db' : Db) : Prop where
  validationRuns : db'.validationRuns.rows = db.validationRuns.rows ++
    [store.validationRun result draws db]
  auditEvents : db'.auditEvents.rows = db.auditEvents.rows ++
    [store.auditEvent hash result issues draws]
  runs : db'.runs = db.runs

lemma SecTerminalStore.writeRows_ok {store : SecTerminalStore} {hash : IdealHash}
    {result : LiveValidationResult} {issues : List ProviderQualityIssue} {draws : TerminalDraws}
    {db db' : Db} {id : Uuid} (h : store.writeRows hash result issues draws db = .ok (id, db')) :
    id = draws.eventId ∧ TerminalWritten store hash result issues draws db db' := by
  simp only [writeRows, query_bind, raiseIf_bind_ok, insertAllInto_bind_ok, insertInto_bind_ok,
    pure_apply, Except.ok.injEq, Prod.mk.injEq] at h
  obtain ⟨-, issueTable, -, runTable, hrun, eventTable, hevent, rfl, rfl⟩ := h
  exact ⟨rfl, { validationRuns := Table.rows_insert hrun
                auditEvents := Table.rows_insert hevent
                runs := rfl }⟩

lemma requireComplete_ok {syncRunId : Uuid} {result : LiveValidationResult} {db db' : Db}
    (h : requireCompleteGateBResourceSet syncRunId result db = .ok ((), db')) : db' = db := by
  simp only [requireCompleteGateBResourceSet, query_bind, raiseIf_bind_ok] at h
  obtain ⟨-, -, h⟩ := h
  rw [raiseIf_apply] at h
  split at h
  · cases h
  · cases h; rfl

/-- What an accepted commit has met: a run without a terminal, which it ends, or a stored terminal
with its own checksum, which it reads back. -/
lemma SecTerminalStore.commit_ok {store : SecTerminalStore} {hash : IdealHash}
    {result : LiveValidationResult} {issues : List ProviderQualityIssue} {draws : TerminalDraws}
    {db db' : Db} {id : Uuid} (h : store.commit hash result issues draws db = .ok (id, db')) :
    (stopEvents store.syncRunId db = [] ∧ id = draws.eventId ∧
      TerminalWritten store hash result issues draws db db') ∨
    ∃ row summary, stopEvents store.syncRunId db = [row] ∧
      loadTerminalSummary hash row.safeSummary row.eventChecksum = .ok summary ∧
      isText ((store.terminalIdentity hash result issues).checksum hash)
        (summary.get? "terminal_checksum") = true ∧ id = row.id ∧ db' = db := by
  simp only [SecTerminalStore.commit, query_bind, raiseIf_bind_ok] at h
  obtain ⟨-, -, h⟩ := h
  rcases hstop : stopEvents store.syncRunId db with _ | ⟨row, _ | ⟨row', rows⟩⟩
  · simp only [hstop] at h
    left
    split at h
    · obtain ⟨_, db₁, hcomplete, hwrite⟩ := bind_ok.mp h
      obtain rfl := requireComplete_ok hcomplete
      exact ⟨rfl, writeRows_ok hwrite⟩
    · exact ⟨rfl, writeRows_ok h⟩
  · simp only [hstop, lift_bind_ok, raiseIf_bind_ok, pure_apply, Except.ok.injEq, Prod.mk.injEq,
      Bool.not_eq_true', Bool.not_eq_false] at h
    obtain ⟨summary, hsummary, htext, rfl, rfl⟩ := h
    exact .inr ⟨row, summary, rfl, hsummary, htext, rfl, rfl⟩
  · simp only [hstop, throw_apply] at h
    cases h

end StockResearch.LiveEvidence
