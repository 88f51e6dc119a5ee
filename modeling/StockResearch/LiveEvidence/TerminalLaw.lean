import StockResearch.LiveEvidence.Execution
import StockResearch.LiveEvidence.TerminalStore
import Mathlib.Logic.Equiv.Basic

/-!
# One terminal per sync run

The law of the terminal store over every run of commits for one sync run.  The first commit that is
accepted stores the terminal.  From then on no commit stores anything, and a commit is answered
only with the id of that terminal and only when it describes the same terminal.

The argument is one invariant.  `Stored c id db` says that the stop event of the run is the one
commit `c` wrote; the summary it holds reads back as written (`loadTerminalSummary_summary`), so a
later commit compares its own checksum with that of `c`, and checksums determine identities.
-/

namespace StockResearch.LiveEvidence

open Txn PyJson

/-- A call of `commit`: the store object it is called on, its arguments and what it draws. -/
structure TerminalCommit where
  store : SecTerminalStore
  result : LiveValidationResult
  issues : List ProviderQualityIssue
  draws : TerminalDraws

namespace TerminalCommit

def identity (c : TerminalCommit) (hash : IdealHash) : TerminalIdentity :=
  c.store.terminalIdentity hash c.result c.issues

/-- The transaction of a call. -/
def run (c : TerminalCommit) (hash : IdealHash) : DbTransaction Uuid :=
  c.store.commit hash c.result c.issues c.draws

/-- The audit event that a call writes when it is the first. -/
def event (c : TerminalCommit) (hash : IdealHash) : AuditEventRow :=
  c.store.auditEvent hash c.result c.issues c.draws

end TerminalCommit

def terminalStep (hash : IdealHash) (db : Db) (c : TerminalCommit) : Except Raised Uuid × Db :=
  commit (c.run hash) db

/-- Two commits that agree on every field of the terminal identity, and on their issues up to
order. -/
structure SameTerminal (c c' : TerminalCommit) : Prop where
  artifactId : c.result.artifactId = c'.result.artifactId
  approvalId : c.store.execution.approvalId = c'.store.execution.approvalId
  authorizationId : c.store.execution.authorizationId = c'.store.execution.authorizationId
  citationIds : c.result.citationIds = c'.result.citationIds
  documentVersionId : c.result.documentVersionId = c'.result.documentVersionId
  failedOrdinal : c.result.failedOrdinal = c'.result.failedOrdinal
  failedSliceId : c.result.failedSliceId = c'.result.failedSliceId
  issues : (c.issues.map (·.key)).Perm (c'.issues.map (·.key))
  manifestId : c.result.manifestId = c'.result.manifestId
  planChecksum : c.store.execution.planChecksum = c'.store.execution.planChecksum
  provider : c.store.execution.provider = c'.store.execution.provider
  requestAttemptId : c.result.requestAttemptId = c'.result.requestAttemptId
  securityId : c.store.execution.securityId = c'.store.execution.securityId
  status : c.result.status = c'.result.status
  stopReason : c.result.stopReason = c'.result.stopReason
  terminalStage : c.result.terminalStage = c'.result.terminalStage
  warningCodes : c.result.warningCodes = c'.result.warningCodes

/-- **Equal checksums, equal terminals.** -/
lemma sameTerminal_iff (hash : IdealHash) {c c' : TerminalCommit} :
    (c.identity hash).checksum hash = (c'.identity hash).checksum hash ↔ SameTerminal c c' := by
  constructor
  · intro h
    have hidentity := TerminalIdentity.checksum_inj h
    simp only [TerminalCommit.identity, SecTerminalStore.terminalIdentity,
      TerminalIdentity.mk.injEq] at hidentity
    obtain ⟨hartifact, happroval, hauthorization, hcitations, hdocument, hordinal, hslice, -,
      hissues, hmanifest, hplan, hprovider, hattempt, hsecurity, hstatus, hstop, hstage,
      hwarnings⟩ := hidentity
    exact ⟨hartifact, happroval, hauthorization, hcitations, hdocument, hordinal, hslice,
      issueChecksum_inj hissues, hmanifest, hplan, hprovider, hattempt, hsecurity, hstatus, hstop,
      hstage, hwarnings⟩
  · intro h
    have hprojection : issueProjection c.issues = issueProjection c'.issues :=
      (insertionSort_eq_iff_perm _ _).mpr h.issues
    simp only [TerminalCommit.identity, SecTerminalStore.terminalIdentity, issueProjectionJson,
      hprojection, h.artifactId, h.approvalId, h.authorizationId, h.citationIds,
      h.documentVersionId, h.failedOrdinal, h.failedSliceId, h.manifestId, h.planChecksum,
      h.provider, h.requestAttemptId, h.securityId, h.status, h.stopReason, h.terminalStage,
      h.warningCodes]

/-! ## Reading the stored summary back -/

mutual

lemma isCanonical_of_plain (v : Value) (hv : Plain v) : isCanonical v = true := by
  match v with
  | .null => rfl
  | .bool _ => rfl
  | .int _ => rfl
  | .real _ => exact hv.elim
  | .str _ => rfl
  | .arr items => exact areCanonical_of_plain items hv
  | .obj fields => exact areCanonicalFields_of_plain fields hv.2

lemma areCanonical_of_plain (items : List Value) (h : PlainItems items) :
    areCanonical items = true := by
  match items with
  | [] => rfl
  | v :: vs => simp [areCanonical, isCanonical_of_plain v h.1, areCanonical_of_plain vs h.2]

lemma areCanonicalFields_of_plain (fields : List (String × Value)) (h : PlainFields fields) :
    areCanonicalFields fields = true := by
  match fields with
  | [] => rfl
  | (_, v) :: fs =>
      simp [areCanonicalFields, isCanonical_of_plain v h.1, areCanonicalFields_of_plain fs h.2]

end

/-- A summary that was stored is read back, in key order, and passes its checksum. -/
lemma loadTerminalSummary_summary (t : TerminalIdentity) (hash : IdealHash) (validationId : Uuid) :
    loadTerminalSummary hash (canonicalText (t.summary hash validationId))
      (hash.checksum (t.summary hash validationId)) =
        .ok (sortKeys (t.summary hash validationId)) := by
  have hplain := t.plain_summary hash validationId
  have hloads := loads_canonicalText hplain
  have hcanonical := isCanonical_of_plain _ (plain_sortKeys _ hplain)
  have hchecksum : hash.checksum (sortKeys (t.summary hash validationId)) =
      hash.checksum (t.summary hash validationId) :=
    IdealHash.checksum_inj.mpr (canonicalText_sortKeys _)
  obtain ⟨fields, hfields⟩ : ∃ fields, sortKeys (t.summary hash validationId) = .obj fields :=
    ⟨_, sortKeys_obj _⟩
  rw [hfields] at hloads hcanonical hchecksum ⊢
  simp [loadTerminalSummary, hloads, hcanonical, hchecksum]

/-- The checksum that a stored summary names. -/
lemma get?_summary (t : TerminalIdentity) (hash : IdealHash) (validationId : Uuid) :
    (sortKeys (t.summary hash validationId)).get? "terminal_checksum" =
      some (.str (t.checksum hash)) := by
  have hmem : ("terminal_checksum", Value.str (t.checksum hash)) ∈
      t.fields ++ [("terminal_checksum", .str (t.checksum hash)),
        ("terminal_validation_id", uuidJson validationId)] := by simp
  exact get?_sortKeys (t.plain_summary hash validationId) hmem

/-! ## The stored terminal -/

/-- The one stop event of the run is the one that `c` wrote, under the id it was answered with. -/
structure Stored (hash : IdealHash) (runId : Uuid) (c : TerminalCommit) (id : Uuid) (db : Db) :
    Prop where
  run : (db.runs.selectOne fun r => r.id = runId) ≠ none
  stop : stopEvents runId db = [c.event hash]
  answer : id = c.draws.eventId

variable {hash : IdealHash} {runId : Uuid} {db : Db}

lemma stopEvents_append {db' : Db} {row : AuditEventRow}
    (h : db'.auditEvents.rows = db.auditEvents.rows ++ [row]) (hrun : row.syncRunId = some runId)
    (haction : row.actionCode = "DATA_QUALITY_STOP") :
    stopEvents runId db' = stopEvents runId db ++ [row] := by
  simp [stopEvents, Table.select, h, hrun, haction]

lemma run_of_commit_ok {c : TerminalCommit} {r : Uuid × Db} (h : c.run hash db = .ok r) :
    (db.runs.selectOne fun r => r.id = c.store.syncRunId) ≠ none := by
  simp only [TerminalCommit.run, SecTerminalStore.commit, query_bind, raiseIf_bind_ok] at h
  exact h.2.1

/-- **The first accepted commit stores the terminal.** -/
lemma stored_of_first {c : TerminalCommit} (hc : c.store.syncRunId = runId)
    (hfirst : stopEvents runId db = []) {id : Uuid} {db' : Db}
    (h : c.run hash db = .ok (id, db')) :
    Stored hash runId c id db' ∧
      db'.validationRuns.rows.length = db.validationRuns.rows.length + 1 := by
  subst hc
  have hrun := run_of_commit_ok h
  rcases SecTerminalStore.commit_ok h with ⟨-, hid, hwritten⟩ | ⟨row, _, hrow, _⟩
  · refine ⟨⟨?_, ?_, hid⟩, ?_⟩
    · rw [hwritten.runs]; exact hrun
    · rw [stopEvents_append hwritten.auditEvents rfl rfl, hfirst]
      rfl
    · simp [hwritten.validationRuns]
  · rw [hfirst] at hrow
    cases hrow

/-- **A later commit stores nothing.**  It is answered with the stored id when it describes the
stored terminal, and is refused when it does not. -/
lemma later_commit {c c' : TerminalCommit} (hc' : c'.store.syncRunId = runId) {id : Uuid}
    (hstored : Stored hash runId c id db) :
    (terminalStep hash db c').2 = db ∧
      (∀ id', (terminalStep hash db c').1 = .ok id' → id' = id ∧ SameTerminal c c') ∧
      (SameTerminal c c' → c'.result.dataQualityIssueCount = c'.issues.length →
        (terminalStep hash db c').1 = .ok id) := by
  subst hc'
  have hload := loadTerminalSummary_summary (c.identity hash) hash c.draws.validationId
  have hget := get?_summary (c.identity hash) hash c.draws.validationId
  have hok : ∀ r, c'.run hash db = .ok r →
      r.2 = db ∧ r.1 = id ∧ SameTerminal c c' := by
    rintro ⟨id', db'⟩ h
    rcases SecTerminalStore.commit_ok h with ⟨hnone, _⟩ | ⟨row, summary, hrow, hsummary, htext, hid, hdb⟩
    · rw [hstored.stop] at hnone
      cases hnone
    · rw [hstored.stop] at hrow
      obtain rfl : c.event hash = row := List.head_eq_of_cons_eq hrow
      have hread : sortKeys ((c.identity hash).summary hash c.draws.validationId) = summary :=
        Except.ok.inj (hload.symm.trans hsummary)
      rw [← hread, hget] at htext
      have hchecksum := beq_iff_eq.mp htext
      exact ⟨hdb, hid.trans hstored.answer.symm, (sameTerminal_iff hash).mp hchecksum⟩
  refine ⟨?_, ?_, ?_⟩
  · exact commit_cases (P := fun s => s = db) rfl fun a s h => (hok (a, s) h).1
  · intro id' h
    exact (hok _ (commit_ok_iff.mp h)).2
  · intro hsame hcount
    have hchecksum := (sameTerminal_iff hash).mpr hsame
    have haccepted : c'.run hash db = .ok (id, db) := by
      simp only [TerminalCommit.run, SecTerminalStore.commit, query_bind, raiseIf_bind, hcount,
        ne_eq, not_true_eq_false, if_false, hstored.run, hstored.stop]
      rw [lift_bind_ok]
      refine ⟨_, hload, ?_⟩
      rw [hget, raiseIf_bind_ok]
      refine ⟨?_, ?_⟩
      · rw [hchecksum]
        simp [isText, TerminalCommit.identity]
      · rw [pure_apply, hstored.answer]
        rfl
    rw [terminalStep, commit_of_ok haccepted]

/-! ## The order of the issues -/

/-- An issue row without its identifier. -/
def QualityIssueRow.content (r : QualityIssueRow) : QualityIssueRow := { r with id := 0 }

/-- Two databases that hold the same rows, the issues up to order and identifiers. -/
structure SameRecords (db db' : Db) : Prop where
  others : { db with issues := ∅ } = { db' with issues := ∅ }
  issues : (db.issues.rows.map (·.content)).Perm (db'.issues.rows.map (·.content))

/-- Two calls that raise alike, or are answered alike and leave the same records. -/
def SameAnswer : Except Raised (Uuid × Db) → Except Raised (Uuid × Db) → Prop
  | .ok r, .ok r' => r.1 = r'.1 ∧ SameRecords r.2 r'.2
  | .error e, .error e' => e = e'
  | _, _ => False

lemma SameAnswer.refl : ∀ x : Except Raised (Uuid × Db), SameAnswer x x
  | .ok _ => ⟨rfl, rfl, .refl _⟩
  | .error _ => rfl

lemma SameAnswer.bind {α : Type} (x : DbTransaction α) {k k' : α → DbTransaction Uuid}
    (h : ∀ a db, SameAnswer (k a db) (k' a db)) (db : Db) :
    SameAnswer ((x >>= k) db) ((x >>= k') db) := by
  change SameAnswer (x db >>= fun p => k p.1 p.2) (x db >>= fun p => k' p.1 p.2)
  cases x db with
  | error e => exact .refl _
  | ok p => exact h p.1 p.2

lemma issueRows_ids (manifestId : Option Uuid) (issueId : Nat → Uuid)
    {issues issues' : List ProviderQualityIssue} (h : issues.length = issues'.length) :
    (issueRows runId manifestId issueId issues).map (·.id) =
      (issueRows runId manifestId issueId issues').map (·.id) := by
  cases manifestId with
  | none => rfl
  | some manifestId =>
      refine List.ext_getElem (by simp [issueRows, h]) ?_
      intro i hi hi'
      simp [issueRows]

lemma issueRows_content (manifestId : Option Uuid) (issueId : Nat → Uuid)
    {issues issues' : List ProviderQualityIssue} (h : issues.Perm issues') :
    ((issueRows runId manifestId issueId issues).map (·.content)).Perm
      ((issueRows runId manifestId issueId issues').map (·.content)) := by
  cases manifestId with
  | none => rfl
  | some manifestId =>
      have hcontent : ∀ l : List ProviderQualityIssue,
          (issueRows runId (some manifestId) issueId l).map (·.content) =
            l.map fun issue => { id := 0, syncRunId := runId, manifestId,
                                 ruleCode := issue.rule.value, severity := "MEDIUM",
                                 status := "OPEN", safeDetail := issue.safeDetail } := by
        intro l
        refine List.ext_getElem (by simp [issueRows]) ?_
        intro i hi hi'
        simp [issueRows, QualityIssueRow.content]
      rw [hcontent, hcontent]
      exact h.map _

/-- Reordered issues are stored or refused alike, and stored with the same contents. -/
lemma insertAll_perm (t : Table QualityIssueRow) (manifestId : Option Uuid) (issueId : Nat → Uuid)
    {issues issues' : List ProviderQualityIssue} (h : issues.Perm issues') :
    Option.Rel (fun t₁ t₂ => (t₁.rows.map (·.content)).Perm (t₂.rows.map (·.content)))
      (t.insertAll (issueRows runId manifestId issueId issues))
      (t.insertAll (issueRows runId manifestId issueId issues')) := by
  have hcontent : ((t.rows ++ issueRows runId manifestId issueId issues).map (·.content)).Perm
      ((t.rows ++ issueRows runId manifestId issueId issues').map (·.content)) := by
    rw [List.map_append, List.map_append]
    exact (issueRows_content manifestId issueId h).append_left _
  have hids : (t.rows ++ issueRows runId manifestId issueId issues).map (·.id) =
      (t.rows ++ issueRows runId manifestId issueId issues').map (·.id) := by
    rw [List.map_append, List.map_append, issueRows_ids manifestId issueId h.length_eq]
  have hcheck : ∀ l : List QualityIssueRow,
      (∀ r ∈ l, Schema.check r) ↔ ∀ r ∈ l.map (·.content), Schema.check r := by
    intro l
    rw [List.forall_mem_map]
    exact Iff.rfl
  have hchecked := (hcheck (t.rows ++ issueRows runId manifestId issueId issues)).trans
    ((forall_congr' fun _ => imp_congr_left hcontent.mem_iff).trans (hcheck _).symm)
  have hsome := Table.ofRows?_isSome_congr (fun _ _ => Iff.rfl) hids hchecked
  cases hleft : t.insertAll (issueRows runId manifestId issueId issues) with
  | none =>
      cases hright : t.insertAll (issueRows runId manifestId issueId issues') with
      | none => exact .none
      | some t₂ => simp_all [Table.insertAll]
  | some t₁ =>
      cases hright : t.insertAll (issueRows runId manifestId issueId issues') with
      | none => simp_all [Table.insertAll]
      | some t₂ =>
          refine .some ?_
          rw [Table.rows_insertAll hleft, Table.rows_insertAll hright]
          exact hcontent

lemma writeRows_perm (store : SecTerminalStore) (result : LiveValidationResult)
    (draws : TerminalDraws) {issues issues' : List ProviderQualityIssue} (h : issues.Perm issues')
    (db : Db) :
    SameAnswer (store.writeRows hash result issues draws db)
      (store.writeRows hash result issues' draws db) := by
  have hnil : issues ≠ [] ↔ issues' ≠ [] := by
    rw [ne_eq, ne_eq, ← List.length_eq_zero_iff, ← List.length_eq_zero_iff, h.length_eq]
  have hevent : store.auditEvent hash result issues draws =
      store.auditEvent hash result issues' draws := by
    simp only [SecTerminalStore.auditEvent, terminalIdentity_perm store hash result h]
  have hissues : Option.Rel _ (db.issues.insertAll
      (issueRows store.syncRunId result.manifestId draws.issueId issues)) _ :=
    insertAll_perm db.issues result.manifestId draws.issueId h
  simp only [SecTerminalStore.writeRows, query_bind, raiseIf_bind, hnil, hevent, insertAllInto,
    insertInto, write_map_bind]
  split
  · rfl
  · generalize db.issues.insertAll _ = left at hissues ⊢
    generalize db.issues.insertAll _ = right at hissues ⊢
    cases hissues with
    | none => rfl
    | some hrows =>
        -- the rows written next do not look at the issues
        cases db.validationRuns.insert (store.validationRun result draws db) with
        | none => rfl
        | some runs =>
            cases db.auditEvents.insert (store.auditEvent hash result issues' draws) with
            | none => rfl
            | some events => exact ⟨rfl, rfl, hrows⟩

/-- **The order of the issues does not matter**: reordered, a commit is answered alike and stores
the same records. -/
lemma commit_perm (store : SecTerminalStore) (result : LiveValidationResult)
    (draws : TerminalDraws) {issues issues' : List ProviderQualityIssue} (h : issues.Perm issues')
    (db : Db) :
    SameAnswer (store.commit hash result issues draws db)
      (store.commit hash result issues' draws db) := by
  have hwrite : ∀ db, SameAnswer (store.writeRows hash result issues draws db)
      (store.writeRows hash result issues' draws db) := writeRows_perm store result draws h
  simp only [SecTerminalStore.commit, query_bind, raiseIf_bind, h.length_eq]
  split
  · rfl
  split
  · rfl
  rcases stopEvents store.syncRunId db with _ | ⟨row, _ | ⟨row', rows⟩⟩
  · simp only
    split
    · exact .bind _ (fun _ => hwrite) db
    · exact hwrite db
  · rw [terminalIdentity_perm store hash result h]
    exact .refl _
  · exact .refl _

/-! ## The law -/

/-- The law of the terminal store, over a run of commits that starts from `db`. -/
structure TerminalLaw (hash : IdealHash) (runId : Uuid) (db : Db) (calls : List TerminalCommit) :
    Prop where
  /-- at most one stop event is ever stored for the run -/
  oneStop : ∀ e ∈ trace (terminalStep hash) db calls, (stopEvents runId e.after).length ≤ 1
  /-- and a validation run is stored with it, and never otherwise -/
  oneValidation : ∀ e ∈ trace (terminalStep hash) db calls,
    e.after.validationRuns.rows.length =
      db.validationRuns.rows.length + (stopEvents runId e.after).length
  /-- a commit that raises stores nothing -/
  rejected : ∀ e ∈ trace (terminalStep hash) db calls, ∀ raised, e.outcome = .error raised →
    e.after = e.before
  /-- an answer is the id of the stored event -/
  answered : ∀ e ∈ trace (terminalStep hash) db calls, ∀ id, e.outcome = .ok id →
    (stopEvents runId e.after).map (·.id) = [id]
  /-- after an accepted commit, no commit stores anything; it is answered with the same id, and
  only if it describes the same terminal, or it raises -/
  later : (trace (terminalStep hash) db calls).Pairwise fun e e' => ∀ id, e.outcome = .ok id →
    e'.after = e'.before ∧ (∀ id', e'.outcome = .ok id' → id' = id ∧ SameTerminal e.call e'.call) ∧
    (SameTerminal e.call e'.call →
      e'.call.result.dataQualityIssueCount = e'.call.issues.length → e'.outcome = .ok id)
  /-- the order in which a commit lists its issues does not matter -/
  orderFree : ∀ e ∈ trace (terminalStep hash) db calls, ∀ issues, e.call.issues.Perm issues →
    (terminalStep hash e.before { e.call with issues }).1 = e.outcome ∧
      SameRecords e.after (terminalStep hash e.before { e.call with issues }).2

/-- Either nothing has been stored since `start`, or one terminal has. -/
def AtMostOne (hash : IdealHash) (runId : Uuid) (start db : Db) : Prop :=
  (stopEvents runId db = [] ∧
      db.validationRuns.rows.length = start.validationRuns.rows.length) ∨
    ∃ c id, Stored hash runId c id db ∧
      db.validationRuns.rows.length = start.validationRuns.rows.length + 1

/-- One commit keeps the invariant, and its answer names what is stored. -/
lemma atMostOne_step {start : Db} {c : TerminalCommit} (hc : c.store.syncRunId = runId)
    (h : AtMostOne hash runId start db) :
    AtMostOne hash runId start (terminalStep hash db c).2 ∧
      ∀ id, (terminalStep hash db c).1 = .ok id →
        ∃ c₀, SameTerminal c₀ c ∧ Stored hash runId c₀ id (terminalStep hash db c).2 := by
  rcases h with ⟨hnone, hcount⟩ | ⟨c₀, id₀, hstored, hcount⟩
  · constructor
    · refine commit_cases (P := AtMostOne hash runId start) (.inl ⟨hnone, hcount⟩) ?_
      intro id db' h
      obtain ⟨hstored, hrows⟩ := stored_of_first hc hnone h
      exact .inr ⟨c, id, hstored, by rw [hrows, hcount]⟩
    · intro id h
      obtain ⟨hstored, -⟩ := stored_of_first hc hnone (commit_ok_iff.mp h)
      exact ⟨c, (sameTerminal_iff hash).mp rfl, hstored⟩
  · obtain ⟨hsame, hanswer, -⟩ := later_commit hc hstored
    constructor
    · rw [hsame]
      exact .inr ⟨c₀, id₀, hstored, hcount⟩
    · intro id h
      obtain ⟨rfl, hterminal⟩ := hanswer id h
      rw [hsame]
      exact ⟨c₀, hterminal, hstored⟩

lemma SameTerminal.symm {a b : TerminalCommit} (h : SameTerminal a b) : SameTerminal b a :=
  (sameTerminal_iff default).mp ((sameTerminal_iff default).mpr h).symm

lemma SameTerminal.trans {a b c : TerminalCommit} (hab : SameTerminal a b)
    (hbc : SameTerminal b c) : SameTerminal a c :=
  (sameTerminal_iff default).mp
    (((sameTerminal_iff default).mpr hab).trans ((sameTerminal_iff default).mpr hbc))

/-- Along a run on a stored terminal nothing changes, and every answer is its id. -/
lemma trace_of_stored {c : TerminalCommit} {id : Uuid} (hstored : Stored hash runId c id db)
    {calls : List TerminalCommit} (hcalls : ∀ c ∈ calls, c.store.syncRunId = runId) :
    ∀ e ∈ trace (terminalStep hash) db calls, Stored hash runId c id e.before := by
  have hrun := trace_invariant (I := Stored hash runId c id)
    (C := fun _ c => c.store.syncRunId = runId)
    (fun s o hs ho => by rw [(later_commit ho hs).1]; exact hs) hstored
    (fun e he => hcalls _ (call_of_mem_trace he))
  exact fun e he => (hrun e he).1

lemma later_of_atMostOne {start : Db} {calls : List TerminalCommit}
    (hcalls : ∀ c ∈ calls, c.store.syncRunId = runId) (hdb : AtMostOne hash runId start db) :
    (trace (terminalStep hash) db calls).Pairwise fun e e' => ∀ id, e.outcome = .ok id →
      e'.after = e'.before ∧
      (∀ id', e'.outcome = .ok id' → id' = id ∧ SameTerminal e.call e'.call) ∧
      (SameTerminal e.call e'.call →
        e'.call.result.dataQualityIssueCount = e'.call.issues.length → e'.outcome = .ok id) := by
  induction calls generalizing db with
  | nil => exact .nil
  | cons c calls ih =>
      obtain ⟨hhead, htail⟩ := List.forall_mem_cons.mp hcalls
      obtain ⟨hnext, hanswer⟩ := atMostOne_step hhead hdb
      refine List.pairwise_cons.mpr ⟨?_, ih htail hnext⟩
      intro e' he' id hid
      obtain ⟨c₀, hsame, hstored⟩ := hanswer id hid
      have hcall := htail _ (call_of_mem_trace he')
      have hlater := later_commit hcall (trace_of_stored hstored htail e' he')
      rw [step_of_mem_trace he'] at hlater
      refine ⟨hlater.1, ?_, ?_⟩
      · intro id' hid'
        obtain ⟨hid', hsame'⟩ := hlater.2.1 id' hid'
        exact ⟨hid', hsame.symm.trans hsame'⟩
      · intro hsame' hcount
        exact hlater.2.2 (hsame.trans hsame') hcount

lemma sameAnswer_commit {x x' : DbTransaction Uuid} (h : SameAnswer (x db) (x' db)) :
    (commit x' db).1 = (commit x db).1 ∧ SameRecords (commit x db).2 (commit x' db).2 := by
  unfold commit
  cases hx : x db with
  | error e =>
      cases hx' : x' db with
      | error e' =>
          rw [hx, hx'] at h
          exact ⟨congrArg Except.error (h : e = e').symm, rfl, .refl _⟩
      | ok r' => simp [hx, hx', SameAnswer] at h
  | ok r =>
      cases hx' : x' db with
      | error e' => simp [hx, hx', SameAnswer] at h
      | ok r' =>
          rw [hx, hx'] at h
          exact ⟨congrArg Except.ok h.1.symm, h.2⟩

/-- **One terminal per sync run.**  Over every run of commits for a sync run without a terminal, by
any store objects, with any results, issues and draws. -/
theorem terminalLaw (hash : IdealHash) (runId : Uuid) (db : Db) (calls : List TerminalCommit)
    (hcalls : ∀ c ∈ calls, c.store.syncRunId = runId) (hfresh : stopEvents runId db = []) :
    TerminalLaw hash runId db calls := by
  have hstart : AtMostOne hash runId db db := .inl ⟨hfresh, rfl⟩
  have hcall : ∀ e ∈ trace (terminalStep hash) db calls, e.call.store.syncRunId = runId :=
    fun e he => hcalls _ (call_of_mem_trace he)
  have hinv := trace_invariant (I := AtMostOne hash runId db)
    (C := fun _ (c : TerminalCommit) => c.store.syncRunId = runId)
    (fun _ _ hs ho => (atMostOne_step ho hs).1) hstart hcall
  refine
    { oneStop := ?_
      oneValidation := ?_
      rejected := ?_
      answered := ?_
      later := later_of_atMostOne hcalls hstart
      orderFree := ?_ }
  · intro e he
    rcases (hinv e he).2 with ⟨hnone, -⟩ | ⟨c, id, hstored, -⟩
    · simp [hnone]
    · simp [hstored.stop]
  · intro e he
    rcases (hinv e he).2 with ⟨hnone, hcount⟩ | ⟨c, id, hstored, hcount⟩
    · simp [hnone, hcount]
    · simp [hstored.stop, hcount]
  · intro e he raised hraised
    have hstep : commit (e.call.run hash) e.before = (e.outcome, e.after) := step_of_mem_trace he
    have hsame := commit_rejected (show (commit (e.call.run hash) e.before).1 = .error raised by
      rw [hstep, hraised])
    rwa [hstep] at hsame
  · intro e he id hid
    obtain ⟨-, hanswer⟩ := atMostOne_step (hcall e he) (hinv e he).1
    rw [step_of_mem_trace he] at hanswer
    obtain ⟨c₀, -, hstored⟩ := hanswer id hid
    rw [hstored.stop, hstored.answer]
    rfl
  · intro e he issues hperm
    have hstep : commit (e.call.run hash) e.before = (e.outcome, e.after) := step_of_mem_trace he
    have hperm : SameAnswer (e.call.run hash e.before) ({ e.call with issues }.run hash e.before) :=
      commit_perm e.call.store e.call.result e.call.draws hperm e.before
    have hanswer := sameAnswer_commit hperm
    rwa [hstep] at hanswer

/-- A transport failure on the first resource. -/
def submissionsFailure (stopReason : String) (h : 1 ≤ stopReason.length ∧ stopReason.length ≤ 128) :
    LiveValidationResult where
  status := .blocked
  terminalStage := .resourceOrchestration
  artifactId := none
  manifestId := none
  requestAttemptId := 11
  documentVersionId := none
  citationIds := []
  dataQualityIssueCount := 0
  warningCodes := []
  stopReason
  failedOrdinal := some 0
  failedSliceId := some "SEC_SUBMISSIONS"
  lineage := by simp [TerminalLineage]
  warningCount := by simp
  stopReasonLength := h
  ordinalBound := by simp
  sliceLength := by decide

/-- The commit of a transport failure of the pilot's run. -/
def failureCommit (stopReason : String) (h : 1 ≤ stopReason.length ∧ stopReason.length ≤ 128)
    (event : Uuid) : TerminalCommit where
  store := { execution := pilotExecution, providerDefinitionId := 41, providerCapabilityId := 42
             syncRunId := 6, startedAt := 5, expiresAt := 100, maxRequests := 4, maxBytes := 100 }
  result := submissionsFailure stopReason h
  issues := []
  draws := { validationId := 51, eventId := event, issueId := fun _ => 0, completedAt := 9 }

/-- A hash that abbreviates the identity of the first commit of the sample run, as a digest does. -/
def sampleHash : IdealHash where
  digest t := String.ofList (Equiv.swap
    (canonicalText (.obj ((failureCommit "SEC_TIMEOUT" (by decide) 52).identity default).fields))
    ['#'] t)
  injective := fun _ _ h => (Equiv.swap _ _).injective (String.ofList_injective h)

/-- A failure is committed, a different one is tried, and the first is committed again. -/
def failureCommits : List TerminalCommit :=
  [failureCommit "SEC_TIMEOUT" (by decide) 52, failureCommit "SEC_HTTP_STATUS" (by decide) 53,
    failureCommit "SEC_TIMEOUT" (by decide) 54]

theorem terminalLaw_failureCommits :
    TerminalLaw sampleHash 6 pilotDb failureCommits ∧
      (terminalStep sampleHash pilotDb (failureCommit "SEC_TIMEOUT" (by decide) 52)).1 = .ok 52 := by
  refine ⟨terminalLaw sampleHash 6 pilotDb failureCommits ?_ ?_, ?_⟩
  · simp [failureCommits, failureCommit]
  · decide
  · decide +kernel

end StockResearch.LiveEvidence
