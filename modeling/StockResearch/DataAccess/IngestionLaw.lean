import StockResearch.DataAccess.Ingestion

/-!
# Ingestion over runs of requests

What holds after any sequence of requests, whatever the provider, the blob store and the repository
do.

A request leaves the world as it is or opens one new run, and `Effect` lists what may come with that
run.  `ingest_outcome` says that there is nothing else, and every law is a case analysis over it.
-/

namespace StockResearch.Ingestion

open PyTime Txn

variable {platform : Platform} {env : Surroundings} {request : IngestionRequest} {w w' : World}
  {run : IngestionRunRecord}

/-! ## One request -/

def World.withRuns (w : World) (t : Table IngestionRunRecord) : World :=
  { w with store := { w.store with runs := t } }

/-- The store after the evidence of a run was stored. -/
def Store.holding (s : Store) (t : Table IngestionRunRecord) (logs : List RequestLog)
    (payloads : Table RawPayload) (category : DataCategory) (payload : RawPayload)
    (records : List ProviderRecord) : Store :=
  ⟨t, logs, payloads, s.evidence ++ records.map fun record => ⟨category, payload.id, record⟩⟩

/-- The update that marks a run as failed is refused. -/
def Surroundings.unmarkable (env : Surroundings) : Prop :=
  env.fault .failRun ≠ none ∨ env.failedAt < env.startedAt

/-- Deleting the blob raises something other than a `BlobStorageError`. -/
def Surroundings.interrupted (env : Surroundings) : Prop :=
  ∃ f, env.fault .deleteBlob = some f ∧ f ≠ .blobStorageError

/-- A blob may stay behind: it cannot be deleted, or `put` raised after writing it. -/
def Surroundings.leaves (env : Surroundings) : Prop :=
  env.fault .deleteBlob ≠ none ∨ ∃ f uri, env.put = .refused f (some uri)

/-- The answer for a run whose evidence could not be stored. -/
def reportsFailure : Except Failure IngestionResult → Prop
  | .ok result => result.status = .fail ∧ result.errorCode = some .persistenceFailed
  | .error _ => False

/-- What a request does to the world besides adding the row `run`. -/
inductive Effect (env : Surroundings) (key : String) (w : World) (run : IngestionRunRecord) :
    Except Failure IngestionResult → World → Prop where
  | idle (t : Table IngestionRunRecord) (r : Except Failure IngestionResult)
      (empty : run.status ≠ .pass ∧ run.status ≠ .partly) : Effect env key w run r (w.withRuns t)
  | unanswered (t : Table IngestionRunRecord) (logs : List RequestLog)
      (r : Except Failure IngestionResult) (empty : run.status ≠ .pass ∧ run.status ≠ .partly) :
      Effect env key w run r
        { w with store := { w.store with runs := t, requestLogs := logs },
                 history := { w.history with fetched := w.history.fetched ++ [key] } }
  | unstored (t : Table IngestionRunRecord) (blobs : List Blob) (r : Except Failure IngestionResult)
      (kept : blobs = w.blobs ∨ env.leaves ∧ ∃ uri, blobs = w.blobs ++ [⟨uri, run.id⟩])
      (status : run.status = .running ∧ (env.unmarkable ∨ env.interrupted) ∨
        run.status = .fail ∧ run.errorCode = some .persistenceFailed)
      (reported : reportsFailure r ∨ env.interrupted) :
      Effect env key w run r
        { store := { w.store with runs := t }, blobs := blobs,
          history := ⟨w.history.fetched ++ [key], w.history.unstored ++ [run.id]⟩ }
  | stored (t : Table IngestionRunRecord) (logs : List RequestLog) (payloads : Table RawPayload)
      (rows : List ProviderRecord) (category : DataCategory) (payload : RawPayload)
      (r : Except Failure IngestionResult)
      (inserted : w.store.rawPayloads.insert payload = some payloads)
      (owner : payload.ingestionRunId = run.id)
      (count : run.status = .pass ∨ run.status = .partly → run.recordsStored = rows.length) :
      Effect env key w run r
        { store := w.store.holding t logs payloads category payload rows,
          blobs := w.blobs ++ [⟨payload.storageUri, run.id⟩],
          history := { w.history with fetched := w.history.fetched ++ [key] } }

/-- What a request does: nothing, or it opens a run. -/
inductive Outcome (platform : Platform) (env : Surroundings) (request : IngestionRequest) (w : World) :
    Except Failure IngestionResult → World → Prop where
  | unchanged (r : Except Failure IngestionResult) : Outcome platform env request w r w
  | opened (run : IngestionRunRecord) (r : Except Failure IngestionResult) (w' : World)
      (named : run.id = env.runId ∧ run.idempotencyKey = env.key platform request)
      (rows : w'.store.runs.rows = w.store.runs.rows ++ [run])
      (effect : Effect env (env.key platform request) w run r w') :
      Outcome platform env request w r w'

/-! ### Updating the new run -/

/-- The last row of a table of runs is the one that its identifier names. -/
lemma update_last {t : Table IngestionRunRecord} {rows : List IngestionRunRecord}
    (hrows : t.rows = rows ++ [run]) {patch : IngestionRunRecord → IngestionRunRecord}
    (hpatch : (patch run).id = run.id ∧ (patch run).idempotencyKey = run.idempotencyKey)
    (hcheck : (patch run).lifecycle) :
    t.selectOne (·.id = run.id) = some run ∧
      ∃ t', t.update (·.id = run.id) patch = some t' ∧ t'.rows = rows ++ [patch run] := by
  have hmem : run ∈ t.rows := by simp [hrows]
  -- no other row has this identifier
  have honly : ∀ r ∈ t.rows, r.id = run.id → r = run := fun r hr hid =>
    t.eq_of_clash hr hmem (.inl hid)
  refine ⟨t.selectOne_of_mem hmem (decide_eq_true rfl) fun r hr => .inl (of_decide_eq_true hr), ?_⟩
  have hkeys : ∀ r ∈ t.rows, (if decide (r.id = run.id) = true then patch r else r).id = r.id ∧
      (if decide (r.id = run.id) = true then patch r else r).idempotencyKey = r.idempotencyKey := by
    intro r hr
    by_cases hid : r.id = run.id
    · obtain rfl := honly r hr hid
      simpa using hpatch
    · simp [hid]
  obtain ⟨t', ht'⟩ := t.update_isSome (p := fun r => decide (r.id = run.id)) (f := patch)
    (by
      intro a ha b hb hclash
      simp only [Schema.clash, (hkeys a ha).1, (hkeys a ha).2, (hkeys b hb).1, (hkeys b hb).2]
        at hclash
      exact hclash)
    (by
      intro r hr hid
      obtain rfl := honly r hr (of_decide_eq_true hid)
      exact hcheck)
  refine ⟨t', ht', ?_⟩
  rw [Table.rows_update ht', hrows, List.map_append, List.map_singleton]
  have hkeep : rows.map (fun r => if decide (r.id = run.id) = true then patch r else r) = rows := by
    conv_rhs => rw [← List.map_id rows]
    refine List.map_congr_left fun r hr => ?_
    have hclash := (List.pairwise_append.mp (hrows ▸ t.keyed)).2.2 r hr run (by simp)
    exact if_neg fun hid => hclash (.inl (of_decide_eq_true hid))
  rw [hkeep, if_pos (decide_eq_true rfl)]

lemma updateIngestionRun_last (s : Store) {rows : List IngestionRunRecord}
    (hrows : s.runs.rows = rows ++ [run]) (patch : IngestionRunRecord → IngestionRunRecord)
    (hpatch : (patch run).id = run.id ∧ (patch run).idempotencyKey = run.idempotencyKey) :
    ((patch run).lifecycle ∧ ∃ t : Table IngestionRunRecord, t.rows = rows ++ [patch run] ∧
        updateIngestionRun run.id patch s = .ok (patch run, { s with runs := t })) ∨
      ¬ (patch run).lifecycle ∧ ∃ e, updateIngestionRun run.id patch s = .error e := by
  unfold updateIngestionRun
  rw [query_bind]
  by_cases hcheck : (patch run).lifecycle
  · obtain ⟨hfind, t, hupdate, ht⟩ := update_last hrows hpatch hcheck
    refine .inl ⟨hcheck, t, ht, ?_⟩
    rw [hfind, fetch_some_bind, raiseIf_bind, if_neg (not_not_intro hcheck), write_map_bind, hupdate]
    rfl
  · have hfind : s.runs.selectOne (·.id = run.id) = some run :=
      s.runs.selectOne_of_mem (by simp [hrows]) (decide_eq_true rfl)
        fun r hr => .inl (of_decide_eq_true hr)
    refine .inr ⟨hcheck, .other, ?_⟩
    rw [hfind, fetch_some_bind, raiseIf_bind, if_pos hcheck]

lemma perform_eq_error {op : Operation} {f : Failure} (h : env.perform op = .error f) :
    env.fault op = some f := by
  unfold Surroundings.perform at h
  cases hf : env.fault op with
  | none => simp [hf] at h
  | some g => simpa [hf] using h

lemma wp_onStore {α : Type} (t : Transaction Failure Store α) (Q : Except Failure α → World → Prop) :
    Program.wp (onStore t) Q w ↔
      Q (commit t w.store).1 { w with store := (commit t w.store).2 } := Iff.rfl

/-- An update of the new run is refused, or it is written; then it may still raise. -/
lemma updateRun_spec {op readBack : Operation} {patch : IngestionRunRecord → IngestionRunRecord}
    {rows : List IngestionRunRecord} {Q : Except Failure IngestionRunRecord → World → Prop}
    (hrows : w.store.runs.rows = rows ++ [run])
    (hpatch : (patch run).id = run.id ∧ (patch run).idempotencyKey = run.idempotencyKey)
    (hrefused : (env.fault op ≠ none ∨ ¬ (patch run).lifecycle) → ∀ e, Q (.error e) w)
    (hwritten : ∀ t : Table IngestionRunRecord, t.rows = rows ++ [patch run] →
      (∀ e, Q (.error e) (w.withRuns t)) ∧ Q (.ok (patch run)) (w.withRuns t)) :
    Program.wp (updateRun env op readBack run.id patch) Q w := by
  unfold updateRun
  rw [Program.wp_bind, Program.wp_call]
  cases hop : env.perform op with
  | error e => exact hrefused (.inl (by rw [perform_eq_error hop]; simp)) e
  | ok _ =>
      simp only [Program.after]
      rw [Program.wp_bind, wp_onStore]
      rcases updateIngestionRun_last _ hrows _ hpatch with ⟨-, t, ht, hupdate⟩ | ⟨hcheck, e, hupdate⟩
      · rw [commit_of_ok hupdate]
        simp only [Program.after]
        rw [Program.wp_bind, Program.wp_call]
        cases env.perform readBack with
        | error e => exact (hwritten t ht).1 e
        | ok _ => exact (hwritten t ht).2
      · rw [commit_of_error hupdate]
        exact hrefused (.inr hcheck) e

/-- The end of a run: it is closed, or the answer says that it could not be. -/
lemma finishRun_spec {op readBack : Operation} {patch : IngestionRunRecord → IngestionRunRecord}
    {rows : List IngestionRunRecord} {Q : Except Failure IngestionResult → World → Prop}
    (hrows : w.store.runs.rows = rows ++ [run])
    (hpatch : (patch run).id = run.id ∧ (patch run).idempotencyKey = run.idempotencyKey)
    (hrefused : (env.fault op ≠ none ∨ ¬ (patch run).lifecycle) →
      Q (.ok (safePersistenceFailure run.idempotencyKey (some run))) w)
    (hwritten : ∀ t : Table IngestionRunRecord, t.rows = rows ++ [patch run] →
      Q (.ok (safePersistenceFailure run.idempotencyKey (some run))) (w.withRuns t) ∧
        Q (.ok (fromRun (patch run) [] none)) (w.withRuns t)) :
    Program.wp (finishRun env op readBack run patch) Q w := by
  unfold finishRun
  rw [Program.wp_bind, Program.wp_attempt]
  refine updateRun_spec hrows hpatch (fun h e => hrefused h) fun t ht => ⟨fun e => ?_, ?_⟩
  · exact (hwritten t ht).1
  · exact (hwritten t ht).2

/-! ### The stages of a request -/

/-- A started run, before anything else has happened. -/
structure Started (env : Surroundings) (key : String) (w : World) (run : IngestionRunRecord)
    (w₁ : World) : Prop where
  world : ∃ t : Table IngestionRunRecord, w₁ = w.withRuns t ∧ t.rows = w.store.runs.rows ++ [run]
  named : run.id = env.runId ∧ run.idempotencyKey = key
  running : run.status = .running
  since : run.startedAt = some env.startedAt
  requested : ¬ env.startedAt < run.requestedAt
  uncounted : run.recordsStored = 0

/-- A run that is marked as failed has been running until then. -/
lemma Started.failed_lifecycle {key : String} {w₁ : World} (h : Started env key w run w₁)
    (code : IngestionErrorCode) (message : String) :
    (run.failed env.failedAt code message).lifecycle ↔ ¬ env.failedAt < env.startedAt := by
  have hrequested := not_lt.mp h.requested
  simp [IngestionRunRecord.lifecycle, IngestionRunRecord.failed, h.since, IngestionStatus.terminal,
    hrequested]

lemma Started.failed_named {key : String} {w₁ : World} (h : Started env key w run w₁)
    (code : IngestionErrorCode) (message : String) :
    (run.failed env.failedAt code message).id = env.runId ∧
      (run.failed env.failedAt code message).idempotencyKey = key :=
  h.named

/-- The runs of two worlds that differ in their runs only. -/
lemma withRuns_withRuns (w : World) (t t' : Table IngestionRunRecord) :
    (w.withRuns t).withRuns t' = w.withRuns t' := rfl

/-- A run that ends before the provider is asked. -/
lemma finishRun_idle {op readBack : Operation} {patch : IngestionRunRecord → IngestionRunRecord}
    {w₁ : World} (h : Started env (env.key platform request) w run w₁)
    (hpatch : (patch run).id = run.id ∧ (patch run).idempotencyKey = run.idempotencyKey)
    (hstatus : (patch run).status ≠ .pass ∧ (patch run).status ≠ .partly) :
    Program.wp (finishRun env op readBack run patch) (Outcome platform env request w) w₁ := by
  obtain ⟨t, rfl, ht⟩ := h.world
  have hopen : run.status ≠ .pass ∧ run.status ≠ .partly := by simp [h.running]
  refine finishRun_spec ht hpatch (fun _ => .opened run _ _ h.named ht (.idle t _ hopen)) ?_
  intro t' ht'
  rw [withRuns_withRuns]
  have hnamed : (patch run).id = env.runId ∧ (patch run).idempotencyKey = env.key platform request :=
    ⟨hpatch.1.trans h.named.1, hpatch.2.trans h.named.2⟩
  exact ⟨.opened _ _ _ hnamed ht' (.idle t' _ hstatus), .opened _ _ _ hnamed ht' (.idle t' _ hstatus)⟩

/-- The world of a started run after the provider was asked. -/
def World.asked (w : World) (t : Table IngestionRunRecord) (key : String) : World :=
  { w.withRuns t with history := { w.history with fetched := w.history.fetched ++ [key] } }

lemma logFailure_spec (s : Store) :
    (∃ logs, logFailure env run request s = .ok ((), { s with requestLogs := logs })) ∨
      ∃ e, logFailure env run request s = .error e := by
  cases hlog : logFailure env run request s with
  | error e => exact .inr ⟨e, rfl⟩
  | ok written =>
      unfold logFailure at hlog
      obtain ⟨-, -, hlog⟩ := lift_bind_ok.mp hlog
      cases hlog
      exact .inl ⟨_, rfl⟩

/-- A run whose provider gave no answer that can be used. -/
lemma finishFetchFailure_spec {t : Table IngestionRunRecord} {w₁ : World}
    (h : Started env (env.key platform request) w run w₁)
    (ht : t.rows = w.store.runs.rows ++ [run]) :
    Program.wp (finishFetchFailure env run request) (Outcome platform env request w)
      (w.asked t (env.key platform request)) := by
  -- whatever becomes of the log row, the run is closed in the same way
  have hclose : ∀ logs : List RequestLog,
      Program.wp (finishFailed env run .providerContractFailed
          "Provider response failed safe validation") (Outcome platform env request w)
        { w with store := { w.store with runs := t, requestLogs := logs },
                 history := { w.history with
                   fetched := w.history.fetched ++ [env.key platform request] } } := by
    intro logs
    have hopen : run.status ≠ .pass ∧ run.status ≠ .partly := by simp [h.running]
    unfold finishFailed
    refine finishRun_spec ht ⟨rfl, rfl⟩
      (fun _ => .opened run _ _ h.named ht (.unanswered t logs _ hopen)) ?_
    intro t' ht'
    have hfailed : ∀ r, Outcome platform env request w r
        { w with store := { w.store with runs := t', requestLogs := logs },
                 history := { w.history with
                   fetched := w.history.fetched ++ [env.key platform request] } } := fun r =>
      .opened _ r _ (h.failed_named _ _) ht'
        (.unanswered t' logs r (by simp [IngestionRunRecord.failed]))
    exact ⟨hfailed _, hfailed _⟩
  unfold finishFetchFailure
  rw [Program.wp_bind, Program.wp_attempt, wp_onStore]
  rcases logFailure_spec (w.asked t (env.key platform request)).store with ⟨logs, hlog⟩ | ⟨e, hlog⟩
  · rw [commit_of_ok hlog]
    exact hclose logs
  · rw [commit_of_error hlog]
    exact hclose w.store.requestLogs

/-- Marking a run whose evidence could not be stored. -/
lemma finishFailed_unstored {t : Table IngestionRunRecord} {w₁ : World} {blobs : List Blob}
    (h : Started env (env.key platform request) w run w₁)
    (ht : t.rows = w.store.runs.rows ++ [run])
    (kept : blobs = w.blobs ∨ env.leaves ∧ ∃ uri, blobs = w.blobs ++ [⟨uri, run.id⟩]) :
    Program.wp (finishFailed env run .persistenceFailed "Ingestion persistence failed safely")
      (Outcome platform env request w)
      { store := { w.store with runs := t }, blobs := blobs,
        history := ⟨w.history.fetched ++ [env.key platform request],
          w.history.unstored ++ [run.id]⟩ } := by
  unfold finishFailed
  refine finishRun_spec ht ⟨rfl, rfl⟩ ?_ ?_
  · intro hrefused
    have hunmarkable : env.unmarkable :=
      hrefused.imp id fun hcheck => not_not.mp fun hlate => hcheck ((h.failed_lifecycle _ _).mpr hlate)
    exact .opened run _ _ h.named ht
      (.unstored t blobs _ kept (.inl ⟨h.running, .inl hunmarkable⟩) (.inl ⟨rfl, rfl⟩))
  · intro t' ht'
    have hfailed : ∀ r, reportsFailure r → Outcome platform env request w r
        { store := { w.store with runs := t' }, blobs := blobs,
          history := ⟨w.history.fetched ++ [env.key platform request],
            w.history.unstored ++ [run.id]⟩ } := fun r hr =>
      .opened _ r _ (h.failed_named _ _) ht' (.unstored t' blobs r kept (.inr ⟨rfl, rfl⟩) (.inl hr))
    exact ⟨hfailed _ ⟨rfl, rfl⟩, hfailed _ ⟨rfl, rfl⟩⟩

/-- The blob of the run, and no other, is deleted, or it stays and the repository goes on. -/
lemma deleteBlob_spec {uri : String} {Q : Except Failure Unit → World → Prop}
    (hdeleted : Q (.ok ()) { w with blobs := w.blobs.filter (·.uri ≠ uri) })
    (hkept : env.fault .deleteBlob ≠ none → Q (.ok ()) w)
    (hraised : ∀ f, env.interrupted → Q (.error f) w) :
    Program.wp (deleteBlob env uri) Q w := by
  unfold deleteBlob
  rw [Program.wp_catching, Program.wp_bind, Program.wp_call]
  cases hop : env.perform .deleteBlob with
  | ok _ => exact hdeleted
  | error f =>
      have hfault := perform_eq_error hop
      simp only [Program.after]
      split
      · exact hkept (by simp [hfault])
      · next hf => exact hraised f ⟨f, hfault, by simpa using hf⟩

/-- Compensation after a failure to store evidence, with the blobs as they are by then. -/
lemma compensate_spec {t : Table IngestionRunRecord} {w₁ : World} {blobs : List Blob}
    {blobUri : Option String} (h : Started env (env.key platform request) w run w₁)
    (ht : t.rows = w.store.runs.rows ++ [run])
    (hnone : blobUri = none →
      blobs = w.blobs ∨ env.leaves ∧ ∃ uri, blobs = w.blobs ++ [⟨uri, run.id⟩])
    (hsome : ∀ uri ∈ blobUri, blobs = w.blobs ++ [⟨uri, run.id⟩] ∧ ∀ b ∈ w.blobs, b.uri ≠ uri) :
    Program.wp (compensate env run blobUri) (Outcome platform env request w)
      { w.asked t (env.key platform request) with blobs := blobs } := by
  unfold compensate
  rw [Program.wp_bind, Program.wp_update]
  simp only [Program.after]
  cases blobUri with
  | none => exact finishFailed_unstored h ht (hnone rfl)
  | some uri =>
      obtain ⟨hblobs, hfresh⟩ := hsome uri rfl
      rw [Program.wp_bind]
      refine deleteBlob_spec ?_ ?_ ?_
      · have hfilter : blobs.filter (·.uri ≠ uri) = w.blobs := by
          rw [hblobs, List.filter_append, List.filter_eq_self.mpr (by simpa using hfresh)]
          simp
        refine finishFailed_unstored h ht (.inl ?_)
        exact hfilter
      · intro hfault
        exact finishFailed_unstored h ht (.inr ⟨.inl hfault, uri, hblobs⟩)
      · intro f hinterrupted
        have hleaves : env.leaves := by
          obtain ⟨f, hf, -⟩ := hinterrupted
          exact .inl (by simp [hf])
        exact .opened run _ _ h.named ht (.unstored t blobs _ (.inr ⟨hleaves, uri, hblobs⟩)
          (.inl ⟨h.running, .inr hinterrupted⟩) (.inr hinterrupted))

/-! ### Storing evidence -/

lemma addRecords_spec {category : DataCategory} {p : Projection} {records : List ProviderRecord}
    {index : Nat} {s s' : Store} {u : Unit}
    (h : addRecords env category p index records s = .ok (u, s')) :
    s' = { s with evidence := s.evidence ++ records.map fun record =>
      ⟨category, env.payloadId, record⟩ } := by
  induction records generalizing index s with
  | nil =>
      cases h
      simp
  | cons record rest ih =>
      unfold addRecords at h
      obtain ⟨-, h⟩ := raiseIf_bind_ok.mp h
      obtain ⟨-, h⟩ := raiseIf_bind_ok.mp h
      obtain ⟨-, h⟩ := raiseIf_bind_ok.mp h
      obtain ⟨-, -, h⟩ := lift_bind_ok.mp h
      obtain ⟨s₁, hadd, h⟩ := write_bind_ok.mp h
      cases hadd
      rw [ih h]
      simp

/-- The rows that the projection has stored are as many as it says. -/
lemma addEvidenceRows_spec {envelope : ProviderEnvelope} {s s' : Store} {n : Nat}
    (h : addEvidenceRows env request envelope s = .ok (n, s')) :
    ∃ records : List ProviderRecord, n = records.length ∧
      s' = { s with evidence := s.evidence ++ records.map fun record =>
        ⟨request.category, env.payloadId, record⟩ } := by
  unfold addEvidenceRows at h
  cases hp : projection request.category with
  | some p =>
      simp only [hp] at h
      obtain ⟨_, s₁, hadd, h⟩ := bind_ok.mp h
      cases h
      exact ⟨envelope.records, rfl, addRecords_spec hadd⟩
  | none =>
      simp only [hp] at h
      obtain ⟨-, h⟩ := raiseIf_bind_ok.mp h
      cases h
      exact ⟨[], rfl, by simp⟩

lemma persistAttempt_spec {runId : Uuid} {envelope : ProviderEnvelope} {blob : BlobMetadata}
    {s s' : Store} {n : Nat}
    (h : persistAttempt env runId request envelope blob s = .ok (n, s')) :
    ∃ (logs : List RequestLog) (payload : RawPayload) (payloads : Table RawPayload)
      (records : List ProviderRecord),
      s.rawPayloads.insert payload = some payloads ∧ payload.ingestionRunId = runId ∧
        payload.storageUri = blob.uri ∧ n = records.length ∧
        s' = s.holding s.runs logs payloads request.category payload records := by
  unfold persistAttempt at h
  obtain ⟨-, -, h⟩ := lift_bind_ok.mp h
  obtain ⟨s₁, hlog, h⟩ := write_bind_ok.mp h
  cases hlog
  obtain ⟨-, -, h⟩ := lift_bind_ok.mp h
  obtain ⟨payloads, hinsert, h⟩ := write_map_bind_ok.mp h
  split at h
  · cases h
    exact ⟨s.requestLogs ++ [⟨env.requestLogId, runId, request.requestId, none⟩], _, payloads, [],
      hinsert, rfl, rfl, rfl, by simp [Store.holding]⟩
  · obtain ⟨records, hn, rfl⟩ := addEvidenceRows_spec h
    exact ⟨_, _, payloads, records, hinsert, rfl, rfl, hn, rfl⟩

/-- **What a savepoint that was released has written.** -/
lemma ingestionAttempt_spec {envelope : ProviderEnvelope} {blob : BlobMetadata} {s s' : Store}
    {rows : List IngestionRunRecord} {completed : IngestionRunRecord}
    (hrows : s.runs.rows = rows ++ [run])
    (h : ingestionAttempt env run.id request envelope blob s = .ok (completed, s')) :
    ∃ (t : Table IngestionRunRecord) (logs : List RequestLog) (payload : RawPayload)
      (payloads : Table RawPayload) (records : List ProviderRecord),
      t.rows = rows ++ [completed] ∧ completed.id = run.id ∧
        completed.idempotencyKey = run.idempotencyKey ∧ completed.recordsStored = records.length ∧
        s.rawPayloads.insert payload = some payloads ∧ payload.ingestionRunId = run.id ∧
        payload.storageUri = blob.uri ∧
        s' = s.holding t logs payloads request.category payload records := by
  unfold ingestionAttempt at h
  obtain ⟨-, -, h⟩ := lift_bind_ok.mp h
  obtain ⟨n, s₁, hpersist, h⟩ := bind_ok.mp h
  obtain ⟨logs, payload, payloads, records, hinsert, howner, huri, rfl, rfl⟩ :=
    persistAttempt_spec hpersist
  obtain ⟨-, -, h⟩ := lift_bind_ok.mp h
  obtain ⟨row, s₂, hupdate, h⟩ := bind_ok.mp h
  obtain ⟨-, -, h⟩ := lift_bind_ok.mp h
  obtain ⟨-, -, h⟩ := lift_bind_ok.mp h
  cases h
  -- the row of the run is the last one still
  rcases updateIngestionRun_last (s.holding s.runs logs payloads request.category payload records)
      hrows (.completed (qualityStatus envelope.quality) env.completedAt envelope.records.length
        records.length (safeWarnings envelope).length (qualityError envelope.quality))
      ⟨rfl, rfl⟩ with ⟨-, t, ht, hdone⟩ | ⟨-, e, hdone⟩
  · rw [hdone] at hupdate
    cases hupdate
    exact ⟨t, logs, payload, payloads, records, ht, rfl, rfl, rfl, hinsert, howner, huri, rfl⟩
  · rw [hdone] at hupdate
    cases hupdate

lemma putBlob_spec {runId : Uuid} {Q : Except Failure BlobMetadata → World → Prop}
    (hstored : ∀ blob, (∀ b ∈ w.blobs, b.uri ≠ blob.uri) →
      Q (.ok blob) { w with blobs := w.blobs ++ [⟨blob.uri, runId⟩] })
    (hraised : ∀ f blobs, (blobs = w.blobs ∨ env.leaves ∧ ∃ uri, blobs = w.blobs ++ [⟨uri, runId⟩]) →
      Q (.error f) { w with blobs := blobs }) :
    Program.wp (putBlob env runId) Q w := by
  unfold Program.wp putBlob
  cases hput : env.put with
  | stored blob =>
      simp only
      split
      · exact hraised _ w.blobs (.inl rfl)
      · next hfresh => exact hstored blob (by simpa using hfresh)
  | refused f leftover =>
      cases leftover with
      | none => exact hraised f _ (.inl (by simp))
      | some uri => exact hraised f _ (.inr ⟨.inr ⟨f, uri, hput⟩, uri, rfl⟩)

/-- The last `try` block and its handler. -/
lemma storeEvidence_spec {t : Table IngestionRunRecord} {w₁ : World} {envelope : ProviderEnvelope}
    {raw : List UInt8} (h : Started env (env.key platform request) w run w₁)
    (ht : t.rows = w.store.runs.rows ++ [run]) :
    Program.wp (storeEvidence platform env run request envelope raw) (Outcome platform env request w)
      (w.asked t (env.key platform request)) := by
  unfold storeEvidence
  rw [Program.wp_bind, Program.wp_attempt]
  refine putBlob_spec ?_ ?_
  · intro blob hfresh
    have hsome : ∀ uri ∈ some blob.uri, w.blobs ++ [⟨blob.uri, run.id⟩] = w.blobs ++ [⟨uri, run.id⟩] ∧
        ∀ b ∈ w.blobs, b.uri ≠ uri := by
      intro uri huri
      cases huri
      exact ⟨rfl, hfresh⟩
    have hundo : Program.wp (compensate env run (some blob.uri)) (Outcome platform env request w)
        { w.asked t (env.key platform request) with blobs := w.blobs ++ [⟨blob.uri, run.id⟩] } :=
      compensate_spec h ht (by simp) hsome
    simp only [Program.after]
    split
    · exact hundo
    · rw [Program.wp_bind, Program.wp_attempt, wp_onStore]
      dsimp only
      cases hattempt : ingestionAttempt env run.id request envelope blob
          (w.asked t (env.key platform request)).store with
      | error e =>
          rw [commit_of_error hattempt]
          exact hundo
      | ok written =>
          obtain ⟨completed, s'⟩ := written
          obtain ⟨t', logs, payload, payloads, records, ht', hid, hkey, hcount, hinsert, howner, huri,
            rfl⟩ := ingestionAttempt_spec ht hattempt
          rw [commit_of_ok hattempt]
          refine .opened completed _ _ ⟨hid.trans h.named.1, hkey.trans h.named.2⟩ ht' ?_
          rw [← huri, ← hid]
          exact .stored t' logs payloads records request.category payload _ hinsert
            (howner.trans hid.symm) fun _ => hcount
  · intro f blobs hkept
    exact compensate_spec h ht (fun _ => hkept) (by simp)

/-! ### The whole request -/

lemma executeRun_spec {w₁ : World} {provider : DataProviderRecord} {descriptor : ProviderDescriptor}
    (h : Started env (env.key platform request) w run w₁) :
    Program.wp (executeRun platform env run request provider descriptor)
      (Outcome platform env request w) w₁ := by
  unfold executeRun
  cases env.mapping with
  | error e => exact finishRun_idle h ⟨rfl, rfl⟩ (by simp [IngestionRunRecord.failed])
  | ok found =>
      cases found with
      | false => exact finishRun_idle h ⟨rfl, rfl⟩ (by simp [IngestionRunRecord.blocked])
      | true =>
          cases refusal env provider descriptor request.category with
          | some reason => exact finishRun_idle h ⟨rfl, rfl⟩ (by simp [IngestionRunRecord.blocked])
          | none =>
              obtain ⟨t, hw₁, ht⟩ := h.world
              change Program.wp (fetchAndStore platform env run request provider) _ _
              unfold fetchAndStore
              rw [Program.wp_bind, Program.wp_update]
              have hworld : { w₁ with history := { w₁.history with
                  fetched := w₁.history.fetched ++ [run.idempotencyKey] } } =
                  w.asked t (env.key platform request) := by
                rw [hw₁, h.named.2]
                rfl
              rw [hworld]
              simp only [Program.after]
              cases fetchEnvelope env request provider with
              | error e => exact finishFetchFailure_spec h ht
              | ok answer => exact storeEvidence_spec h ht

lemma getOrCreateIngestionRun_spec {s s' : Store} {run row : IngestionRunRecord} {created : Bool}
    (h : getOrCreateIngestionRun env run s = .ok ((row, created), s')) :
    created = false ∧ s' = s ∨
      created = true ∧ row = run ∧
        ∃ t : Table IngestionRunRecord, t.rows = s.runs.rows ++ [run] ∧ s' = { s with runs := t } := by
  unfold getOrCreateIngestionRun at h
  obtain ⟨-, -, h⟩ := lift_bind_ok.mp h
  rw [query_bind] at h
  cases hrow : s.runOfKey run.idempotencyKey with
  | some existing =>
      rw [hrow] at h
      cases h
      exact .inl ⟨rfl, rfl⟩
  | none =>
      rw [hrow] at h
      obtain ⟨-, -, h⟩ := lift_bind_ok.mp h
      obtain ⟨t, hinsert, h⟩ := write_map_bind_ok.mp h
      cases h
      exact .inr ⟨rfl, rfl, t, Table.rows_insert hinsert, rfl⟩

/-- A run that could not be started stays in the queue. -/
lemma openRun_spec {provider : DataProviderRecord} {existing : Option Markers}
    {next : IngestionRunRecord → Program Failure World IngestionResult}
    (hnext : ∀ run w₁, Started env (env.key platform request) w run w₁ →
      Program.wp (next run) (Outcome platform env request w) w₁) :
    Program.wp (openRun env (newRun env request provider (env.key platform request)) existing next)
      (Outcome platform env request w) w := by
  unfold openRun
  rw [Program.wp_bind, Program.wp_attempt, wp_onStore]
  cases hopen : getOrCreateIngestionRun env (newRun env request provider (env.key platform request))
      w.store with
  | error e =>
      rw [commit_of_error hopen]
      exact .unchanged _
  | ok written =>
      obtain ⟨⟨row, created⟩, s'⟩ := written
      rw [commit_of_ok hopen]
      rcases getOrCreateIngestionRun_spec hopen with ⟨rfl, rfl⟩ | ⟨rfl, rfl, t, ht, rfl⟩
      · exact .unchanged _
      · simp only [Program.after]
        rw [Program.wp_bind, Program.wp_attempt]
        refine updateRun_spec (w := w.withRuns t) ht ⟨rfl, rfl⟩ ?_ ?_
        · intro _ e
          exact .opened _ _ _ ⟨rfl, rfl⟩ ht (.idle t _ (by simp [newRun]))
        · intro t' ht'
          rw [withRuns_withRuns]
          refine ⟨fun e => ?_, ?_⟩
          · exact .opened _ _ _ ⟨rfl, rfl⟩ ht' (.idle t' _ (by simp [IngestionRunRecord.started]))
          · have hmem : (newRun env request provider (env.key platform request)).started env.startedAt ∈
                t'.rows := by simp [ht']
            exact hnext _ _ ⟨⟨t', rfl, ht'⟩, ⟨rfl, rfl⟩, rfl, rfl,
              (t'.checked _ hmem).1 env.startedAt rfl, rfl⟩

/-- **What a request does.** -/
theorem ingest_outcome (platform : Platform) (env : Surroundings) (request : IngestionRequest)
    (w : World) : Program.wp (ingest platform env request) (Outcome platform env request w) w := by
  unfold ingest
  cases env.provider with
  | error e => exact .unchanged _
  | ok found =>
      cases found with
      | none => exact .unchanged _
      | some provider =>
          cases hdescriptor : env.descriptor with
          | none =>
              refine openRun_spec fun run w₁ hrun => ?_
              exact finishRun_idle hrun ⟨rfl, rfl⟩ (by simp [IngestionRunRecord.blocked])
          | some descriptor =>
              simp only
              rw [Program.wp_bind, Program.wp_attempt, wp_onStore]
              cases hfind : (do
                  lift (env.perform .findRun)
                  query (·.runOfKey (env.key platform request)) :
                    Transaction Failure Store (Option IngestionRunRecord)) w.store with
              | error e =>
                  rw [commit_of_error hfind]
                  exact .unchanged _
              | ok written =>
                  rw [commit_of_ok hfind]
                  obtain ⟨-, -, hfind⟩ := lift_bind_ok.mp hfind
                  cases hfind
                  simp only [Program.after]
                  cases w.store.runOfKey (env.key platform request) with
                  | some existing => exact .unchanged _
                  | none => exact openRun_spec fun run w₁ hrun => executeRun_spec hrun

/-! ## Runs of requests -/

structure Call where
  env : Surroundings
  request : IngestionRequest

/-- A request as a step of the world. -/
def step (platform : Platform) (w : World) (call : Call) : Except Failure IngestionResult × World :=
  ingest platform call.env call.request w

/-- Nothing has been ingested. -/
def World.initial : World := ⟨⟨∅, [], ∅, []⟩, [], ⟨[], []⟩⟩

/-- What holds of the world between two requests. -/
structure Sound (w : World) : Prop where
  fetched_nodup : w.history.fetched.Nodup
  fetched_run : ∀ key ∈ w.history.fetched, ∃ run ∈ w.store.runs.rows, run.idempotencyKey = key
  unstored_run : ∀ id ∈ w.history.unstored, ∃ run ∈ w.store.runs.rows, run.id = id
  payload_run : ∀ p ∈ w.store.rawPayloads.rows, ∃ run ∈ w.store.runs.rows, run.id = p.ingestionRunId
  evidence_payload : ∀ r ∈ w.store.evidence, ∃ p ∈ w.store.rawPayloads.rows, p.id = r.sourcePayloadId
  blob_run : ∀ b ∈ w.blobs, ∃ run ∈ w.store.runs.rows, run.id = b.runId
  unstored_clean : ∀ id ∈ w.history.unstored, w.store.payloadsOf id = []
  stored_count : ∀ run ∈ w.store.runs.rows, run.status = .pass ∨ run.status = .partly →
    run.recordsStored = (w.store.evidenceOf run.id).length

/-- A run without payloads has no evidence. -/
lemma evidenceOf_eq_nil {s : Store} {runId : Uuid} (h : s.payloadsOf runId = []) :
    s.evidenceOf runId = [] := by
  simp [Store.evidenceOf, h]

/-- The row that was added shares neither its identifier nor its key with another. -/
lemma fresh_of_rows {t t' : Table IngestionRunRecord} (h : t'.rows = t.rows ++ [run]) :
    ∀ r ∈ t.rows, r.id ≠ run.id ∧ r.idempotencyKey ≠ run.idempotencyKey := by
  intro r hr
  have hclash := (List.pairwise_append.mp (h ▸ t'.keyed)).2.2 r hr run (by simp)
  exact ⟨fun hid => hclash (.inl hid), fun hkey => hclash (.inr hkey)⟩

lemma Sound.payloadsOf_fresh (h : Sound w) {runId : Uuid}
    (hfresh : ∀ r ∈ w.store.runs.rows, r.id ≠ runId) : w.store.payloadsOf runId = [] := by
  unfold Store.payloadsOf Table.select
  rw [List.filter_eq_nil_iff]
  intro p hp
  obtain ⟨r, hr, hid⟩ := h.payload_run p hp
  simpa using hid ▸ hfresh r hr

section Stored

variable {payload : RawPayload} {payloads : Table RawPayload} {t : Table IngestionRunRecord}
  {logs : List RequestLog} {category : DataCategory} {records : List ProviderRecord}

/-- Storing the evidence of one run leaves that of another alone. -/
lemma evidenceOf_holding_of_ne {s : Store} {runId : Uuid}
    (inserted : s.rawPayloads.insert payload = some payloads)
    (hne : payload.ingestionRunId ≠ runId) :
    (s.holding t logs payloads category payload records).payloadsOf runId = s.payloadsOf runId ∧
      (s.holding t logs payloads category payload records).evidenceOf runId = s.evidenceOf runId := by
  have hpayloads : payloads.select (fun p => decide (p.ingestionRunId = runId)) =
      s.payloadsOf runId := by
    rw [Table.select_insert inserted]
    simp [hne, Store.payloadsOf]
  have hsame : (s.holding t logs payloads category payload records).payloadsOf runId =
      s.payloadsOf runId := hpayloads
  refine ⟨hsame, ?_⟩
  -- no payload of that run has the new identifier
  have hnone : (s.payloadsOf runId).any (fun p => decide (p.id = payload.id)) = false := by
    rw [List.any_eq_false]
    intro p hp
    have hmem := (Table.mem_select.mp hp).1
    have hne : p.id ≠ payload.id := Table.not_clash_of_insert inserted p hmem
    simpa using hne
  unfold Store.evidenceOf
  rw [hsame]
  simp only [Store.holding, List.filter_append, List.filter_map, Function.comp_def, hnone]
  simp

/-- The evidence of a run whose payload has just been stored. -/
lemma evidenceOf_holding {s : Store}
    (hevidence : ∀ r ∈ s.evidence, ∃ p ∈ s.rawPayloads.rows, p.id = r.sourcePayloadId)
    (inserted : s.rawPayloads.insert payload = some payloads)
    (hempty : s.payloadsOf payload.ingestionRunId = []) :
    (s.holding t logs payloads category payload records).evidenceOf payload.ingestionRunId =
      records.map fun record => ⟨category, payload.id, record⟩ := by
  have hpayloads : payloads.select (fun p => decide (p.ingestionRunId = payload.ingestionRunId)) =
      [payload] := by
    rw [Table.select_insert inserted]
    have hempty' : s.rawPayloads.select
        (fun p => decide (p.ingestionRunId = payload.ingestionRunId)) = [] := hempty
    simp [hempty']
  have hsame : (s.holding t logs payloads category payload records).payloadsOf
      payload.ingestionRunId = [payload] := hpayloads
  unfold Store.evidenceOf
  rw [hsame]
  have hold : s.evidence.filter (fun r => decide (payload.id = r.sourcePayloadId)) = [] := by
    rw [List.filter_eq_nil_iff]
    intro r hr
    obtain ⟨p, hp, hid⟩ := hevidence r hr
    simpa [← hid] using fun heq : payload.id = p.id =>
      Table.not_clash_of_insert inserted p hp heq.symm
  simp [Store.holding, List.filter_append, List.filter_map, Function.comp_def, hold]

end Stored

/-- Rows that a longer table holds as well. -/
lemma exists_mem_append {α : Type} {P : α → Prop} {l l' : List α} (h : ∃ a ∈ l, P a) :
    ∃ a ∈ l ++ l', P a := by
  obtain ⟨a, ha, hP⟩ := h
  exact ⟨a, List.mem_append_left _ ha, hP⟩

/-- A new key extends the list of those asked for without repeating one. -/
lemma Sound.fetched_concat (h : Sound w) {key : String}
    (hfresh : ∀ r ∈ w.store.runs.rows, r.idempotencyKey ≠ key) :
    (w.history.fetched ++ [key]).Nodup := by
  refine List.Nodup.append h.fetched_nodup (List.nodup_singleton key) ?_
  intro k hk hkey
  obtain ⟨r, hr, hrk⟩ := h.fetched_run k hk
  exact hfresh r hr (hrk.trans (List.mem_singleton.mp hkey))

/-- Every key that was asked for belongs to a run, the new one included. -/
lemma Sound.fetched_run_concat (h : Sound w) {key : String} (hkey : run.idempotencyKey = key) :
    ∀ k ∈ w.history.fetched ++ [key],
      ∃ r ∈ w.store.runs.rows ++ [run], r.idempotencyKey = k := by
  intro k hk
  rcases List.mem_append.mp hk with hk | hk
  · exact exists_mem_append (h.fetched_run k hk)
  · exact ⟨run, by simp, by rw [hkey, List.mem_singleton.mp hk]⟩

/-- A run without evidence may be added to the others. -/
lemma Sound.stored_count_concat (h : Sound w) (hempty : run.status ≠ .pass ∧ run.status ≠ .partly) :
    ∀ r ∈ w.store.runs.rows ++ [run], r.status = .pass ∨ r.status = .partly →
      r.recordsStored = (w.store.evidenceOf r.id).length := by
  intro r hr hstatus
  rcases List.mem_append.mp hr with hr | hr
  · exact h.stored_count r hr hstatus
  · rw [List.mem_singleton.mp hr] at hstatus
    exact absurd hstatus (not_or.mpr hempty)

/-- **A request keeps the invariant.** -/
lemma Sound.outcome {r : Except Failure IngestionResult} (h : Sound w)
    (ho : Outcome platform env request w r w') : Sound w' := by
  cases ho with
  | unchanged => exact h
  | opened run r w' named rows effect =>
      have hfresh := fresh_of_rows rows
      have hkey : ∀ r ∈ w.store.runs.rows, r.idempotencyKey ≠ env.key platform request :=
        fun r hr => named.2 ▸ (hfresh r hr).2
      cases effect with
      | idle t r empty =>
          have hrows : t.rows = w.store.runs.rows ++ [run] := rows
          exact {
            fetched_nodup := h.fetched_nodup
            fetched_run := fun k hk => hrows ▸ exists_mem_append (h.fetched_run k hk)
            unstored_run := fun id hid => hrows ▸ exists_mem_append (h.unstored_run id hid)
            payload_run := fun p hp => hrows ▸ exists_mem_append (h.payload_run p hp)
            evidence_payload := h.evidence_payload
            blob_run := fun b hb => hrows ▸ exists_mem_append (h.blob_run b hb)
            unstored_clean := h.unstored_clean
            stored_count := hrows ▸ h.stored_count_concat empty }
      | unanswered t logs r empty =>
          have hrows : t.rows = w.store.runs.rows ++ [run] := rows
          exact {
            fetched_nodup := h.fetched_concat hkey
            fetched_run := hrows ▸ h.fetched_run_concat named.2
            unstored_run := fun id hid => hrows ▸ exists_mem_append (h.unstored_run id hid)
            payload_run := fun p hp => hrows ▸ exists_mem_append (h.payload_run p hp)
            evidence_payload := h.evidence_payload
            blob_run := fun b hb => hrows ▸ exists_mem_append (h.blob_run b hb)
            unstored_clean := h.unstored_clean
            stored_count := hrows ▸ h.stored_count_concat empty }
      | unstored t blobs r kept status reported =>
          have hrows : t.rows = w.store.runs.rows ++ [run] := rows
          have empty : run.status ≠ .pass ∧ run.status ≠ .partly := by
            rcases status with ⟨hs, -⟩ | ⟨hs, -⟩ <;> simp [hs]
          exact {
            fetched_nodup := h.fetched_concat hkey
            fetched_run := hrows ▸ h.fetched_run_concat named.2
            unstored_run := by
              intro id hid
              rcases List.mem_append.mp hid with hid | hid
              · exact hrows ▸ exists_mem_append (h.unstored_run id hid)
              · exact ⟨run, by simp [hrows], (List.mem_singleton.mp hid).symm⟩
            payload_run := fun p hp => hrows ▸ exists_mem_append (h.payload_run p hp)
            evidence_payload := h.evidence_payload
            blob_run := by
              intro b hb
              rcases kept with rfl | ⟨-, uri, rfl⟩
              · exact hrows ▸ exists_mem_append (h.blob_run b hb)
              · rcases List.mem_append.mp hb with hb | hb
                · exact hrows ▸ exists_mem_append (h.blob_run b hb)
                · exact ⟨run, by simp [hrows], by rw [List.mem_singleton.mp hb]⟩
            unstored_clean := by
              intro id hid
              rcases List.mem_append.mp hid with hid | hid
              · exact h.unstored_clean id hid
              · rw [List.mem_singleton.mp hid]
                exact h.payloadsOf_fresh fun r hr => (hfresh r hr).1
            stored_count := hrows ▸ h.stored_count_concat empty }
      | stored t logs payloads records category payload r inserted owner count =>
          have hrows : t.rows = w.store.runs.rows ++ [run] := rows
          have hother : ∀ id, (∃ r ∈ w.store.runs.rows, r.id = id) → payload.ingestionRunId ≠ id := by
            rintro id ⟨r, hr, rfl⟩ heq
            exact (hfresh r hr).1 (heq.symm.trans owner)
          exact {
            fetched_nodup := h.fetched_concat hkey
            fetched_run := hrows ▸ h.fetched_run_concat named.2
            unstored_run := fun id hid => hrows ▸ exists_mem_append (h.unstored_run id hid)
            payload_run := by
              intro p hp
              rcases (Table.mem_insert inserted).mp hp with hp | rfl
              · exact hrows ▸ exists_mem_append (h.payload_run p hp)
              · exact ⟨run, by simp [Store.holding, hrows], owner.symm⟩
            evidence_payload := by
              intro row hrow
              rcases List.mem_append.mp hrow with hrow | hrow
              · obtain ⟨p, hp, hid⟩ := h.evidence_payload row hrow
                exact ⟨p, (Table.mem_insert inserted).mpr (.inl hp), hid⟩
              · obtain ⟨record, -, rfl⟩ := List.mem_map.mp hrow
                exact ⟨payload, (Table.mem_insert inserted).mpr (.inr rfl), rfl⟩
            blob_run := by
              intro b hb
              rcases List.mem_append.mp hb with hb | hb
              · exact hrows ▸ exists_mem_append (h.blob_run b hb)
              · exact ⟨run, by simp [Store.holding, hrows], by rw [List.mem_singleton.mp hb]⟩
            unstored_clean := by
              intro id hid
              exact (evidenceOf_holding_of_ne inserted (hother id (h.unstored_run id hid))).1.trans
                (h.unstored_clean id hid)
            stored_count := by
              intro r hr hstatus
              have hr : r ∈ w.store.runs.rows ++ [run] := hrows ▸ hr
              rcases List.mem_append.mp hr with hr | hr
              · rw [(evidenceOf_holding_of_ne inserted (hother r.id ⟨r, hr, rfl⟩)).2]
                exact h.stored_count r hr hstatus
              · obtain rfl := List.mem_singleton.mp hr
                rw [count hstatus, ← owner, evidenceOf_holding h.evidence_payload inserted
                  (owner ▸ h.payloadsOf_fresh fun r' hr' => (hfresh r' hr').1), List.length_map] }

/-- What a request may do, between the worlds before and after it. -/
structure Conducted (platform : Platform) (call : Call) (before : World)
    (outcome : Except Failure IngestionResult) (after : World) : Prop where
  /-- No key is asked for twice. -/
  fetched_once : after.history.fetched.Nodup
  /-- A run that succeeded has stored as many rows as it says. -/
  stored_count : ∀ run ∈ after.store.runs.rows, run.status = .pass ∨ run.status = .partly →
    run.recordsStored = (after.store.evidenceOf run.id).length
  /-- A run whose evidence could not be stored has no rows. -/
  unstored_clean : ∀ id ∈ after.history.unstored,
    after.store.evidenceOf id = [] ∧ after.store.payloadsOf id = []
  /-- Such a run is marked as failed, if it can be, and the answer says so. -/
  unstored_marked : ∀ id ∈ after.history.unstored, id ∉ before.history.unstored →
    (∃ run ∈ after.store.runs.rows, run.id = id ∧
      (run.status = .fail ∧ run.errorCode = some .persistenceFailed ∨
        run.status = .running ∧ (call.env.unmarkable ∨ call.env.interrupted))) ∧
    (reportsFailure outcome ∨ call.env.interrupted)
  /-- Its blob is deleted, unless the blob store fails. -/
  unstored_deleted : ∀ id ∈ after.history.unstored, id ∉ before.history.unstored →
    ¬ call.env.leaves → ∀ b ∈ after.blobs, b.runId ≠ id
  /-- A key that has a run is not executed again. -/
  replayed : (∃ run ∈ before.store.runs.rows,
    run.idempotencyKey = call.env.key platform call.request) → after = before
  /-- A run that was there stays as it was, with its evidence. -/
  frozen : ∀ run ∈ before.store.runs.rows, run ∈ after.store.runs.rows ∧
    after.store.evidenceOf run.id = before.store.evidenceOf run.id

/-- What is known of a run whose evidence has just failed to be stored. -/
lemma Effect.of_unstored {key : String} {r : Except Failure IngestionResult} {id : Uuid}
    (h : Effect env key w run r w') (hid : id ∈ w'.history.unstored)
    (hnew : id ∉ w.history.unstored) :
    id = run.id ∧
      (w'.blobs = w.blobs ∨ env.leaves ∧ ∃ uri, w'.blobs = w.blobs ++ [⟨uri, run.id⟩]) ∧
      (run.status = .running ∧ (env.unmarkable ∨ env.interrupted) ∨
        run.status = .fail ∧ run.errorCode = some .persistenceFailed) ∧
      (reportsFailure r ∨ env.interrupted) := by
  cases h with
  | idle => exact absurd hid hnew
  | unanswered => exact absurd hid hnew
  | stored => exact absurd hid hnew
  | unstored t blobs r kept status reported =>
      rcases List.mem_append.mp hid with hid | hid
      · exact absurd hid hnew
      · exact ⟨List.mem_singleton.mp hid, kept, status, reported⟩

/-- The evidence of a run that was there is left alone. -/
lemma Effect.evidenceOf_eq {key : String} {r : Except Failure IngestionResult}
    (h : Effect env key w run r w') {id : Uuid} (hne : run.id ≠ id) :
    w'.store.evidenceOf id = w.store.evidenceOf id := by
  cases h with
  | idle => rfl
  | unanswered => rfl
  | unstored => rfl
  | stored t logs payloads records category payload r inserted owner count =>
      exact (evidenceOf_holding_of_ne inserted (owner ▸ hne)).2

lemma Sound.conducted {call : Call} {r : Except Failure IngestionResult} (h : Sound w)
    (ho : Outcome platform call.env call.request w r w') : Conducted platform call w r w' := by
  have hafter := h.outcome ho
  have hclean : ∀ id ∈ w'.history.unstored,
      w'.store.evidenceOf id = [] ∧ w'.store.payloadsOf id = [] := fun id hid =>
    ⟨evidenceOf_eq_nil (hafter.unstored_clean id hid), hafter.unstored_clean id hid⟩
  cases ho with
  | unchanged =>
      exact ⟨hafter.fetched_nodup, hafter.stored_count, hclean, fun id hid hnew => absurd hid hnew,
        fun id hid hnew => absurd hid hnew, fun _ => rfl, fun run hrun => ⟨hrun, rfl⟩⟩
  | opened run r w' named rows effect =>
      have hfresh := fresh_of_rows rows
      refine ⟨hafter.fetched_nodup, hafter.stored_count, hclean, ?_, ?_, ?_, ?_⟩
      · intro id hid hnew
        obtain ⟨rfl, -, hstatus, hreported⟩ := effect.of_unstored hid hnew
        exact ⟨⟨run, by simp [rows], rfl, hstatus.symm⟩, hreported⟩
      · intro id hid hnew hleaves b hb heq
        obtain ⟨rfl, hblobs | ⟨hl, -⟩, -⟩ := effect.of_unstored hid hnew
        · obtain ⟨owner, howner, hid⟩ := h.blob_run b (hblobs ▸ hb)
          exact (hfresh owner howner).1 (hid.trans heq)
        · exact hleaves hl
      · rintro ⟨old, hold, hkey⟩
        exact absurd (hkey.trans named.2.symm) (hfresh old hold).2
      · intro old hold
        exact ⟨by simp [rows, hold], effect.evidenceOf_eq (hfresh old hold).1.symm⟩

lemma sound_initial : Sound World.initial where
  fetched_nodup := List.nodup_nil
  fetched_run := by simp [World.initial]
  unstored_run := by simp [World.initial]
  payload_run := by rintro p ⟨⟩
  evidence_payload := by simp [World.initial]
  blob_run := by simp [World.initial]
  unstored_clean := by simp [World.initial]
  stored_count := by rintro r ⟨⟩

/-- **Ingestion over any sequence of requests.**  Whatever the provider, the blob store and the
repository do, every request of a run from the empty store is conducted as described. -/
theorem ingestions_conducted (platform : Platform) (calls : List Call) :
    ∀ e ∈ trace (step platform) World.initial calls,
      Conducted platform e.call e.before e.outcome e.after := by
  have hsound : ∀ e ∈ trace (step platform) World.initial calls, Sound e.before ∧ Sound e.after :=
    trace_invariant (C := fun _ _ => True)
      (fun w call hw _ => hw.outcome (ingest_outcome platform call.env call.request w))
      sound_initial (fun _ _ => trivial)
  intro e he
  have hstep : (ingest platform e.call.env e.call.request e.before) = (e.outcome, e.after) :=
    step_of_mem_trace he
  have houtcome := ingest_outcome platform e.call.env e.call.request e.before
  unfold Program.wp at houtcome
  rw [hstep] at houtcome
  exact (hsound e he).1.conducted houtcome

/-! ### A failure that is not undone -/

/-- Eight o'clock on a day of July. -/
def julyMorning (day : Nat) (h : 1 ≤ day ∧ day ≤ 31) : Instant :=
  ⟨⟨2026, 7, day, validYear_2026, validMonth_7, h⟩, 8, 0, 0, 0, validHour_8, validMinute_0,
    validMinute_0, validMicrosecond_0⟩

def pricesRequest : IngestionRequest where
  requestId := 1
  securityId := 2
  providerCode := "TEST_FIXTURE"
  category := .dailyPrices
  researchAsOfTime := julyMorning 15 (by decide)
  dateFrom := none
  dateTo := none
  parameters := []
  parserVersion := "1.0.0"
  schemaVersion := "1.0.0"

/-- The provider answers with one price. -/
def priceEnvelope : ProviderEnvelope where
  providerCode := "TEST_FIXTURE"
  providerVersion := "1.2.3"
  category := .dailyPrices
  records := [⟨"daily_price", ["trading_date", "close", "currency_code"], true⟩]
  rawPayload := .bytes [123, 125]
  warnings := []
  quality := .pass
  qualityWarnings := []
  markers := fixtureMarkers

/-- A registered and approved provider, with a repository and a blob store that fail as told. -/
def pricesSurroundings (fault : Operation → Option Failure) : Surroundings where
  provider := .ok (some ⟨3, "TEST_FIXTURE", .fixture, .approved, [.dailyPrices]⟩)
  descriptor := some ⟨"1.2.3", .approved, [.dailyPrices], true, false, false⟩
  adapter := ⟨"TEST_FIXTURE", "1.2.3", [.dailyPrices]⟩
  mapping := .ok true
  fetch := .ok priceEnvelope
  put := .stored ⟨"blob://memory/1", "digest", 2⟩
  fault := fault
  requestedAt := julyMorning 15 (by decide)
  startedAt := julyMorning 16 (by decide)
  completedAt := julyMorning 17 (by decide)
  blockedAt := julyMorning 17 (by decide)
  failedAt := julyMorning 17 (by decide)
  runId := 10
  requestLogId := 11
  payloadId := 12

def digestPlatform : Platform := ⟨fun _ => "digest", fun _ => "digest"⟩

/-- What can be seen of a request: its answer, the statuses of the runs and the blobs. -/
def observed (fault : Operation → Option Failure) :
    Option IngestionResult × List IngestionStatus × List Blob :=
  let r := step digestPlatform World.initial ⟨pricesSurroundings fault, pricesRequest⟩
  (r.1.toOption, r.2.store.runs.rows.map (·.status), r.2.blobs)

/-- The price cannot be stored. -/
def storingFails : Operation → Option Failure
  | .addEvidence 0 => some .other
  | _ => none

/-- Nor can the blob be deleted. -/
def cleanupFails : Operation → Option Failure
  | .deleteBlob => some .blobStorageError
  | op => storingFails op

/-- Nor can the run be marked. -/
def markingFails : Operation → Option Failure
  | .failRun => some .other
  | op => storingFails op

/-- A request whose price cannot be stored is conducted as described, and is undone. -/
theorem unstored_ingestion_conducted :
    ∃ e ∈ trace (step digestPlatform) World.initial
        [⟨pricesSurroundings storingFails, pricesRequest⟩],
      Conducted digestPlatform e.call e.before e.outcome e.after ∧
        e.after.history.unstored = [10] ∧ e.after.blobs = [] :=
  ⟨_, List.mem_cons_self .., ingestions_conducted digestPlatform
    [⟨pricesSurroundings storingFails, pricesRequest⟩] _ (List.mem_cons_self ..),
    by decide +kernel, by decide +kernel⟩

/-- A blob that cannot be deleted stays, with the same answer as for one that was deleted, and a run
that cannot be marked stays open. -/
theorem ingestion_not_compensated :
    (observed cleanupFails).2.2 = [⟨"blob://memory/1", 10⟩] ∧ (observed storingFails).2.2 = [] ∧
      (observed cleanupFails).1 = (observed storingFails).1 ∧
      (observed storingFails).2.1 = [.fail] ∧ (observed markingFails).2.1 = [.running] := by
  decide +kernel

end StockResearch.Ingestion
