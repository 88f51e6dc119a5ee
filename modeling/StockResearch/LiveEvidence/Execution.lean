import StockResearch.LiveEvidence.Reservation

/-!
# Executions by many callers

Any number of callers, each with its own port, start executions and reserve attempts on one grant,
one approval and one sync run.  Every call is one transaction: it is committed as a whole or rolled
back.  The callers are an arbitrary type `ι`, so a run of calls is an arbitrary interleaving.

Limits are counted in two tables under different keys, consumptions by grant and attempts by run,
so the invariant speaks about both at once.

* `Ledger` — the attempts of the run are numbered `1, …, n` with `n ≤ 4`, at most one of them
  repeats a slice, each has a consumption of the grant, and the consumptions fit the request limit.
* `EventLog` — the grant's events are contiguous, replayable, and extend the ones the run started
  with by at most one `CONSUME`.

`reserveAttempt_ledger` and `startExecution_eventLog` are the two steps; `executionLaw` is the law
over all runs.
-/

namespace StockResearch.LiveEvidence

open Txn

/-! ## Callers and calls -/

/-- The database and the port of every caller. -/
structure System (ι : Type) where
  db : Db
  ports : ι → Port

inductive Call (ι : Type) where
  | start (caller : ι) (request : SecAttemptReservationRequest) (draws : Draws)
  | reserve (caller : ι) (request : SecAttemptReservationRequest) (draws : Draws)

inductive Answer where
  | started (result : SecExecutionStartResult)
  | permitted (permit : SecAttemptPermit)

variable {ι : Type} [DecidableEq ι]

/-- The ports after a caller's start was accepted: its validation has become an execution. -/
def System.authorize (s : System ι) (caller : ι) : ι → Port :=
  Function.update s.ports caller
    { s.ports caller with execution := .authorized (s.ports caller).execution.execution }

/-- A call as a transaction on the whole system. -/
def Call.run : Call ι → Transaction Raised (System ι) Answer
  | .start caller request draws => fun s =>
      ((s.ports caller).startExecution request draws s.db).map fun r =>
        (.started r.1, { db := r.2, ports := s.authorize caller })
  | .reserve caller request draws => fun s =>
      ((s.ports caller).reserve request draws s.db).map fun r =>
        (.permitted r.1, { s with db := r.2 })

/-- One call, committed or rolled back. -/
def System.step (s : System ι) (call : Call ι) : Except Raised Answer × System ι :=
  commit call.run s

lemma call_start_ok {caller : ι} {request : SecAttemptReservationRequest} {draws : Draws}
    {s : System ι} {r : Answer × System ι} (h : (Call.start caller request draws).run s = .ok r) :
    ∃ result, (s.ports caller).startExecution request draws s.db = .ok (result, r.2.db) ∧
      r.2.ports = s.authorize caller := by
  simp only [Call.run] at h
  cases hstart : (s.ports caller).startExecution request draws s.db with
  | error e => simp [hstart, Except.map] at h
  | ok p =>
      rw [hstart] at h
      cases h
      exact ⟨p.1, rfl, rfl⟩

lemma call_reserve_ok {caller : ι} {request : SecAttemptReservationRequest} {draws : Draws}
    {s : System ι} {r : Answer × System ι}
    (h : (Call.reserve caller request draws).run s = .ok r) :
    ∃ permit, (s.ports caller).reserve request draws s.db = .ok (permit, r.2.db) ∧
      r.2.ports = s.ports := by
  simp only [Call.run] at h
  cases hreserve : (s.ports caller).reserve request draws s.db with
  | error e => simp [hreserve, Except.map] at h
  | ok p =>
      rw [hreserve] at h
      cases h
      exact ⟨p.1, rfl, rfl⟩

/-- Every caller works on one grant, one approval and one sync run. -/
def Bound (a p r : Uuid) (s : System ι) : Prop :=
  ∀ i, (s.ports i).execution.execution.authorizationId = a ∧
    (s.ports i).execution.execution.approvalId = p ∧ (s.ports i).syncRunId = r

lemma authorize_execution (s : System ι) (caller i : ι) :
    (s.authorize caller i).execution.execution = (s.ports i).execution.execution ∧
      (s.authorize caller i).syncRunId = (s.ports i).syncRunId := by
  unfold System.authorize
  by_cases h : i = caller
  · subst h; simp [PortExecution.execution]
  · simp [h]

lemma Bound.step {a p r : Uuid} {s : System ι} (h : Bound a p r s) (call : Call ι) :
    Bound a p r (s.step call).2 := by
  refine commit_cases (P := Bound a p r) h ?_
  intro answer s' hrun i
  cases call with
  | start caller request draws =>
      obtain ⟨-, -, hports⟩ := call_start_ok hrun
      have hport := authorize_execution s caller i
      rw [show s'.ports = _ from hports, hport.1, hport.2]
      exact h i
  | reserve caller request draws =>
      obtain ⟨-, -, hports⟩ := call_reserve_ok hrun
      rw [show s'.ports = _ from hports]
      exact h i

/-! ## The ledger of one grant and one run -/

/-- What the two tables say together about the run `r` under the grant `a`. -/
structure Ledger (a r : Uuid) (db : Db) : Prop where
  numbers : (attemptsOf r db).map AttemptRow.attemptNumber =
    List.range' 1 (attemptsOf r db).length
  room : (attemptsOf r db).length ≤ 4
  slices : (attemptsOf r db).length ≤
    ((attemptsOf r db).map AttemptRow.sliceId).dedup.length + 1
  consumed : ∀ x ∈ attemptsOf r db, ∃ row ∈ consumptionsOf a db, row.requestAttemptId = x.id
  requests : ∀ grant, grantOf a db = some grant →
    (consumptionsOf a db).length ≤ grant.requestLimit

lemma Ledger.number_le {a r : Uuid} {db : Db} (h : Ledger a r db) {x : AttemptRow}
    (hx : x ∈ attemptsOf r db) : x.attemptNumber ≤ (attemptsOf r db).length := by
  have hmem : x.attemptNumber ∈ List.range' 1 (attemptsOf r db).length :=
    h.numbers ▸ List.mem_map_of_mem hx
  rw [List.mem_range'_1] at hmem
  omega

/-- A reservation on the grant keeps every consumption, has one for its attempt, and keeps the
request limit. -/
lemma reserveConsumption_ledger {a r : Uuid} {request : ConsumptionReservationRequest}
    {newId : Uuid} {db db₁ : Db} {reservation : ConsumptionReservation}
    (ha : request.authorizationId = a) (hledger : Ledger a r db)
    (h : reserveConsumption request newId db = .ok (reservation, db₁)) :
    Ledger a r db₁ ∧ (∃ t, db₁ = { db with consumptions := t }) ∧
      ∃ row ∈ consumptionsOf a db₁, row.requestAttemptId = request.requestAttemptId := by
  subst ha
  obtain ⟨grant, hgrant, hcase⟩ := reserveConsumption_ok h
  rcases hcase with ⟨row, hrow, -, -, -, hdb⟩ | ⟨row, t, -, hbudget, hrow, ht, hdb⟩
  · obtain ⟨hmem, hauth, hattempt⟩ := mem_of_consumptionOf hrow
    have hdb : db₁ = db := hdb
    subst hdb
    refine ⟨hledger, ⟨_, rfl⟩, row, ?_, hattempt⟩
    rw [consumptionsOf, Table.mem_select]
    exact ⟨hmem, by simpa using hauth⟩
  · have hdb : db₁ = { db with consumptions := t } := hdb
    subst hdb
    have hselect : consumptionsOf request.authorizationId { db with consumptions := t } =
        consumptionsOf request.authorizationId db ++ [row] := by
      unfold consumptionsOf
      rw [Table.select_insert ht, hrow]
      simp
    refine ⟨{ hledger with consumed := ?_, requests := ?_ }, ⟨t, rfl⟩, row, ?_, by rw [hrow]⟩
    · intro x hx
      obtain ⟨row', hrow', hid⟩ := hledger.consumed x hx
      exact ⟨row', by rw [hselect]; exact List.mem_append_left _ hrow', hid⟩
    · intro grant' hgrant'
      have heq : grant' = grant := Option.some.inj (hgrant'.symm.trans hgrant)
      rw [hselect, List.length_append, List.length_singleton, heq]
      exact hbudget
    · rw [hselect]
      exact List.mem_append_right _ (List.mem_singleton_self row)

/-- **The reservation step.**  An accepted attempt reservation keeps the ledger and writes nothing
but consumptions and attempts. -/
theorem reserveAttempt_ledger {a r : Uuid} {port : Port} {request : SecAttemptReservationRequest}
    {draws : Draws} {db db' : Db} (ha : request.authorizationId = a) (hr : port.syncRunId = r)
    (hledger : Ledger a r db) (h : reserveAttempt port request draws db = .ok ((), db')) :
    Ledger a r db' ∧ ∃ c t, db' = { db with consumptions := c, attempts := t } := by
  obtain ⟨consumption, reservation, db₁, hauth, hattempt, -, hreserve, hreserved⟩ :=
    reserveAttempt_ok h
  obtain ⟨hledger, ⟨c, hc⟩, row, hrow, hrowid⟩ :=
    reserveConsumption_ledger (hauth.trans ha) hledger hreserve
  obtain ⟨t, ht, hdb'⟩ := hreserved.written
  subst hr
  have hdb' : db' = { db₁ with attempts := t } := hdb'
  have hselect : attemptsOf port.syncRunId db' =
      attemptsOf port.syncRunId db₁ ++ [pendingAttempt port.syncRunId request draws] := by
    rw [hdb']
    unfold attemptsOf
    rw [Table.select_insert ht]
    simp [pendingAttempt]
  refine ⟨?_, c, t, by rw [hdb', hc]⟩
  refine
    { numbers := ?_
      room := ?_
      slices := ?_
      consumed := ?_
      requests := ?_ }
  · rw [hselect, List.map_append, hledger.numbers, List.length_append, List.length_singleton,
      List.range'_concat]
    simp [pendingAttempt, hreserved.next, Nat.add_comm]
  · have hroom := hreserved.room
    rw [hselect, List.length_append, List.length_singleton]
    omega
  · rw [hselect, List.map_append, List.length_append, List.length_singleton, List.map_singleton,
      length_dedup_concat,
      show (pendingAttempt port.syncRunId request draws).sliceId = request.sliceId from rfl]
    by_cases hslice : request.sliceId ∈ (attemptsOf port.syncRunId db₁).map AttemptRow.sliceId
    · -- the slice was tried before, under a smaller number, so this is the run's one retry
      have hprior : db₁.attempts.count (priorOccurrence port.syncRunId request) ≠ 0 := by
        intro hzero
        obtain ⟨x, hx, hxs⟩ := List.mem_map.mp hslice
        obtain ⟨hmem, hrun⟩ := Table.mem_select.mp hx
        have hnumber := hledger.number_le hx
        refine Table.count_eq_zero.mp hzero x hmem ?_
        have hnext := hreserved.next
        simp only [priorOccurrence, decide_eq_true_eq]
        exact ⟨by simpa using hrun, hxs, by omega⟩
      have hretry := hreserved.retry hprior
      omega
    · have hslices := hledger.slices
      rw [if_neg hslice]
      omega
  · intro x hx
    rw [hselect] at hx
    have hcons : consumptionsOf a db' = consumptionsOf a db₁ := by rw [hdb']; rfl
    rw [hcons]
    rcases List.mem_append.mp hx with hx | hx
    · exact hledger.consumed x hx
    · rw [List.mem_singleton.mp hx]
      exact ⟨row, hrow, by rw [hrowid, hattempt]; rfl⟩
  · intro grant hgrant
    rw [hdb'] at hgrant ⊢
    exact hledger.requests grant hgrant

/-! ## The events of the grant -/

/-- The events of `a` in `db`, compared with the ones the run started with. -/
structure EventLog (a : Uuid) (start db : Db) : Prop where
  contiguous : (eventsOf a db).map EventRow.sequence = List.range' 1 (eventsOf a db).length
  replayable : ∃ state, replayOf a db = .ok state
  grown : eventsOf a db = eventsOf a start ∨
    ∃ row : EventRow, row.eventType = .consume ∧ eventsOf a db = eventsOf a start ++ [row]

/-- An event behind all others is last in the order of the log. -/
lemma eventsOf_insert {a : Uuid} {db : Db} {t : Table EventRow} {row : EventRow}
    (ha : row.authorizationId = a) (hlast : ∀ e ∈ eventsOf a db, e.sequence ≤ row.sequence)
    (h : db.events.insert row = some t) :
    eventsOf a { db with events := t } = eventsOf a db ++ [row] := by
  unfold eventsOf
  rw [Table.select_insert h]
  simp only [ha, decide_true, if_true]
  refine insertionSort_append_last _ _ ?_
  intro e he
  exact hlast e ((List.mem_insertionSort _).mpr he)

/-- A log that ends in a consumption replays to `CONSUMED` or not at all. -/
lemma replay_concat_consume {events : List LiveAuthorizationEventType}
    {state : LiveAuthorizationState}
    (h : AuthorizationStateMachine.replay (events ++ [.consume]) = .ok state) :
    state = .consumed := by
  unfold AuthorizationStateMachine.replay at h
  rw [AuthorizationStateMachine.replayFrom_append] at h
  cases hreplay : AuthorizationStateMachine.replayFrom .draft events with
  | error e => simp [hreplay, Bind.bind, Except.bind] at h
  | ok s =>
      rw [hreplay] at h
      cases s <;> cases h
      rfl

/-- **The consumption step.**  An accepted consumption puts one `CONSUME` event behind the log. -/
theorem consumeAuthorization_eventLog {a eventId : Uuid} {start db db₁ : Db}
    {state : LiveAuthorizationState} (hlog : EventLog a start db)
    (h : consumeAuthorization a eventId db = .ok (state, db₁)) :
    EventLog a start db₁ ∧ ∃ t, db₁ = { db with events := t } := by
  obtain ⟨-, hactive, t, ht, hdb⟩ := consumeAuthorization_ok h
  have hdb : db₁ = { db with events := t } := hdb
  subst hdb
  have hlast : ∀ e ∈ eventsOf a db, e.sequence ≤ (eventsOf a db).length + 1 := by
    intro e he
    have hmem : e.sequence ∈ List.range' 1 (eventsOf a db).length :=
      hlog.contiguous ▸ List.mem_map_of_mem he
    rw [List.mem_range'_1] at hmem
    omega
  have hevents := eventsOf_insert rfl hlast ht
  refine ⟨⟨?_, ?_, ?_⟩, t, rfl⟩
  · rw [hevents, List.map_append, hlog.contiguous, List.length_append, List.length_singleton,
      List.range'_concat]
    simp [Nat.add_comm]
  · refine ⟨.consumed, ?_⟩
    unfold replayOf AuthorizationStateMachine.replay at hactive ⊢
    rw [hevents, List.map_append, List.map_singleton,
      AuthorizationStateMachine.replayFrom_append, hactive]
    rfl
  · rcases hlog.grown with hsame | ⟨row, hrow, hgrown⟩
    · exact .inr ⟨_, rfl, by rw [hevents, hsame]⟩
    · -- the log already ends in a consumption, so it cannot have been active
      unfold replayOf at hactive
      rw [hgrown, List.map_append, List.map_singleton, hrow] at hactive
      cases replay_concat_consume hactive

/-! ## The approval -/

def approvalState (approvalId : Uuid) (db : Db) : Option ExecutionApprovalState :=
  (approvalOf approvalId db).map ApprovalRow.state

/-- An accepted start finds the approval `VALID`. -/
lemma approvalState_of_start {port : Port} {draws : Draws} {db : Db}
    (h : StartValidated port draws db) :
    approvalState port.execution.execution.approvalId db = some .valid := by
  obtain ⟨approval, happroval, hvalid, -, -⟩ := h.approval
  simp [approvalState, happroval, hvalid]

/-! ## One call -/

/-- **The call step.**  Every call keeps the ledger and the event log, and leaves a consumed
approval consumed. -/
theorem System.step_preserves {a p r : Uuid} {start : Db} {s : System ι} (hbound : Bound a p r s)
    (hledger : Ledger a r s.db) (hlog : EventLog a start s.db) (call : Call ι) :
    Ledger a r (s.step call).2.db ∧ EventLog a start (s.step call).2.db ∧
      (approvalState p s.db = some .consumed →
        approvalState p (s.step call).2.db = some .consumed) := by
  refine commit_cases (P := fun s' : System ι => Ledger a r s'.db ∧ EventLog a start s'.db ∧
    (approvalState p s.db = some .consumed → approvalState p s'.db = some .consumed))
    ⟨hledger, hlog, id⟩ ?_
  intro answer s' hrun
  cases call with
  | start caller request draws =>
      obtain ⟨ha, hp, hr⟩ := hbound caller
      obtain ⟨result, hstart, -⟩ := call_start_ok hrun
      obtain ⟨-, hscope, hvalidated, approvals, state, db₁, happrovals, hconsume, hreserve⟩ :=
        Port.startExecution_ok hstart
      rw [ha] at hconsume
      -- consuming writes the event log, the approvals before it are no part of either invariant
      have hlog₁ : EventLog a start { s.db with approvals := approvals } :=
        ⟨hlog.contiguous, hlog.replayable, hlog.grown⟩
      obtain ⟨hlog₂, t, rfl⟩ := consumeAuthorization_eventLog hlog₁ hconsume
      have hledger₁ : Ledger a r { s.db with approvals := approvals, events := t } :=
        ⟨hledger.numbers, hledger.room, hledger.slices, hledger.consumed, hledger.requests⟩
      obtain ⟨hledger₂, c, attempts, hdb'⟩ :=
        reserveAttempt_ledger (hscope.1.trans ha) hr hledger₁ hreserve
      refine ⟨hledger₂, ?_, ?_⟩
      · rw [show s'.db = _ from hdb']
        exact ⟨hlog₂.contiguous, hlog₂.replayable, hlog₂.grown⟩
      · intro hconsumed
        have hvalid := approvalState_of_start hvalidated
        rw [hp, hconsumed] at hvalid
        cases hvalid
  | reserve caller request draws =>
      obtain ⟨ha, -, hr⟩ := hbound caller
      obtain ⟨permit, hreserve, -⟩ := call_reserve_ok hrun
      obtain ⟨-, hscope, hreserve⟩ := Port.reserve_ok hreserve
      obtain ⟨hledger₁, c, attempts, hdb'⟩ :=
        reserveAttempt_ledger (hscope.1.trans ha) hr hledger hreserve
      refine ⟨hledger₁, ?_, ?_⟩
      · rw [show s'.db = _ from hdb']
        exact ⟨hlog.contiguous, hlog.replayable, hlog.grown⟩
      · rw [show s'.db = _ from hdb']
        exact id

/-! ## All runs -/

/-- What holds of a grant, an approval and a sync run after every call of a run. -/
structure ExecutionInvariant (a r : Uuid) (start db : Db) : Prop where
  /-- the events stay contiguous and replayable, and grow by at most one `CONSUME` -/
  log : EventLog a start db
  /-- the attempts have the numbers `1, …, n` -/
  numbers : (attemptsOf r db).map AttemptRow.attemptNumber =
    List.range' 1 (attemptsOf r db).length
  atMostFour : (attemptsOf r db).length ≤ 4
  withinRequestLimit : ∀ grant, grantOf a db = some grant →
    (attemptsOf r db).length ≤ grant.requestLimit
  /-- no slice has more than two attempts, and no two slices have two -/
  sliceTwice : ∀ slice, ((attemptsOf r db).map AttemptRow.sliceId).count slice ≤ 2
  oneRetry : ∀ x y, 2 ≤ ((attemptsOf r db).map AttemptRow.sliceId).count x →
    2 ≤ ((attemptsOf r db).map AttemptRow.sliceId).count y → x = y
  /-- every attempt has exactly one consumption of the grant -/
  oneConsumption : ∀ x ∈ attemptsOf r db, db.consumptions.count
    (fun c => c.authorizationId = a ∧ c.requestAttemptId = x.id) = 1

/-- What holds of a whole run of calls. -/
structure ExecutionLaw (a p r : Uuid) (s : System ι) (calls : List (Call ι)) : Prop where
  approvalOnce : (trace System.step s calls).countP
    (fun e => decide (approvalState p e.before.db = some .valid) &&
      decide (approvalState p e.after.db = some .consumed)) ≤ 1
  invariant : ∀ e ∈ trace System.step s calls, ExecutionInvariant a r s.db e.after.db
  rejected : ∀ e ∈ trace System.step s calls, ∀ error, e.outcome = .error error →
    e.after = e.before

/-- The ids of a run's attempts are distinct. -/
lemma nodup_attempt_ids (r : Uuid) (db : Db) : ((attemptsOf r db).map AttemptRow.id).Nodup := by
  rw [List.Nodup, List.pairwise_map]
  exact (db.attempts.keyed.filter _).imp fun hclash heq => hclash (.inl heq)

/-- Each attempt uses up a consumption of its own, so the request limit bounds the attempts too. -/
lemma Ledger.length_le {a r : Uuid} {db : Db} (h : Ledger a r db) :
    (attemptsOf r db).length ≤ (consumptionsOf a db).length := by
  have hsubset : (attemptsOf r db).map AttemptRow.id ⊆
      (consumptionsOf a db).map ConsumptionRow.requestAttemptId := by
    intro q hq
    obtain ⟨x, hx, rfl⟩ := List.mem_map.mp hq
    obtain ⟨row, hrow, hid⟩ := h.consumed x hx
    exact List.mem_map.mpr ⟨row, hrow, hid⟩
  simpa using (List.subperm_of_subset (nodup_attempt_ids r db) hsubset).length_le

lemma Ledger.invariant {a r : Uuid} {start db : Db} (h : Ledger a r db)
    (hlog : EventLog a start db) : ExecutionInvariant a r start db where
  log := hlog
  numbers := h.numbers
  atMostFour := h.room
  withinRequestLimit grant hgrant := le_trans h.length_le (h.requests grant hgrant)
  sliceTwice slice := by
    have hcount := count_le_of_dedup ((attemptsOf r db).map AttemptRow.sliceId) slice
    have hslices := h.slices
    rw [List.length_map] at hcount
    omega
  oneRetry x y hx hy := by
    by_contra hne
    have hcount := count_add_count_le_of_dedup ((attemptsOf r db).map AttemptRow.sliceId) hne
    have hslices := h.slices
    rw [List.length_map] at hcount
    omega
  oneConsumption x hx := by
    obtain ⟨row, hrow, hid⟩ := h.consumed x hx
    obtain ⟨hmem, hauth⟩ := Table.mem_select.mp hrow
    refine Table.count_eq_one ?_ hmem (by simpa [hid] using hauth)
    intro c d hc hd
    simp only [decide_eq_true_eq] at hc hd
    exact .inr ⟨by rw [hc.1, hd.1], by rw [hc.2, hd.2]⟩

/-- What a run starts from: the run has no attempts yet, and the grant's events and consumptions
are in order. -/
structure FreshRun (a r : Uuid) (db : Db) : Prop where
  noAttempts : attemptsOf r db = []
  contiguous : (eventsOf a db).map EventRow.sequence = List.range' 1 (eventsOf a db).length
  replayable : ∃ state, replayOf a db = .ok state
  requests : ∀ grant, grantOf a db = some grant →
    (consumptionsOf a db).length ≤ grant.requestLimit

lemma FreshRun.ledger {a r : Uuid} {db : Db} (h : FreshRun a r db) : Ledger a r db where
  numbers := by simp [h.noAttempts]
  room := by simp [h.noAttempts]
  slices := by simp [h.noAttempts]
  consumed := by simp [h.noAttempts]
  requests := h.requests

/-- **The execution law.**  Over every interleaving of starts and reservations, by any number of
callers, on one grant, approval and sync run: the approval is consumed at most once, the events
stay replayable and gain at most one `CONSUME`, the attempts are numbered `1, …, n` within both
limits with at most one retry, each attempt has exactly one consumption, and a rejected call
changes nothing. -/
theorem executionLaw (a p r : Uuid) (s : System ι) (calls : List (Call ι)) (hbound : Bound a p r s)
    (hfresh : FreshRun a r s.db) : ExecutionLaw a p r s calls := by
  have hlog : EventLog a s.db s.db := ⟨hfresh.contiguous, hfresh.replayable, .inl rfl⟩
  have hkeep : ∀ (s' : System ι) (call : Call ι),
      (Bound a p r s' ∧ Ledger a r s'.db ∧ EventLog a s.db s'.db) →
        Bound a p r (s'.step call).2 ∧ Ledger a r (s'.step call).2.db ∧
          EventLog a s.db (s'.step call).2.db := by
    intro s' call h
    have hstep := System.step_preserves h.1 h.2.1 h.2.2 call
    exact ⟨h.1.step call, hstep.1, hstep.2.1⟩
  have hinvariant : ∀ e ∈ trace System.step s calls,
      ExecutionInvariant a r s.db e.after.db := by
    intro e he
    have h := (trace_invariant (C := fun _ _ => True) (fun s' call h _ => hkeep s' call h)
      ⟨hbound, hfresh.ledger, hlog⟩ (fun _ _ => trivial) e he).2
    exact h.2.1.invariant h.2.2
  refine
    { approvalOnce := ?_
      invariant := hinvariant
      rejected := ?_ }
  · have honce := countP_enter_le_one (Q := fun s' : System ι => approvalState p s'.db = some .consumed)
      hkeep (fun s' call h => (System.step_preserves h.1 h.2.1 h.2.2 call).2.2)
      ⟨hbound, hfresh.ledger, hlog⟩ calls
    refine le_trans (List.countP_mono_left ?_) honce
    intro e _ he
    simp only [Bool.and_eq_true, decide_eq_true_eq] at he
    simp [he.1, he.2]
  · intro e he error herror
    have hstep := step_of_mem_trace he
    have hback := commit_rejected (t := e.call.run) (s := e.before) (e := error)
      (by rw [← herror]; exact congrArg Prod.fst hstep)
    rw [← hback]
    exact (congrArg Prod.snd hstep).symm

/-! ## A pilot execution -/

def pilotExecution : GateBExecution where
  authorizationId := 1
  authorizationChecksum := "grant"
  approvalId := 2
  planId := 3
  planChecksum := "plan"
  provider := "SEC_EDGAR_PUBLIC_V1"
  securityId := 4
  issuerId := 5
  providerSecurityIdentifier := "0000320193"

def planSlice (sliceId endpointId : String) : PyJson.Value :=
  .obj [("slice_id", .str sliceId),
    ("request_parameters", .obj [("endpoint_id", .str endpointId)])]

/-- A grant of four requests that expires at 100, with its approval, plan and run. -/
def pilotDb : Db :=
  { (∅ : Db) with
    grants := ⟨[{ id := 1, requestLimit := 4, byteLimit := 1000, canonicalChecksum := "grant",
                  scope := .obj [("security_id", .str (Uuid.str 4)),
                    ("issuer_id", .str (Uuid.str 5)),
                    ("provider_security_identifier", .str "0000320193")],
                  expiresAt := 100 }], by simp, by decide⟩
    events := ⟨[{ id := 10, authorizationId := 1, sequence := 1, eventType := .approve },
                { id := 11, authorizationId := 1, sequence := 2, eventType := .activate }],
      by decide, by decide⟩
    approvals := ⟨[{ id := 2, authorizationId := 1, planId := 3, planChecksum := "plan",
                     state := .valid, expiresAt := 50 }], by simp, by decide⟩
    plans := ⟨[{ id := 3, planChecksum := "plan",
                 slices := .arr [planSlice "SEC_SUBMISSIONS" "SEC_SUBMISSIONS_JSON",
                   planSlice "SEC_FILING_INDEX" "SEC_FILING_DOCUMENT",
                   planSlice "SEC_PRIMARY_DOCUMENT" "SEC_FILING_DOCUMENT"] }],
      by simp, fun _ _ => trivial⟩
    runs := ⟨[{ id := 6, syncPlanId := 3 }], by simp, fun _ _ => trivial⟩ }

def pilotPort : Port where
  execution := .validation pilotExecution
  syncRunId := 6
  reservedBytes := 400

def firstRequest : SecAttemptReservationRequest where
  authorizationId := 1
  planId := 3
  planChecksum := "plan"
  sliceId := "SEC_SUBMISSIONS"
  endpointId := "SEC_SUBMISSIONS_JSON"
  attemptNumber := 1
  kind := .initial
  sliceLength := by decide
  endpointLength := by decide
  numbered := by decide

def secondRequest : SecAttemptReservationRequest :=
  { firstRequest with
    sliceId := "SEC_FILING_INDEX", endpointId := "SEC_FILING_DOCUMENT", attemptNumber := 2
    sliceLength := by decide, endpointLength := by decide, numbered := by decide }

/-- The draws of a call that reads one instant throughout. -/
def drawsAt (attempt : Uuid) (now : Timestamp) : Draws where
  requestAttemptId := attempt
  eventId := attempt
  consumptionId := attempt
  approvalCheckedAt := now
  grantCheckedAt := now
  reservedAt := now
  startedAt := now

/-- Two callers race to start the pilot, and the one that was accepted goes on. -/
def pilotRace : List (Call (Fin 2)) :=
  [.start 0 firstRequest (drawsAt 20 7), .start 1 firstRequest (drawsAt 21 8),
    .reserve 0 secondRequest (drawsAt 22 9)]

theorem executionLaw_pilotRace :
    ExecutionLaw 1 2 6 ⟨pilotDb, fun _ : Fin 2 => pilotPort⟩ pilotRace :=
  executionLaw 1 2 6 _ _ (fun _ => ⟨rfl, rfl, rfl⟩)
    ⟨rfl, by decide, ⟨.active, rfl⟩, fun _ _ => Nat.zero_le _⟩

example : (trace System.step ⟨pilotDb, fun _ : Fin 2 => pilotPort⟩ pilotRace).map
    (fun e => e.outcome.toBool) = [true, false, true] := by decide

end StockResearch.LiveEvidence
