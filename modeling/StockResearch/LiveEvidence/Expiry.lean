import StockResearch.LiveEvidence.Execution

/-!
# Permits and the lifetime of a grant

Callers start executions and reserve attempts while the clock runs and the grant's event history
grows by other hands.  `Port.startExecution` compares the grant's `expires_at` with the clock and
requires an `ACTIVE` history; `Port.reserve` asks only whether its port was started.

* Every permit belongs to an execution that was started on an `ACTIVE` history, whatever happened
  to the history since (`actions_startedActive`).
* A permit is stamped before the grant expires when the stamp itself is taken in time, which the
  code checks for the start alone.  `lapseLaw_of_onTime` is the law over whole runs under that
  condition, and `not_lapseLaw_after_expiry` is a run in which a permit is handed out after the
  grant has expired.
-/

namespace StockResearch.LiveEvidence

open Txn

variable {ι : Type} [DecidableEq ι]

/-! ## Actions -/

/-- A call by one of the callers, or an event that someone else records. -/
inductive Action (ι : Type) where
  | call (call : Call ι)
  | record (event : EventRow)

def Action.run : Action ι → Transaction Raised (System ι) (Option Answer)
  | .call c => fun s => (c.run s).map fun r => (some r.1, r.2)
  | .record event => fun s =>
      match s.db.events.insert event with
      | some events => .ok (none, { s with db := { s.db with events := events } })
      | none => .error .integrity

/-- One action, committed or rolled back. -/
def System.act (s : System ι) (action : Action ι) : Except Raised (Option Answer) × System ι :=
  commit action.run s

def Call.caller : Call ι → ι
  | .start caller _ _ => caller
  | .reserve caller _ _ => caller

def Call.draws : Call ι → Draws
  | .start _ _ draws => draws
  | .reserve _ _ draws => draws

/-- The grant that a caller's port names. -/
def System.grantId (s : System ι) (i : ι) : Uuid := (s.ports i).execution.execution.authorizationId

/-- An accepted call was accepted by its own transaction. -/
lemma act_call_ok {s s' : System ι} {call : Call ι} {answer : Answer}
    (h : s.act (.call call) = (.ok (some answer), s')) : call.run s = .ok (answer, s') := by
  have hrun := commit_ok_iff.mp (congrArg Prod.fst h)
  rw [show (commit (Action.call call).run s).2 = s' from congrArg Prod.snd h] at hrun
  simp only [Action.run] at hrun
  cases hcall : call.run s with
  | error e => simp [hcall, Except.map] at hrun
  | ok p =>
      rw [hcall] at hrun
      cases hrun
      rfl

lemma act_call_answer {s s' : System ι} {call : Call ι} {result : Option Answer}
    (h : s.act (.call call) = (.ok result, s')) : ∃ answer, result = some answer := by
  have hrun := commit_ok_iff.mp (congrArg Prod.fst h)
  simp only [Action.run] at hrun
  cases hcall : call.run s with
  | error e => simp [hcall, Except.map] at hrun
  | ok p =>
      simp only [hcall, Except.map, Except.ok.injEq, Prod.mk.injEq] at hrun
      exact ⟨p.1, hrun.1.symm⟩

/-! ## What an accepted call shows -/

/-- The consumption of a reserved attempt carries the call's own clock reading. -/
lemma reserveAttempt_stamp {port : Port} {request : SecAttemptReservationRequest} {draws : Draws}
    {db db' : Db} (h : reserveAttempt port request draws db = .ok ((), db')) :
    ∃ grant row, grantOf request.authorizationId db = some grant ∧
      row ∈ consumptionsOf request.authorizationId db' ∧
      row.requestAttemptId = draws.requestAttemptId ∧ row.reservedAt = draws.reservedAt := by
  obtain ⟨consumption, reservation, db₁, hauth, hattempt, hstamp, hreserve, hreserved⟩ :=
    reserveAttempt_ok h
  obtain ⟨t, -, hdb'⟩ := hreserved.written
  have hafter : consumptionsOf request.authorizationId db' =
      consumptionsOf request.authorizationId db₁ := by
    rw [show db' = { db₁ with attempts := t } from hdb']
    rfl
  obtain ⟨grant, hgrant, hcase⟩ := reserveConsumption_ok hreserve
  rw [hauth] at hgrant hcase
  rw [hafter]
  rcases hcase with ⟨row, hrow, -, -, htime, hdb⟩ | ⟨row, c, -, -, hrow, hc, hdb⟩
  · obtain ⟨hmem, hrowauth, hrowattempt⟩ := mem_of_consumptionOf hrow
    refine ⟨grant, row, hgrant, ?_, hrowattempt.trans hattempt, htime.trans hstamp⟩
    rw [show db₁ = db from hdb, consumptionsOf, Table.mem_select]
    exact ⟨hmem, by simpa using hrowauth⟩
  · refine ⟨grant, row, hgrant, ?_, by rw [hrow]; exact hattempt, by rw [hrow]; exact hstamp⟩
    rw [show db₁ = { db with consumptions := c } from hdb, consumptionsOf, Table.mem_select,
      Table.mem_insert hc]
    exact ⟨.inr rfl, by simp [hrow]⟩

/-- A permit's consumption exists on the caller's grant, with the stamp the call has drawn. -/
def Stamped (s s' : System ι) (call : Call ι) : Prop :=
  ∃ grant row, grantOf (s.grantId call.caller) s.db = some grant ∧
    row ∈ consumptionsOf (s.grantId call.caller) s'.db ∧
    row.requestAttemptId = call.draws.requestAttemptId ∧ row.reservedAt = call.draws.reservedAt

lemma call_stamped {s s' : System ι} {call : Call ι} {answer : Answer}
    (h : call.run s = .ok (answer, s')) : Stamped s s' call := by
  cases call with
  | start caller request draws =>
      obtain ⟨result, hstart, -⟩ := call_start_ok h
      obtain ⟨-, hscope, -, approvals, state, db₁, -, hconsume, hreserve⟩ :=
        Port.startExecution_ok hstart
      obtain ⟨-, -, t, -, hdb₁⟩ := consumeAuthorization_ok hconsume
      obtain ⟨grant, row, hgrant, hrow⟩ := reserveAttempt_stamp hreserve
      rw [hscope.1, show db₁ = _ from hdb₁] at hgrant
      rw [hscope.1] at hrow
      exact ⟨grant, row, hgrant, hrow⟩
  | reserve caller request draws =>
      obtain ⟨permit, hreserve, -⟩ := call_reserve_ok h
      obtain ⟨-, hscope, hreserve⟩ := Port.reserve_ok hreserve
      obtain ⟨grant, row, hgrant, hrow⟩ := reserveAttempt_stamp hreserve
      rw [hscope.1] at hgrant hrow
      exact ⟨grant, row, hgrant, hrow⟩

/-- A start is accepted only on an `ACTIVE` history and with the expiry check passed. -/
lemma start_active {s s' : System ι} {caller : ι} {request : SecAttemptReservationRequest}
    {draws : Draws} {answer : Answer}
    (h : (Call.start caller request draws).run s = .ok (answer, s')) :
    replayOf (s.grantId caller) s.db = .ok .active ∧
      ∃ grant, grantOf (s.grantId caller) s.db = some grant ∧
        draws.grantCheckedAt < grant.expiresAt := by
  obtain ⟨result, hstart, -⟩ := call_start_ok h
  obtain ⟨-, -, hvalidated, approvals, state, db₁, -, hconsume, -⟩ := Port.startExecution_ok hstart
  obtain ⟨-, hactive, -⟩ := consumeAuthorization_ok hconsume
  exact ⟨hactive, hvalidated.grant⟩

/-! ## Started on an active history -/

abbrev ActionEvent (ι : Type) := Event (System ι) (Action ι) (Except Raised (Option Answer))

/-- Among these events is an accepted start by the caller, on an `ACTIVE` history. -/
def StartedActive (i : ι) (events : List (ActionEvent ι)) : Prop :=
  ∃ e ∈ events, ∃ request draws answer, e.call = .call (.start i request draws) ∧
    e.outcome = .ok (some answer) ∧ replayOf (e.before.grantId i) e.before.db = .ok .active

/-- A port is authorized only by an accepted start of its caller. -/
lemma act_authorized {s : System ι} {action : Action ι} {i : ι}
    (h : ((s.act action).2.ports i).execution.isAuthorized = true) :
    (s.ports i).execution.isAuthorized = true ∨
      ∃ request draws answer, action = .call (.start i request draws) ∧
        (s.act action).1 = .ok (some answer) ∧ replayOf (s.grantId i) s.db = .ok .active := by
  cases hact : s.act action with
  | mk outcome s' =>
      rw [hact] at h
      cases outcome with
      | error e =>
          have hback : (s.act action).2 = s := commit_rejected (congrArg Prod.fst hact)
          rw [hact] at hback
          exact .inl (by rw [← hback]; exact h)
      | ok result =>
          cases action with
          | record event =>
              have hrun := commit_ok_iff.mp (congrArg Prod.fst hact)
              have hports : s'.ports = s.ports := by
                rw [show (commit (Action.record event).run s).2 = s' from
                  congrArg Prod.snd hact] at hrun
                simp only [Action.run] at hrun
                split at hrun
                · cases hrun; rfl
                · cases hrun
              exact .inl (by rw [← hports]; exact h)
          | call c =>
              obtain ⟨answer, rfl⟩ := act_call_answer hact
              have hrun := act_call_ok hact
              cases c with
              | start caller request draws =>
                  obtain ⟨-, -, hports⟩ := call_start_ok hrun
                  by_cases hi : i = caller
                  · subst hi
                    exact .inr ⟨request, draws, answer, rfl, rfl, (start_active hrun).1⟩
                  · rw [show s'.ports = _ from hports] at h
                    exact .inl (by simpa [System.authorize, hi] using h)
              | reserve caller request draws =>
                  obtain ⟨-, -, hports⟩ := call_reserve_ok hrun
                  rw [show s'.ports = _ from hports] at h
                  exact .inl h

/-- **Every permit after the first belongs to an execution started on an active history.** -/
lemma actions_startedActive {s : System ι} {past : List (ActionEvent ι)}
    (hs : ∀ i, (s.ports i).execution.isAuthorized = true → StartedActive i past)
    {actions : List (Action ι)} {before after : List (ActionEvent ι)} {e : ActionEvent ι}
    (hsplit : trace System.act s actions = before ++ e :: after) {i : ι}
    {request : SecAttemptReservationRequest} {draws : Draws} {answer : Answer}
    (hcall : e.call = .call (.reserve i request draws)) (hok : e.outcome = .ok (some answer)) :
    StartedActive i (past ++ before) := by
  induction actions generalizing s past before with
  | nil => simp [trace] at hsplit
  | cons action actions ih =>
      cases before with
      | nil =>
          rw [List.nil_append] at hsplit
          obtain ⟨rfl, -⟩ := List.cons.inj hsplit
          have hcall : action = .call (.reserve i request draws) := hcall
          subst hcall
          have hact : s.act (.call (.reserve i request draws)) = (.ok (some answer), _) :=
            Prod.ext hok rfl
          obtain ⟨permit, hreserve, -⟩ := call_reserve_ok (act_call_ok hact)
          rw [List.append_nil]
          exact hs i (Port.reserve_ok hreserve).1
      | cons first before =>
          rw [List.cons_append] at hsplit
          obtain ⟨hfirst, hrest⟩ := List.cons.inj hsplit
          have hstarted : ∀ j, ((s.act action).2.ports j).execution.isAuthorized = true →
              StartedActive j (past ++ [first]) := by
            intro j hj
            rcases act_authorized hj with hj | ⟨request, draws, answer, hcall, hok, hactive⟩
            · obtain ⟨e', he', hstarted⟩ := hs j hj
              exact ⟨e', List.mem_append_left _ he', hstarted⟩
            · refine ⟨first, List.mem_append_right _ (List.mem_singleton_self _), request, draws,
                answer, ?_⟩
              rw [← hfirst]
              exact ⟨hcall, hok, hactive⟩
          have hnext := ih hstarted hrest
          rwa [List.append_assoc] at hnext

/-! ## The law over whole runs -/

/-- Permits are handed out within the lifetime of their grant. -/
structure LapseLaw (s : System ι) (actions : List (Action ι)) : Prop where
  /-- the consumption of every permit is stamped strictly before the grant expires -/
  inTime : ∀ e ∈ trace System.act s actions, ∀ call answer, e.call = .call call →
    e.outcome = .ok (some answer) →
      ∃ grant row, grantOf (e.before.grantId call.caller) e.before.db = some grant ∧
        row ∈ consumptionsOf (e.before.grantId call.caller) e.after.db ∧
        row.requestAttemptId = call.draws.requestAttemptId ∧ row.reservedAt < grant.expiresAt
  /-- a start is accepted on an `ACTIVE` history -/
  startActive : ∀ e ∈ trace System.act s actions, ∀ i request draws answer,
    e.call = .call (.start i request draws) → e.outcome = .ok (some answer) →
      replayOf (e.before.grantId i) e.before.db = .ok .active
  /-- a later permit belongs to an execution that was started so -/
  laterActive : ∀ before e after, trace System.act s actions = before ++ e :: after →
    ∀ i request draws answer, e.call = .call (.reserve i request draws) →
      e.outcome = .ok (some answer) → StartedActive i before

/-- The clock at a call.  A reservation by a started port takes its stamp before the grant expires;
a start that finds the grant unexpired takes its stamp before it expires too. -/
def OnTime (s : System ι) : Action ι → Prop
  | .call (.start i _ draws) => ∀ grant, grantOf (s.grantId i) s.db = some grant →
      draws.grantCheckedAt < grant.expiresAt → draws.reservedAt < grant.expiresAt
  | .call (.reserve i _ draws) => (s.ports i).execution.isAuthorized = true →
      ∀ grant, grantOf (s.grantId i) s.db = some grant → draws.reservedAt < grant.expiresAt
  | .record _ => True

lemma act_of_mem_trace {s : System ι} {actions : List (Action ι)} {e : ActionEvent ι}
    (he : e ∈ trace System.act s actions) {call : Call ι} {answer : Answer}
    (hcall : e.call = .call call) (hok : e.outcome = .ok (some answer)) :
    call.run e.before = .ok (answer, e.after) := by
  have hstep := step_of_mem_trace he
  rw [hcall, hok] at hstep
  exact act_call_ok hstep

/-- An accepted call whose clock is on time stamps its consumption before the grant expires. -/
lemma stamped_before_expiry {s s' : System ι} {call : Call ι} {answer : Answer}
    (hrun : call.run s = .ok (answer, s')) (hclock : OnTime s (.call call)) :
    ∃ grant row, grantOf (s.grantId call.caller) s.db = some grant ∧
      row ∈ consumptionsOf (s.grantId call.caller) s'.db ∧
      row.requestAttemptId = call.draws.requestAttemptId ∧ row.reservedAt < grant.expiresAt := by
  obtain ⟨grant, row, hgrant, hrow, hattempt, hstamp⟩ := call_stamped hrun
  refine ⟨grant, row, hgrant, hrow, hattempt, ?_⟩
  rw [hstamp]
  cases call with
  | start caller request draws =>
      obtain ⟨-, grant', hgrant', hcheck⟩ := start_active hrun
      have hsame : grant' = grant := Option.some.inj (hgrant'.symm.trans hgrant)
      subst hsame
      exact hclock _ hgrant hcheck
  | reserve caller request draws =>
      obtain ⟨permit, hreserve, -⟩ := call_reserve_ok hrun
      exact hclock (Port.reserve_ok hreserve).1 grant hgrant

/-- **The lapse law.**  In every run of starts, reservations and foreign events, from ports that
were only validated, and in which every call's clock is on time, all permits are handed out within
the lifetime of their grant. -/
theorem lapseLaw_of_onTime (s : System ι) (actions : List (Action ι))
    (hports : ∀ i, (s.ports i).execution.isAuthorized = false)
    (hclock : ∀ e ∈ trace System.act s actions, OnTime e.before e.call) : LapseLaw s actions where
  inTime e he call answer hcall hok :=
    stamped_before_expiry (act_of_mem_trace he hcall hok) (hcall ▸ hclock e he)
  startActive e he i request draws answer hcall hok :=
    (start_active (act_of_mem_trace he hcall hok)).1
  laterActive before e after hsplit i request draws answer hcall hok := by
    have hnone : ∀ j, (s.ports j).execution.isAuthorized = true → StartedActive j [] := by
      intro j hj
      simp [hports j] at hj
    exact actions_startedActive hnone hsplit hcall hok

/-- One caller starts the pilot at 7 and reserves its second attempt at `now`. -/
def pilotActions (now : Timestamp) : List (Action (Fin 1)) :=
  [.call (.start 0 firstRequest (drawsAt 20 7)), .call (.reserve 0 secondRequest (drawsAt 22 now))]

theorem lapseLaw_of_onTime_pilot :
    LapseLaw ⟨pilotDb, fun _ : Fin 1 => pilotPort⟩ (pilotActions 9) := by
  refine lapseLaw_of_onTime _ _ (fun _ => rfl) ?_
  refine List.forall_mem_cons.mpr ⟨?_, List.forall_mem_cons.mpr ⟨?_, by simp [trace]⟩⟩
  · intro grant hgrant _
    cases hgrant
    decide
  · intro _ grant hgrant
    cases hgrant
    decide

/-- **A permit after expiry.**  The grant expires at 100; the second attempt is reserved at 200. -/
theorem not_lapseLaw_after_expiry :
    ¬ LapseLaw ⟨pilotDb, fun _ : Fin 1 => pilotPort⟩ (pilotActions 200) := by
  intro h
  obtain ⟨grant, row, hgrant, hrow, hattempt, htime⟩ := h.inTime _
    (List.mem_cons_of_mem _ (List.mem_cons_self ..)) _ _ rfl rfl
  cases hgrant
  have hstamp : ∀ row ∈ consumptionsOf 1
      (finish System.act ⟨pilotDb, fun _ : Fin 1 => pilotPort⟩ (pilotActions 200)).db,
      row.requestAttemptId = 22 → ¬ row.reservedAt < 100 := by decide
  exact hstamp row hrow hattempt htime

end StockResearch.LiveEvidence
