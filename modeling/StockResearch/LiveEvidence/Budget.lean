import StockResearch.LiveEvidence.Authorization
import Mathlib.Algebra.Order.BigOperators.Group.List

/-!
# The byte budget of a grant

A run of `reserve_consumption` and `settle_consumption` calls on one grant.  The request limit is
checked when a consumption is reserved; the byte limit is checked only when one is settled.

* Whatever the calls, the settled bytes stay within the byte limit, a settled consumption never
  changes again, and repeating a settlement changes nothing (`ledger_withinLimit`,
  `ledger_settledStays`, `ledger_repeats`).
* A reservation is an entitlement only when it still fits: `Covered` says that the settled and the
  outstanding bytes together fit the limit.  Settling keeps a covered grant covered; reserving does
  so exactly when the new reservation fits too.  `budgetLaw_of_fits` is the law over whole runs, and
  `not_budgetLaw_overcommitted` is a grant whose first reservation can never be settled in full.
-/

namespace StockResearch.LiveEvidence

open Txn

/-! ## Calls -/

inductive LedgerCall where
  | reserve (request : ConsumptionReservationRequest) (newId : Uuid)
  | settle (settlement : ConsumptionSettlementRequest)

inductive LedgerAnswer where
  | reserved (reservation : ConsumptionReservation)
  | settled (record : LiveAuthorizationConsumptionRecord)

def LedgerCall.authorizationId : LedgerCall → Uuid
  | .reserve request _ => request.authorizationId
  | .settle settlement => settlement.authorizationId

def LedgerCall.run : LedgerCall → DbTransaction LedgerAnswer
  | .reserve request newId => do
      let reservation ← reserveConsumption request newId
      pure (.reserved reservation)
  | .settle settlement => do
      let record ← settleConsumption settlement
      pure (.settled record)

/-- One call, committed or rolled back. -/
def ledgerStep (db : Db) (call : LedgerCall) : Except Raised LedgerAnswer × Db :=
  commit call.run db

lemma run_reserve_ok {request : ConsumptionReservationRequest} {newId : Uuid} {db : Db}
    {r : LedgerAnswer × Db} (h : (LedgerCall.reserve request newId).run db = .ok r) :
    ∃ reservation, reserveConsumption request newId db = .ok (reservation, r.2) := by
  simp only [LedgerCall.run, bind_ok] at h
  obtain ⟨reservation, db', hreserve, h⟩ := h
  cases h
  exact ⟨reservation, hreserve⟩

lemma run_settle_ok {settlement : ConsumptionSettlementRequest} {db : Db}
    {r : LedgerAnswer × Db} (h : (LedgerCall.settle settlement).run db = .ok r) :
    ∃ record, settleConsumption settlement db = .ok (record, r.2) ∧ r.1 = .settled record := by
  simp only [LedgerCall.run, bind_ok] at h
  obtain ⟨record, db', hsettle, h⟩ := h
  cases h
  exact ⟨record, hsettle, rfl⟩

lemma run_settle_of_ok {settlement : ConsumptionSettlementRequest} {db db' : Db}
    {record : LiveAuthorizationConsumptionRecord}
    (h : settleConsumption settlement db = .ok (record, db')) :
    (LedgerCall.settle settlement).run db = .ok (.settled record, db') := by
  simp only [LedgerCall.run, bind_ok]
  exact ⟨record, db', h, rfl⟩

/-! ## Settled and outstanding bytes -/

/-- The bytes that the open reservations of a grant may still use. -/
def outstandingBytes (authorizationId : Uuid) (db : Db) : Nat :=
  (((consumptionsOf authorizationId db).filter fun r => r.state = .reserved).map
    fun r => r.reservedBytes).sum

/-- A row's share of the settled bytes of a grant. -/
def settledShare (a : Uuid) (r : ConsumptionRow) : Nat :=
  if r.authorizationId = a ∧ r.state = .settled then r.actualBytes.getD 0 else 0

/-- A row's share of the outstanding bytes of a grant. -/
def outstandingShare (a : Uuid) (r : ConsumptionRow) : Nat :=
  if r.authorizationId = a ∧ r.state = .reserved then r.reservedBytes else 0

lemma settledBytes_eq_total (a : Uuid) (db : Db) :
    settledBytes a db = db.consumptions.total (settledShare a) := by
  unfold settledBytes sumActualBytes consumptionsOf Table.select settledShare
  rw [List.filter_filter]
  have h := db.consumptions.sum_select
    (fun r => decide (r.state = .settled) && decide (r.authorizationId = a))
    (fun r => r.actualBytes.getD 0)
  simp only [Bool.and_eq_true, decide_eq_true_eq, and_comm] at h
  simpa [Table.select, and_comm, Bool.and_comm] using h

lemma outstandingBytes_eq_total (a : Uuid) (db : Db) :
    outstandingBytes a db = db.consumptions.total (outstandingShare a) := by
  unfold outstandingBytes consumptionsOf Table.select outstandingShare
  rw [List.filter_filter]
  have h := db.consumptions.sum_select
    (fun r => decide (r.state = .reserved) && decide (r.authorizationId = a))
    (fun r => r.reservedBytes)
  simpa [Table.select, and_comm, Bool.and_comm] using h

lemma clash_of_id (row a b : ConsumptionRow) (ha : decide (a.id = row.id) = true)
    (hb : decide (b.id = row.id) = true) : Schema.clash a b :=
  .inl (by rw [of_decide_eq_true ha, of_decide_eq_true hb])

/-- A new reservation adds to the outstanding bytes and to nothing else. -/
lemma reserved_totals {a : Uuid} {db : Db} {t : Table ConsumptionRow} {row : ConsumptionRow}
    (hrow : row.state = .reserved) (ha : row.authorizationId = a)
    (h : db.consumptions.insert row = some t) :
    settledBytes a { db with consumptions := t } = settledBytes a db ∧
      outstandingBytes a { db with consumptions := t } =
        outstandingBytes a db + row.reservedBytes := by
  simp only [settledBytes_eq_total, outstandingBytes_eq_total, Table.total_insert h]
  simp [settledShare, outstandingShare, hrow, ha]

/-- A settlement moves its row from the outstanding to the settled bytes. -/
lemma settled_totals {a : Uuid} {db : Db} {t : Table ConsumptionRow} {row : ConsumptionRow}
    {settlement : ConsumptionSettlementRequest} (hmem : row ∈ db.consumptions.rows)
    (hrow : row.state = .reserved) (ha : row.authorizationId = a)
    (h : db.consumptions.update (fun c => c.id = row.id) settlement.apply = some t) :
    settledBytes a { db with consumptions := t } ≤ settledBytes a db + settlement.actualBytes ∧
      outstandingBytes a { db with consumptions := t } + row.reservedBytes =
        outstandingBytes a db := by
  have hkey := clash_of_id row
  have hsettled := Table.total_update h (settledShare a) hkey hmem (by simp)
  have houtstanding := Table.total_update h (outstandingShare a) hkey hmem (by simp)
  simp only [settledBytes_eq_total, outstandingBytes_eq_total]
  have hbefore : settledShare a row = 0 := by simp [settledShare, hrow]
  have hafter : settledShare a (settlement.apply row) ≤ settlement.actualBytes := by
    unfold settledShare ConsumptionSettlementRequest.apply
    split <;> simp
  have hopen : outstandingShare a row = row.reservedBytes := by simp [outstandingShare, hrow, ha]
  have hclosed : outstandingShare a (settlement.apply row) = 0 := by
    rcases settlement.isTerminal with hstate | hstate <;>
      simp [outstandingShare, ConsumptionSettlementRequest.apply, hstate]
  omega

/-! ## What every call preserves -/

lemma ledgerStep_grants (db : Db) (call : LedgerCall) :
    (ledgerStep db call).2.grants = db.grants := by
  refine commit_cases (P := fun db' : Db => db'.grants = db.grants) rfl ?_
  intro answer db' h
  cases call with
  | reserve request newId =>
      obtain ⟨reservation, h⟩ := run_reserve_ok h
      obtain ⟨grant, -, hcase⟩ := reserveConsumption_ok h
      rcases hcase with ⟨row, -, -, -, -, hdb⟩ | ⟨row, t, -, -, -, -, hdb⟩ <;> simp_all
  | settle settlement =>
      obtain ⟨record, h, -⟩ := run_settle_ok h
      obtain ⟨grant, row, -, -, -, hcase⟩ := settleConsumption_ok h
      rcases hcase with ⟨-, -, hdb⟩ | ⟨-, -, -, t, -, hdb⟩ <;> simp_all

lemma ledgerStep_grantOf (a : Uuid) (db : Db) (call : LedgerCall) :
    grantOf a (ledgerStep db call).2 = grantOf a db := by
  unfold grantOf
  rw [ledgerStep_grants]

/-- **A settled row is final.**  No call touches a row that is not `RESERVED`. -/
lemma ledgerStep_settled_mem {db : Db} {row : ConsumptionRow} (hmem : row ∈ db.consumptions.rows)
    (hrow : row.state ≠ .reserved) (call : LedgerCall) :
    row ∈ (ledgerStep db call).2.consumptions.rows := by
  refine commit_cases (P := fun db' : Db => row ∈ db'.consumptions.rows) hmem ?_
  intro answer db' h
  cases call with
  | reserve request newId =>
      obtain ⟨reservation, h⟩ := run_reserve_ok h
      obtain ⟨grant, -, hcase⟩ := reserveConsumption_ok h
      rcases hcase with ⟨existing, -, -, -, -, hdb⟩ | ⟨new, t, -, -, -, ht, hdb⟩
      · rw [show db' = db from hdb]; exact hmem
      · rw [show db' = { db with consumptions := t } from hdb]
        exact (Table.mem_insert ht).mpr (.inl hmem)
  | settle settlement =>
      obtain ⟨record, h, -⟩ := run_settle_ok h
      obtain ⟨grant, target, -, htarget, -, hcase⟩ := settleConsumption_ok h
      rcases hcase with ⟨-, -, hdb⟩ | ⟨hreserved, -, -, t, ht, hdb⟩
      · rw [show db' = db from hdb]; exact hmem
      · rw [show db' = { db with consumptions := t } from hdb, Table.rows_update ht]
        have hother : row.id ≠ target.id := by
          intro hid
          have heq := Table.eq_of_clash hmem (mem_of_consumptionOf htarget).1 (.inl hid)
          exact hrow (by rw [heq, hreserved])
        exact List.mem_map.mpr ⟨row, hmem, by simp [hother]⟩

/-- The settled bytes of a grant fit its limit. -/
def WithinLimit (a : Uuid) (db : Db) : Prop :=
  ∀ grant, grantOf a db = some grant → settledBytes a db ≤ grant.byteLimit

/-- The settled and the outstanding bytes of a grant together fit its limit. -/
def Covered (a : Uuid) (db : Db) : Prop :=
  ∀ grant, grantOf a db = some grant →
    settledBytes a db + outstandingBytes a db ≤ grant.byteLimit

lemma Covered.withinLimit {a : Uuid} {db : Db} (h : Covered a db) : WithinLimit a db :=
  fun grant hgrant => le_trans (Nat.le_add_right _ _) (h grant hgrant)

/-- A reservation, if it is a new one, still fits the byte limit. -/
def Fits (a : Uuid) (db : Db) : LedgerCall → Prop
  | .reserve request _ => consumptionOf a request.requestAttemptId db = none →
      ∀ grant, grantOf a db = some grant →
        settledBytes a db + outstandingBytes a db + request.reservedBytes ≤ grant.byteLimit
  | .settle _ => True

lemma ledgerStep_covered {a : Uuid} {db : Db} {call : LedgerCall}
    (hcall : call.authorizationId = a) (h : Covered a db) (hfits : Fits a db call) :
    Covered a (ledgerStep db call).2 := by
  intro grant hgrant
  rw [ledgerStep_grantOf] at hgrant
  refine commit_cases
    (P := fun db' : Db => settledBytes a db' + outstandingBytes a db' ≤ grant.byteLimit)
    (h grant hgrant) ?_
  intro answer db' hrun
  cases call with
  | reserve request newId =>
      have hcall : request.authorizationId = a := hcall
      obtain ⟨reservation, hrun⟩ := run_reserve_ok hrun
      obtain ⟨grant', -, hcase⟩ := reserveConsumption_ok hrun
      rcases hcase with ⟨row, -, -, -, -, hdb⟩ | ⟨row, t, hnone, -, hrow, ht, hdb⟩
      · rw [show db' = db from hdb]; exact h grant hgrant
      · rw [hcall] at hnone
        have htotals := reserved_totals (a := a) (by rw [hrow]) (by rw [hrow]; exact hcall) ht
        have hroom := hfits hnone grant hgrant
        rw [show db' = { db with consumptions := t } from hdb, htotals.1, htotals.2, hrow]
        dsimp only
        omega
  | settle settlement =>
      obtain ⟨record, hrun, -⟩ := run_settle_ok hrun
      obtain ⟨grant', row, -, hrow, -, hcase⟩ := settleConsumption_ok hrun
      obtain ⟨hmem, ha, -⟩ := mem_of_consumptionOf hrow
      rw [show settlement.authorizationId = a from hcall] at ha
      rcases hcase with ⟨-, -, hdb⟩ | ⟨hreserved, -, hvalid, t, ht, hdb⟩
      · rw [show db' = db from hdb]; exact h grant hgrant
      · have htotals := settled_totals hmem hreserved ha ht
        have hactual := hvalid.actual
        have hbefore := h grant hgrant
        rw [show db' = { db with consumptions := t } from hdb]
        omega

/-! ## Reservations as entitlements -/

/-- A settlement, with any number of bytes up to the reserved ones, of a reservation that is open
in `db`. -/
structure Settles (a : Uuid) (db : Db) (settlement : ConsumptionSettlementRequest) : Prop where
  grant : settlement.authorizationId = a
  state : settlement.state = .settled
  socket : settlement.socketOpened = true
  row : ∃ row, consumptionOf a settlement.requestAttemptId db = some row ∧ row.state = .reserved ∧
    settlement.actualBytes ≤ row.reservedBytes ∧ row.reservedAt ≤ settlement.settledAt

/-- Every open reservation can be settled with any number of bytes up to the reserved ones, all of
them together and in any order. -/
def Entitled (a : Uuid) (db : Db) : Prop :=
  ∀ settlements : List ConsumptionSettlementRequest,
    (settlements.map fun s => s.requestAttemptId).Nodup → (∀ s ∈ settlements, Settles a db s) →
      ∀ e ∈ trace ledgerStep db (settlements.map .settle), ∃ answer, e.outcome = .ok answer

lemma reservedBytes_le_outstanding {a q : Uuid} {db : Db} {row : ConsumptionRow}
    (h : consumptionOf a q db = some row) (hrow : row.state = .reserved) :
    row.reservedBytes ≤ outstandingBytes a db := by
  obtain ⟨hmem, ha, -⟩ := mem_of_consumptionOf h
  refine List.le_sum_of_mem (List.mem_map.mpr ⟨row, ?_, rfl⟩)
  rw [List.mem_filter, consumptionsOf, Table.mem_select]
  simp [hmem, ha, hrow]

/-- On a covered grant an open reservation can be settled. -/
lemma settles_accepted {a : Uuid} {db : Db} {grant : GrantRow}
    {settlement : ConsumptionSettlementRequest} (hgrant : grantOf a db = some grant)
    (hcovered : Covered a db) (h : Settles a db settlement) :
    ∃ answer, (ledgerStep db (.settle settlement)).1 = .ok answer := by
  obtain ⟨row, hrow, hreserved, hactual, htime⟩ := h.row
  have hroom := hcovered grant hgrant
  have hopen := reservedBytes_le_outstanding hrow hreserved
  have hlimit := (db.grants.checked grant (Table.mem_of_selectOne hgrant).1).2.2
  have hpos : 0 < row.reservedBytes := db.consumptions.checked row (mem_of_consumptionOf hrow).1
  have hvalid : ValidSettlement row settlement :=
    { bounded := ⟨hpos, by omega⟩, actual := hactual, time := htime,
      abandonment := .inl (by rw [h.state]; decide), settlement := .inr h.socket }
  have hgrant' := hgrant
  have hrow' := hrow
  rw [← h.grant] at hgrant' hrow'
  obtain ⟨⟨record, db'⟩, hok⟩ := settleConsumption_accepts hgrant' hrow' hreserved
    (by rw [h.grant]; omega) hvalid
  exact ⟨.settled record, by rw [ledgerStep, commit_of_ok (run_settle_of_ok hok)]⟩

/-- Settling one reservation leaves the others open. -/
lemma settles_after {a : Uuid} {db : Db} {s s' : ConsumptionSettlementRequest}
    (hne : s.requestAttemptId ≠ s'.requestAttemptId)
    (h : Settles a db s') : Settles a (ledgerStep db (.settle s)).2 s' := by
  obtain ⟨row, hrow, hreserved, hactual, htime⟩ := h.row
  obtain ⟨hmem, ha, hq⟩ := mem_of_consumptionOf hrow
  refine { h with row := ⟨row, consumptionOf_eq_some ?_ ha hq, hreserved, hactual, htime⟩ }
  refine commit_cases (P := fun db' : Db => row ∈ db'.consumptions.rows) hmem ?_
  intro answer db' hrun
  obtain ⟨record, hrun, -⟩ := run_settle_ok hrun
  obtain ⟨grant, target, -, htarget, -, hcase⟩ := settleConsumption_ok hrun
  obtain ⟨hmem', -, hq'⟩ := mem_of_consumptionOf htarget
  rcases hcase with ⟨-, -, hdb⟩ | ⟨-, -, -, t, ht, hdb⟩
  · rw [show db' = db from hdb]; exact hmem
  · rw [show db' = { db with consumptions := t } from hdb, Table.rows_update ht]
    have hother : row.id ≠ target.id := by
      intro hid
      have heq := Table.eq_of_clash hmem hmem' (.inl hid)
      exact hne (by rw [← hq, heq, hq'])
    exact List.mem_map.mpr ⟨row, hmem, by simp [hother]⟩

lemma Covered.entitled {a : Uuid} {db : Db} {grant : GrantRow} (hcovered : Covered a db)
    (hgrant : grantOf a db = some grant) : Entitled a db := by
  intro settlements
  induction settlements generalizing db with
  | nil => intro _ _ e he; simp [trace] at he
  | cons s settlements ih =>
      intro hnodup hsettles e he
      simp only [List.map_cons, List.nodup_cons, List.mem_map, not_exists, not_and] at hnodup
      have hs := hsettles s (List.mem_cons_self ..)
      rcases List.mem_cons.mp he with rfl | he
      · exact settles_accepted hgrant hcovered hs
      · have hcall : (LedgerCall.settle s).authorizationId = a := hs.grant
        refine ih (ledgerStep_covered hcall hcovered trivial)
          (by rw [ledgerStep_grantOf, hgrant]) hnodup.2 ?_ e he
        intro s' hs'
        exact settles_after (fun heq => hnodup.1 s' hs' heq.symm)
          (hsettles s' (List.mem_cons_of_mem _ hs'))

/-! ## The law over whole runs -/

/-- The byte budget of a grant, over a whole run of calls on it. -/
structure BudgetLaw (a : Uuid) (db : Db) (calls : List LedgerCall) : Prop where
  /-- the settled bytes never exceed the limit -/
  withinLimit : ∀ e ∈ trace ledgerStep db calls, WithinLimit a e.after
  /-- a settled consumption never changes again -/
  settledStays : ∀ e ∈ trace ledgerStep db calls, ∀ row ∈ consumptionsOf a e.before,
    row.state ≠ .reserved → row ∈ consumptionsOf a e.after
  /-- repeating a settlement, at once or later, is answered as before and changes nothing -/
  repeats : ∀ before s after answer, calls = before ++ .settle s :: after →
    (ledgerStep (finish ledgerStep db before) (.settle s)).1 = .ok answer →
      ledgerStep (finish ledgerStep db calls) (.settle s) =
        (.ok answer, finish ledgerStep db calls)
  /-- after every accepted reservation the open ones are entitlements -/
  entitled : ∀ e ∈ trace ledgerStep db calls, ∀ request newId answer,
    e.call = .reserve request newId → e.outcome = .ok answer → Entitled a e.after

/-- What an accepted settlement leaves for the calls after it. -/
def SettledAs (s : ConsumptionSettlementRequest) (record : LiveAuthorizationConsumptionRecord)
    (db : Db) : Prop :=
  (∃ grant, grantOf s.authorizationId db = some grant) ∧
    ∃ row ∈ db.consumptions.rows, row.authorizationId = s.authorizationId ∧
      row.requestAttemptId = s.requestAttemptId ∧ row.state ≠ .reserved ∧ s.repeats row ∧
      record = s.record row

lemma settledAs_of_ok {s : ConsumptionSettlementRequest} {db db' : Db}
    {record : LiveAuthorizationConsumptionRecord}
    (h : settleConsumption s db = .ok (record, db')) : SettledAs s record db' := by
  obtain ⟨grant, row, hgrant, hrow, hrecord, hcase⟩ := settleConsumption_ok h
  obtain ⟨hmem, ha, hq⟩ := mem_of_consumptionOf hrow
  rcases hcase with ⟨hstate, hrepeats, hdb⟩ | ⟨-, -, -, t, ht, hdb⟩
  · rw [show db' = db from hdb]
    exact ⟨⟨grant, hgrant⟩, row, hmem, ha, hq, hstate, hrepeats, hrecord⟩
  · rw [show db' = { db with consumptions := t } from hdb]
    refine ⟨⟨grant, hgrant⟩, s.apply row, ?_, ha, hq, ?_, ⟨rfl, rfl, rfl, rfl⟩, hrecord⟩
    · rw [Table.rows_update ht]
      exact List.mem_map.mpr ⟨row, hmem, by simp⟩
    · rcases s.isTerminal with hstate | hstate <;>
        simp [ConsumptionSettlementRequest.apply, hstate]

lemma SettledAs.step {s : ConsumptionSettlementRequest} {db : Db}
    {record : LiveAuthorizationConsumptionRecord} (h : SettledAs s record db) (call : LedgerCall) :
    SettledAs s record (ledgerStep db call).2 := by
  obtain ⟨⟨grant, hgrant⟩, row, hmem, ha, hq, hstate, hrest⟩ := h
  exact ⟨⟨grant, by rw [ledgerStep_grantOf, hgrant]⟩, row,
    ledgerStep_settled_mem hmem hstate call, ha, hq, hstate, hrest⟩

lemma SettledAs.answered {s : ConsumptionSettlementRequest} {db : Db}
    {record : LiveAuthorizationConsumptionRecord} (h : SettledAs s record db) :
    ledgerStep db (.settle s) = (.ok (.settled record), db) := by
  obtain ⟨⟨grant, hgrant⟩, row, hmem, ha, hq, hstate, hrepeats, rfl⟩ := h
  exact commit_of_ok (run_settle_of_ok (settleConsumption_repeated hgrant
    (consumptionOf_eq_some hmem ha hq) hstate hrepeats))

lemma ledger_repeats {db : Db} {before after : List LedgerCall} {s : ConsumptionSettlementRequest}
    {answer : LedgerAnswer}
    (h : (ledgerStep (finish ledgerStep db before) (.settle s)).1 = .ok answer) :
    ledgerStep (finish ledgerStep db (before ++ .settle s :: after)) (.settle s) =
      (.ok answer, finish ledgerStep db (before ++ .settle s :: after)) := by
  obtain ⟨record, hsettle, hanswer⟩ := run_settle_ok (commit_ok_iff.mp h)
  have hend : finish ledgerStep db (before ++ .settle s :: after) =
      finish ledgerStep (ledgerStep (finish ledgerStep db before) (.settle s)).2 after := by
    simp [finish]
  have hsettled : SettledAs s record (finish ledgerStep db (before ++ .settle s :: after)) := by
    rw [hend]
    exact finish_invariant (C := fun _ _ => True) (fun _ call h _ => h.step call)
      (settledAs_of_ok hsettle) (fun _ _ => trivial)
  rw [hsettled.answered, show answer = .settled record from hanswer]

/-- **The byte budget law.**  Over every run of calls on one grant that starts covered and whose
new reservations fit, the settled bytes stay within the limit, settled consumptions are final,
settlements can be repeated, and every open reservation is an entitlement. -/
theorem budgetLaw_of_fits (a : Uuid) (db : Db) (calls : List LedgerCall)
    (hcalls : ∀ call ∈ calls, call.authorizationId = a) (hstart : Covered a db)
    (hfits : ∀ e ∈ trace ledgerStep db calls, Fits a e.before e.call) : BudgetLaw a db calls := by
  have hcall : ∀ e ∈ trace ledgerStep db calls, e.call.authorizationId = a :=
    fun e he => hcalls _ (call_of_mem_trace he)
  have hcovered := trace_invariant (I := Covered a)
    (C := fun db call => call.authorizationId = a ∧ Fits a db call)
    (fun _ _ h hC => ledgerStep_covered hC.1 h hC.2) hstart
    (fun e he => ⟨hcall e he, hfits e he⟩)
  refine
    { withinLimit := fun e he => (hcovered e he).2.withinLimit
      settledStays := ?_
      repeats := fun before s after answer hsplit h => by subst hsplit; exact ledger_repeats h
      entitled := ?_ }
  · intro e he row hrow hstate
    rw [consumptionsOf, Table.mem_select] at hrow ⊢
    have hafter : e.after = (ledgerStep e.before e.call).2 := by rw [step_of_mem_trace he]
    rw [hafter]
    exact ⟨ledgerStep_settled_mem hrow.1 hstate e.call, hrow.2⟩
  · intro e he request newId answer hreserve hok
    have hstep := step_of_mem_trace he
    rw [hreserve] at hstep
    have hrun := commit_ok_iff.mp (show (ledgerStep e.before _).1 = .ok answer by rw [hstep, hok])
    obtain ⟨reservation, hrun⟩ := run_reserve_ok hrun
    obtain ⟨grant, hgrant, -⟩ := reserveConsumption_ok hrun
    have ha : (LedgerCall.reserve request newId).authorizationId = a := hreserve ▸ hcall e he
    have hafter : e.after = (ledgerStep e.before (.reserve request newId)).2 := by rw [hstep]
    have hstored : grantOf a e.after = some grant := by
      rw [hafter, ledgerStep_grantOf, ← ha]
      exact hgrant
    exact (hcovered e he).2.entitled hstored

/-- A grant of ten bytes with nothing reserved yet. -/
def tenByteGrant : Db :=
  { (∅ : Db) with
    grants := ⟨[{ id := 1, requestLimit := 4, byteLimit := 10, canonicalChecksum := "c",
                  scope := .null, expiresAt := 100 }], by simp, by decide⟩ }

/-- A reservation of `n` bytes on the ten-byte grant. -/
def reserveBytes (attempt : Uuid) (n : Nat) (h : reservedBytesBound n) : LedgerCall :=
  .reserve { authorizationId := 1, requestAttemptId := attempt, reservedBytes := n,
             reservedAt := 0, bounded := h } attempt

/-- A settlement with `n` bytes on the ten-byte grant. -/
def settleBytes (attempt : Uuid) (n : Nat) (h : n ≤ 52428800) : ConsumptionSettlementRequest where
  authorizationId := 1
  requestAttemptId := attempt
  actualBytes := n
  socketOpened := true
  state := .settled
  settledAt := 1
  bounded := h
  isTerminal := .inl rfl

theorem budgetLaw_of_fits_eight_of_ten :
    BudgetLaw 1 tenByteGrant
      [reserveBytes 2 8 (by decide), .settle (settleBytes 2 5 (by decide))] := by
  refine budgetLaw_of_fits 1 tenByteGrant _ (by decide) ?_ ?_
  · intro grant hgrant
    cases hgrant
    decide
  · refine List.forall_mem_cons.mpr ⟨?_, List.forall_mem_cons.mpr ⟨trivial, by simp [trace]⟩⟩
    intro _ grant hgrant
    cases hgrant
    decide

/-- **A reservation that no settlement can use in full.**  Twenty bytes are reserved on a grant of
ten: the reservation is accepted, and settling all of it is refused. -/
theorem not_budgetLaw_overcommitted :
    ¬ BudgetLaw 1 tenByteGrant [reserveBytes 2 20 (by decide)] := by
  intro h
  have hentitled := h.entitled _ (List.mem_cons_self ..) _ _ _ rfl rfl
  have hsettles : Settles 1 (ledgerStep tenByteGrant (reserveBytes 2 20 (by decide))).2
      (settleBytes 2 20 (by decide)) := by
    refine ⟨rfl, rfl, rfl, ?_⟩
    exact ⟨{ id := 2, authorizationId := 1, requestAttemptId := 2, reservedBytes := 20,
             actualBytes := none, socketOpened := none, state := .reserved, reservedAt := 0,
             settledAt := none }, rfl, rfl, by decide, by decide⟩
  obtain ⟨answer, hanswer⟩ := hentitled [settleBytes 2 20 (by decide)] (by simp)
    (by simpa using hsettles) _ (List.mem_cons_self ..)
  cases hanswer

end StockResearch.LiveEvidence
