import StockResearch.LiveEvidence.Database

/-!
# Authorization: the event machine and the consumption ledger

`domain/live_evidence/authorization.py` and the three repository functions that apply it under the
grant's row lock.

* `AuthorizationStateMachine.transition` and `replay` give an event list its state.
* `AuthorizationConsumption.reserve` and `settle` are the pure checks on one consumption.
* `reserveConsumption`, `settleConsumption` and `consumeAuthorization` are the transactions.

Each transaction has one inversion lemma (`…_ok`) that says everything an accepted call has checked
and written.  The laws further up never open a transaction body again.
-/

namespace StockResearch.LiveEvidence

open Txn

/-! ## The event machine -/

namespace AuthorizationStateMachine

/-- `_TERMINAL_STATES` -/
def isTerminal : LiveAuthorizationState → Bool
  | .consumed | .expired | .revoked | .cancelled => true
  | .draft | .approved | .active => false

def transitions :
    LiveAuthorizationState → LiveAuthorizationEventType → Option LiveAuthorizationState
  | .draft, .approve => some .approved
  | .draft, .cancel => some .cancelled
  | .draft, .expire => some .expired
  | .approved, .activate => some .active
  | .approved, .cancel => some .cancelled
  | .approved, .expire => some .expired
  | .approved, .revoke => some .revoked
  | .active, .consume => some .consumed
  | .active, .expire => some .expired
  | .active, .revoke => some .revoked
  | _, _ => none

def transition (current : LiveAuthorizationState) (event : LiveAuthorizationEventType) :
    Except Raised LiveAuthorizationState :=
  if isTerminal current then .error (.validation "AUTH_TERMINAL_IMMUTABLE")
  else
    match transitions current event with
    | none => .error (.validation "AUTH_TRANSITION_INVALID")
    | some next => .ok next

/-- The loop of `replay`, from the state reached so far. -/
def replayFrom (state : LiveAuthorizationState) :
    List LiveAuthorizationEventType → Except Raised LiveAuthorizationState
  | [] => .ok state
  | event :: events => do
      let next ← transition state event
      replayFrom next events

def replay (events : List LiveAuthorizationEventType) : Except Raised LiveAuthorizationState :=
  replayFrom .draft events

lemma replayFrom_append (state : LiveAuthorizationState)
    (events : List LiveAuthorizationEventType) (event : LiveAuthorizationEventType) :
    replayFrom state (events ++ [event]) =
      replayFrom state events >>= fun s => transition s event := by
  induction events generalizing state with
  | nil =>
      change (transition state event >>= fun next => .ok next) = transition state event
      cases transition state event <;> rfl
  | cons e es ih =>
      simp only [List.cons_append, replayFrom]
      cases transition state e with
      | error err => rfl
      | ok next => exact ih next

end AuthorizationStateMachine

/-! ## One consumption -/

/-- `Field(ge=1, le=52_428_800)` on reserved bytes. -/
def reservedBytesBound (n : Nat) : Prop := 1 ≤ n ∧ n ≤ 52428800

instance : DecidablePred reservedBytesBound := fun _ => inferInstanceAs (Decidable (_ ∧ _))

structure ConsumptionReservationRequest where
  authorizationId : Uuid
  requestAttemptId : Uuid
  reservedBytes : Nat
  reservedAt : Timestamp
  bounded : reservedBytesBound reservedBytes

structure ConsumptionReservation extends ConsumptionReservationRequest where
  id : Uuid
  state : ConsumptionState
  isReserved : state = .reserved

structure ConsumptionSettlementRequest where
  authorizationId : Uuid
  requestAttemptId : Uuid
  actualBytes : Nat
  socketOpened : Bool
  state : ConsumptionState
  settledAt : Timestamp
  bounded : actualBytes ≤ 52428800
  isTerminal : state = .settled ∨ state = .abandoned

structure LiveAuthorizationConsumptionRecord where
  id : Uuid
  authorizationId : Uuid
  requestAttemptId : Uuid
  reservedBytes : Nat
  actualBytes : Nat
  socketOpened : Bool
  state : ConsumptionState
  reservedAt : Timestamp
  settledAt : Timestamp
deriving DecidableEq, Repr

/-- The schema check that reads a stored row back as a reservation. -/
def ConsumptionReservation.ofRow (row : ConsumptionRow) : Except Raised ConsumptionReservation :=
  if h : reservedBytesBound row.reservedBytes ∧ row.state = .reserved then
    .ok { authorizationId := row.authorizationId, requestAttemptId := row.requestAttemptId,
          reservedBytes := row.reservedBytes, reservedAt := row.reservedAt, bounded := h.1,
          id := row.id, state := row.state, isReserved := h.2 }
  else .error (.value "reservation state must be RESERVED")

namespace AuthorizationConsumption

def reserve (request : ConsumptionReservationRequest) (existing : Option ConsumptionReservation)
    (newId : Uuid) : Except Raised ConsumptionReservation :=
  match existing with
  | some existing =>
      if existing.authorizationId = request.authorizationId ∧
          existing.requestAttemptId = request.requestAttemptId ∧
          existing.reservedBytes = request.reservedBytes ∧
          existing.reservedAt = request.reservedAt then .ok existing
      else .error (.validation "AUTH_CONSUMPTION_DUPLICATE")
  | none => .ok { request with id := newId, state := .reserved, isReserved := rfl }

def settle (reservation : ConsumptionReservation) (settlement : ConsumptionSettlementRequest) :
    Except Raised LiveAuthorizationConsumptionRecord :=
  let identityMatches := reservation.authorizationId = settlement.authorizationId ∧
    reservation.requestAttemptId = settlement.requestAttemptId
  let validAccounting := settlement.actualBytes ≤ reservation.reservedBytes ∧
    reservation.reservedAt ≤ settlement.settledAt
  let validAbandonment := settlement.state ≠ .abandoned ∨
    (settlement.socketOpened = false ∧ settlement.actualBytes = 0)
  let validSettlement := settlement.state ≠ .settled ∨ settlement.socketOpened = true
  if identityMatches ∧ validAccounting ∧ validAbandonment ∧ validSettlement then
    .ok { id := reservation.id, authorizationId := reservation.authorizationId,
          requestAttemptId := reservation.requestAttemptId,
          reservedBytes := reservation.reservedBytes, actualBytes := settlement.actualBytes,
          socketOpened := settlement.socketOpened, state := settlement.state,
          reservedAt := reservation.reservedAt, settledAt := settlement.settledAt }
  else .error (.validation "AUTH_RESERVATION_INVALID")

end AuthorizationConsumption

/-! ## Reserving under the grant lock -/

/-- The consumptions of a grant. -/
def consumptionsOf (authorizationId : Uuid) (db : Db) : List ConsumptionRow :=
  db.consumptions.select fun r => r.authorizationId = authorizationId

def grantOf (authorizationId : Uuid) (db : Db) : Option GrantRow :=
  db.grants.selectOne fun r => r.id = authorizationId

/-- The consumption of an attempt on a grant. -/
def consumptionOf (authorizationId requestAttemptId : Uuid) (db : Db) : Option ConsumptionRow :=
  db.consumptions.selectOne fun r =>
    r.authorizationId = authorizationId ∧ r.requestAttemptId = requestAttemptId

/-- The row that a new reservation is stored as. -/
def ConsumptionReservation.row (reservation : ConsumptionReservation) : ConsumptionRow where
  id := reservation.id
  authorizationId := reservation.authorizationId
  requestAttemptId := reservation.requestAttemptId
  reservedBytes := reservation.reservedBytes
  actualBytes := none
  socketOpened := none
  state := reservation.state
  reservedAt := reservation.reservedAt
  settledAt := none

/-- `reserve_consumption`; `newId` is the `uuid4()` a new reservation draws. -/
def reserveConsumption (request : ConsumptionReservationRequest) (newId : Uuid) :
    DbTransaction ConsumptionReservation := do
  let grant ← query (grantOf request.authorizationId)
  let grant ← fetch grant (.validation "AUTH_RESERVATION_INVALID")
  let existing ← query (consumptionOf request.authorizationId request.requestAttemptId)
  match existing with
  | some row => do
      let existing ← lift (ConsumptionReservation.ofRow row)
      lift (AuthorizationConsumption.reserve request (some existing) newId)
  | none => do
      let consumed ← query fun db => (consumptionsOf request.authorizationId db).length
      raiseIf (grant.requestLimit ≤ consumed) (.validation "AUTH_REQUEST_BUDGET_EXCEEDED")
      let reservation ← lift (AuthorizationConsumption.reserve request none newId)
      insertInto Db.consumptions (fun db t => { db with consumptions := t }) reservation.row
      pure reservation

/-- **What an accepted reservation has done.**  Either the same reservation was already there and
nothing was written, or the request budget had room and one `RESERVED` row was added. -/
theorem reserveConsumption_ok {request : ConsumptionReservationRequest} {newId : Uuid} {db : Db}
    {r : ConsumptionReservation × Db} (h : reserveConsumption request newId db = .ok r) :
    ∃ grant, grantOf request.authorizationId db = some grant ∧
      ((∃ row, consumptionOf request.authorizationId request.requestAttemptId db = some row ∧
          row.state = .reserved ∧ row.reservedBytes = request.reservedBytes ∧
          row.reservedAt = request.reservedAt ∧ r.2 = db) ∨
        (∃ row t, consumptionOf request.authorizationId request.requestAttemptId db = none ∧
          (consumptionsOf request.authorizationId db).length < grant.requestLimit ∧
          row = { id := newId, authorizationId := request.authorizationId,
                  requestAttemptId := request.requestAttemptId,
                  reservedBytes := request.reservedBytes, actualBytes := none,
                  socketOpened := none, state := .reserved, reservedAt := request.reservedAt,
                  settledAt := none } ∧
          db.consumptions.insert row = some t ∧ r.2 = { db with consumptions := t })) := by
  simp only [reserveConsumption, query_bind, fetch_bind_ok] at h
  obtain ⟨grant, hgrant, h⟩ := h
  refine ⟨grant, hgrant, ?_⟩
  cases hrow : consumptionOf request.authorizationId request.requestAttemptId db with
  | some row =>
      left
      simp only [hrow, lift_bind_ok, lift_ok] at h
      obtain ⟨existing, hexisting, hreserve, hdb⟩ := h
      unfold ConsumptionReservation.ofRow at hexisting
      split at hexisting
      · rename_i hvalid
        cases hexisting
        simp only [AuthorizationConsumption.reserve] at hreserve
        split at hreserve
        · rename_i hsame
          exact ⟨row, rfl, hvalid.2, hsame.2.2.1, hsame.2.2.2, hdb⟩
        · cases hreserve
      · cases hexisting
  | none =>
      right
      simp only [hrow, query_bind, raiseIf_bind_ok, lift_bind_ok, insertInto_bind_ok] at h
      obtain ⟨hbudget, reservation, hreservation, t, ht, h⟩ := h
      cases hreservation
      cases h
      exact ⟨_, t, rfl, by omega, rfl, ht, rfl⟩

/-! ## Settling under the grant lock -/

/-- `coalesce(sum(actual_bytes), 0)` over the rows in a state. -/
def sumActualBytes (rows : List ConsumptionRow) : Nat :=
  (rows.map fun r => r.actualBytes.getD 0).sum

/-- The bytes that the settled consumptions of a grant have used. -/
def settledBytes (authorizationId : Uuid) (db : Db) : Nat :=
  sumActualBytes ((consumptionsOf authorizationId db).filter fun r => r.state = .settled)

/-- `_consumption_record` of a row that has been settled. -/
def consumptionRecord (row : ConsumptionRow) : Except Raised LiveAuthorizationConsumptionRecord :=
  match row.actualBytes, row.socketOpened, row.settledAt with
  | some actualBytes, some socketOpened, some settledAt =>
      .ok { id := row.id, authorizationId := row.authorizationId,
            requestAttemptId := row.requestAttemptId, reservedBytes := row.reservedBytes,
            actualBytes := actualBytes, socketOpened := socketOpened, state := row.state,
            reservedAt := row.reservedAt, settledAt := settledAt }
  | _, _, _ => .error (.value "settled consumption is incomplete")

/-- The row after its settlement. -/
def LiveAuthorizationConsumptionRecord.apply (record : LiveAuthorizationConsumptionRecord)
    (row : ConsumptionRow) : ConsumptionRow :=
  { row with actualBytes := some record.actualBytes, socketOpened := some record.socketOpened,
             state := record.state, settledAt := some record.settledAt }

/-- A settlement that only repeats what the row already says. -/
def ConsumptionSettlementRequest.repeats (settlement : ConsumptionSettlementRequest)
    (row : ConsumptionRow) : Prop :=
  row.actualBytes = some settlement.actualBytes ∧
    row.socketOpened = some settlement.socketOpened ∧ row.state = settlement.state ∧
    row.settledAt = some settlement.settledAt

instance (settlement : ConsumptionSettlementRequest) : DecidablePred settlement.repeats :=
  fun _ => inferInstanceAs (Decidable (_ ∧ _))

def settleConsumption (settlement : ConsumptionSettlementRequest) :
    DbTransaction LiveAuthorizationConsumptionRecord := do
  let grant ← query (grantOf settlement.authorizationId)
  let grant ← fetch grant (.validation "AUTH_RESERVATION_INVALID")
  let row ← query (consumptionOf settlement.authorizationId settlement.requestAttemptId)
  let row ← fetch row (.validation "AUTH_RESERVATION_INVALID")
  if row.state ≠ .reserved then
    if settlement.repeats row then lift (consumptionRecord row)
    else throw (.validation "AUTH_SETTLEMENT_CONFLICT")
  else do
    let consumed ← query (settledBytes settlement.authorizationId)
    raiseIf (grant.byteLimit < consumed + settlement.actualBytes)
      (.validation "AUTH_BYTE_BUDGET_EXCEEDED")
    let reservation ← lift (ConsumptionReservation.ofRow row)
    let record ← lift (AuthorizationConsumption.settle reservation settlement)
    updateIn Db.consumptions (fun db t => { db with consumptions := t })
      (fun r => r.id = record.id) record.apply
    pure record

/-- What `AuthorizationConsumption.settle` checks of a row and a settlement of it. -/
structure ValidSettlement (row : ConsumptionRow) (settlement : ConsumptionSettlementRequest) :
    Prop where
  bounded : reservedBytesBound row.reservedBytes
  actual : settlement.actualBytes ≤ row.reservedBytes
  time : row.reservedAt ≤ settlement.settledAt
  abandonment : settlement.state ≠ .abandoned ∨
    (settlement.socketOpened = false ∧ settlement.actualBytes = 0)
  settlement : settlement.state ≠ .settled ∨ settlement.socketOpened = true

/-- The settled row. -/
def ConsumptionSettlementRequest.apply (settlement : ConsumptionSettlementRequest)
    (row : ConsumptionRow) : ConsumptionRow :=
  { row with actualBytes := some settlement.actualBytes,
             socketOpened := some settlement.socketOpened, state := settlement.state,
             settledAt := some settlement.settledAt }

def ConsumptionSettlementRequest.record (settlement : ConsumptionSettlementRequest)
    (row : ConsumptionRow) : LiveAuthorizationConsumptionRecord where
  id := row.id
  authorizationId := row.authorizationId
  requestAttemptId := row.requestAttemptId
  reservedBytes := row.reservedBytes
  actualBytes := settlement.actualBytes
  socketOpened := settlement.socketOpened
  state := settlement.state
  reservedAt := row.reservedAt
  settledAt := settlement.settledAt

lemma ConsumptionReservation.ofRow_reserved {row : ConsumptionRow}
    (hbound : reservedBytesBound row.reservedBytes) (hreserved : row.state = .reserved) :
    ConsumptionReservation.ofRow row = .ok
      { authorizationId := row.authorizationId, requestAttemptId := row.requestAttemptId,
        reservedBytes := row.reservedBytes, reservedAt := row.reservedAt, bounded := hbound,
        id := row.id, state := row.state, isReserved := hreserved } :=
  dif_pos ⟨hbound, hreserved⟩

lemma mem_of_consumptionOf {a q : Uuid} {db : Db} {row : ConsumptionRow}
    (h : consumptionOf a q db = some row) :
    row ∈ db.consumptions.rows ∧ row.authorizationId = a ∧ row.requestAttemptId = q := by
  obtain ⟨hmem, hp⟩ := Table.mem_of_selectOne h
  exact ⟨hmem, by simpa using hp⟩

/-- The stored row of an attempt is the one that a lookup finds. -/
lemma consumptionOf_eq_some {a q : Uuid} {db : Db} {row : ConsumptionRow}
    (hmem : row ∈ db.consumptions.rows) (ha : row.authorizationId = a)
    (hq : row.requestAttemptId = q) : consumptionOf a q db = some row := by
  cases hfind : consumptionOf a q db with
  | none =>
      have := Table.selectOne_eq_none.mp hfind row hmem
      simp [ha, hq] at this
  | some row' =>
      obtain ⟨hmem', ha', hq'⟩ := mem_of_consumptionOf hfind
      have hclash : Schema.clash row' row := .inr ⟨by rw [ha', ha], by rw [hq', hq]⟩
      rw [Table.eq_of_clash hmem' hmem hclash]

lemma consumptionRecord_repeated {settlement : ConsumptionSettlementRequest}
    {row : ConsumptionRow} (h : settlement.repeats row) :
    consumptionRecord row = .ok (settlement.record row) := by
  obtain ⟨hactual, hsocket, hstate, hsettled⟩ := h
  simp [consumptionRecord, ConsumptionSettlementRequest.record, hactual, hsocket, hstate, hsettled]

/-- **What an accepted settlement has done.**  Either it repeats a settlement and writes nothing,
or it found the row `RESERVED`, the byte budget had room and that one row was settled. -/
theorem settleConsumption_ok {settlement : ConsumptionSettlementRequest} {db : Db}
    {r : LiveAuthorizationConsumptionRecord × Db} (h : settleConsumption settlement db = .ok r) :
    ∃ grant row, grantOf settlement.authorizationId db = some grant ∧
      consumptionOf settlement.authorizationId settlement.requestAttemptId db = some row ∧
      r.1 = settlement.record row ∧
      ((row.state ≠ .reserved ∧ settlement.repeats row ∧ r.2 = db) ∨
        (row.state = .reserved ∧
          settledBytes settlement.authorizationId db + settlement.actualBytes ≤ grant.byteLimit ∧
          ValidSettlement row settlement ∧
          ∃ t, db.consumptions.update (fun c => c.id = row.id) settlement.apply = some t ∧
            r.2 = { db with consumptions := t })) := by
  simp only [settleConsumption, query_bind, fetch_bind_ok] at h
  obtain ⟨grant, hgrant, row, hrow, h⟩ := h
  refine ⟨grant, row, hgrant, hrow, ?_⟩
  split at h
  · split at h
    · rename_i hrepeats
      rw [lift_ok, consumptionRecord_repeated hrepeats, Except.ok.injEq] at h
      exact ⟨h.1.symm, .inl ⟨‹_›, hrepeats, h.2⟩⟩
    · cases h
  · simp only [query_bind, raiseIf_bind_ok, lift_bind_ok, updateIn_bind_ok] at h
    obtain ⟨hbudget, reservation, hreservation, record, hrecord, t, ht, h⟩ := h
    unfold ConsumptionReservation.ofRow at hreservation
    split at hreservation
    · rename_i hvalid
      cases hreservation
      simp only [AuthorizationConsumption.settle] at hrecord
      split at hrecord
      · rename_i hchecks
        cases hrecord
        cases h
        obtain ⟨-, haccounting, habandonment, hsettlement⟩ := hchecks
        exact ⟨rfl, .inr ⟨hvalid.2, by omega, ⟨hvalid.1, haccounting.1, haccounting.2,
          habandonment, hsettlement⟩, t, ht, rfl⟩⟩
      · cases hrecord
    · cases hreservation

/-- **When a settlement of a reserved row goes through.** -/
theorem settleConsumption_accepts {settlement : ConsumptionSettlementRequest} {db : Db}
    {grant : GrantRow} {row : ConsumptionRow}
    (hgrant : grantOf settlement.authorizationId db = some grant)
    (hrow : consumptionOf settlement.authorizationId settlement.requestAttemptId db = some row)
    (hreserved : row.state = .reserved)
    (hbudget : settledBytes settlement.authorizationId db + settlement.actualBytes ≤
      grant.byteLimit)
    (hvalid : ValidSettlement row settlement) :
    ∃ r, settleConsumption settlement db = .ok r := by
  obtain ⟨hmem, ha, hq⟩ := mem_of_consumptionOf hrow
  -- settling touches no key column, so the update cannot break a constraint
  obtain ⟨t, ht⟩ : ∃ t, db.consumptions.update (fun c => c.id = row.id) settlement.apply = some t :=
    Table.update_isSome
      (fun a _ b _ hclash => by
        revert hclash
        simp only [Schema.clash]
        split <;> split <;> exact id)
      (fun c hc _ => db.consumptions.checked c hc)
  have hreservation := ConsumptionReservation.ofRow_reserved hvalid.bounded hreserved
  have hchecks := And.intro (And.intro ha hq) (And.intro (And.intro hvalid.actual hvalid.time)
    (And.intro hvalid.abandonment hvalid.settlement))
  refine ⟨(settlement.record row, { db with consumptions := t }), ?_⟩
  simp only [settleConsumption, query_bind, fetch_bind_ok]
  refine ⟨grant, hgrant, row, hrow, ?_⟩
  rw [if_neg (not_not.mpr hreserved)]
  simp only [query_bind, raiseIf_bind_ok, lift_bind_ok, updateIn_bind_ok]
  exact ⟨by omega, _, hreservation, _, if_pos hchecks, t, ht, rfl⟩

/-- A settlement that a settled row already says is answered and writes nothing. -/
theorem settleConsumption_repeated {settlement : ConsumptionSettlementRequest} {db : Db}
    {grant : GrantRow} {row : ConsumptionRow}
    (hgrant : grantOf settlement.authorizationId db = some grant)
    (hrow : consumptionOf settlement.authorizationId settlement.requestAttemptId db = some row)
    (hsettled : row.state ≠ .reserved) (hrepeats : settlement.repeats row) :
    settleConsumption settlement db = .ok (settlement.record row, db) := by
  simp only [settleConsumption, query_bind, fetch_bind_ok]
  refine ⟨grant, hgrant, row, hrow, ?_⟩
  rw [if_pos hsettled, if_pos hrepeats, lift_ok, consumptionRecord_repeated hrepeats]
  exact ⟨rfl, rfl⟩

/-! ## Consuming the authorization -/

/-- The events of a grant, in the order of their sequence numbers. -/
def eventsOf (authorizationId : Uuid) (db : Db) : List EventRow :=
  (db.events.select fun r => r.authorizationId = authorizationId).insertionSort
    fun a b => a.sequence ≤ b.sequence

/-- The state that a grant's stored events replay to. -/
def replayOf (authorizationId : Uuid) (db : Db) : Except Raised LiveAuthorizationState :=
  AuthorizationStateMachine.replay ((eventsOf authorizationId db).map EventRow.eventType)

/-- `consume_authorization`; `eventId` is the `uuid4()` of the new event. -/
def consumeAuthorization (authorizationId eventId : Uuid) :
    DbTransaction LiveAuthorizationState := do
  let grant ← query (grantOf authorizationId)
  let _ ← fetch grant (.validation "AUTH_RESERVATION_INVALID")
  let events ← query (eventsOf authorizationId)
  let state ← lift (AuthorizationStateMachine.replay (events.map EventRow.eventType))
  raiseIf (state = .consumed) (.validation "AUTHORIZATION_ALREADY_CONSUMED")
  raiseIf (state ≠ .active) (.validation "AUTH_RESERVATION_INVALID")
  insertInto Db.events (fun db t => { db with events := t })
    { id := eventId, authorizationId := authorizationId, sequence := events.length + 1,
      eventType := .consume }
  lift (AuthorizationStateMachine.transition state .consume)

/-- **What an accepted consumption has done.**  The events replayed to `ACTIVE` and one `CONSUME`
event was added behind them. -/
theorem consumeAuthorization_ok {a eventId : Uuid} {db : Db} {r : LiveAuthorizationState × Db}
    (h : consumeAuthorization a eventId db = .ok r) :
    (∃ grant, grantOf a db = some grant) ∧ replayOf a db = .ok .active ∧
      ∃ t, db.events.insert { id := eventId, authorizationId := a,
                              sequence := (eventsOf a db).length + 1, eventType := .consume } =
          some t ∧ r.2 = { db with events := t } := by
  simp only [consumeAuthorization, query_bind, fetch_bind_ok, lift_bind_ok, raiseIf_bind_ok,
    insertInto_bind_ok, lift_ok] at h
  obtain ⟨grant, hgrant, state, hreplay, -, hactive, t, ht, -, hdb⟩ := h
  have hstate : state = .active := not_not.mp hactive
  subst hstate
  exact ⟨⟨grant, hgrant⟩, hreplay, t, ht, hdb⟩

end StockResearch.LiveEvidence
