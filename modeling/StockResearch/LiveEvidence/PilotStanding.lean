import StockResearch.LiveEvidence.Pilot

/-!
# Where a pilot run stands

The part of a run of the pilot that lives in the database: reservations that are open, settlements
that fit or do not, and the permits that have been handed out.

`settlement_of_fits` and `settlement_refused` say exactly when a settlement transaction goes
through and what it changes.  `Standing` collects what is true between two steps of a run, and
`Standing.reserve`, `Standing.hand` and `Standing.settle` say how the steps move it.
-/

namespace StockResearch.LiveEvidence

open Txn Program

/-- The consumption of a permit is `SETTLED` or `ABANDONED`. -/
def PermitSettled (a id : Uuid) (db : Db) : Prop :=
  ∃ row, consumptionOf a id db = some row ∧ row.state ≠ .reserved

/-- Every permit that was handed to the transport is settled, and one terminal record stands. -/
structure Accounted (a : Uuid) (s : PilotState) : Prop where
  settled : ∀ id ∈ s.handed, PermitSettled a id s.db
  terminal : s.terminals.length = 1

/-- A settlement of the reservation `r` goes through when `spent` bytes are settled already. -/
structure SettlementFits (limit spent : Nat) (r : Reservation) (attempt : SecPhysicalAttempt)
    (errorCode : Option String) : Prop where
  valid : attemptSettlementValid (attempt.response.map (·.statusCode)) errorCode
  reserved : attempt.responseBytes ≤ r.reservedBytes
  budget : spent + attempt.responseBytes ≤ limit
  time : r.reservedAt ≤ attempt.completedAt

/-- `settle_failure` of the attempt goes through. -/
def FailureFits (limit spent : Nat) (r : Reservation) (attempt : SecPhysicalAttempt) : Prop :=
  SettlementFits limit spent r attempt (some (attempt.errorCodeOr "SEC_TRANSPORT_BLOCKED"))

/-! ## Reservations and settlements in the database -/

/-- The reservation stands in the database as the port wrote it. -/
def Open (a : Uuid) (r : Reservation) (db : Db) : Prop :=
  consumptionOf a r.requestAttemptId db = some (r.row a)

/-- The reservations still to come clash neither with each other nor with a stored row. -/
structure Fresh (draws : List Reservation) (db : Db) : Prop where
  attempts : (draws.map (·.requestAttemptId)).Nodup
  consumptions : (draws.map (·.consumptionId)).Nodup
  stored : ∀ d ∈ draws, ∀ row ∈ db.consumptions.rows,
    row.id ≠ d.consumptionId ∧ row.requestAttemptId ≠ d.requestAttemptId

/-- What the rest of a run relies on, between two settlements. -/
structure Ready (a : Uuid) (limit spent : Nat) (draws : List Reservation) (db : Db) : Prop where
  grant : ∃ grant, grantOf a db = some grant ∧ grant.byteLimit = limit
  spent : settledBytes a db = spent
  fresh : Fresh draws db

variable {a : Uuid} {limit spent : Nat} {draws : List Reservation} {db db' : Db}

/-- Another permit's row is found after a write that kept it. -/
structure Granted (a : Uuid) (r : Reservation) (db db' : Db) : Prop where
  isOpen : Open a r db'
  others : ∀ id ≠ r.requestAttemptId, consumptionOf a id db' = consumptionOf a id db

lemma consumptionOf_insert {row : ConsumptionRow} {t : Table ConsumptionRow}
    (h : db.consumptions.insert row = some t) (id : Uuid) (hid : id ≠ row.requestAttemptId) :
    consumptionOf a id { db with consumptions := t } = consumptionOf a id db := by
  have hrow : ¬ (row.authorizationId = a ∧ row.requestAttemptId = id) := fun h => hid h.2.symm
  simp [consumptionOf, Table.selectOne, Table.rows_insert h, List.find?_append, hrow]

lemma insert_reservation {r : Reservation} (h : Ready a limit spent (r :: draws) db) :
    ∃ t, db.consumptions.insert (r.row a) = some t ∧
      Granted a r db { db with consumptions := t } ∧
      Ready a limit spent draws { db with consumptions := t } := by
  have hfresh := h.fresh
  have hstored := hfresh.stored r (List.mem_cons_self ..)
  have hclash : ∀ row ∈ db.consumptions.rows, ¬ Schema.clash row (r.row a) := by
    rintro row hrow (hid | ⟨-, hattempt⟩)
    · exact (hstored row hrow).1 hid
    · exact (hstored row hrow).2 hattempt
  obtain ⟨t, ht⟩ := Table.insert_isSome hclash r.bounded.1
  have hattempts := hfresh.attempts
  have hconsumptions := hfresh.consumptions
  simp only [List.map_cons, List.nodup_cons, List.mem_map, not_exists, not_and] at hattempts hconsumptions
  refine ⟨t, ht, ⟨?_, fun id hid => consumptionOf_insert ht id hid⟩, ⟨h.grant, ?_, ?_⟩⟩
  · exact consumptionOf_eq_some ((Table.mem_insert ht).mpr (.inr rfl)) rfl rfl
  · exact (reserved_totals (a := a) rfl rfl ht).1.trans h.spent
  · refine ⟨hattempts.2, hconsumptions.2, ?_⟩
    intro d hd row hrow
    rcases (Table.mem_insert ht).mp hrow with hrow | rfl
    · exact hfresh.stored d (List.mem_cons_of_mem _ hd) row hrow
    · exact ⟨fun heq => hconsumptions.1 d hd heq.symm, fun heq => hattempts.1 d hd heq.symm⟩

/-- What a settlement of the reservation `r` with `bytes` bytes leaves behind. -/
structure Settled (a : Uuid) (r : Reservation) (bytes : Nat) (db db' : Db) : Prop where
  grants : db'.grants = db.grants
  settled : PermitSettled a r.requestAttemptId db'
  others : ∀ id ≠ r.requestAttemptId, consumptionOf a id db' = consumptionOf a id db
  spent : settledBytes a db' = settledBytes a db + bytes
  keys : ∀ row ∈ db'.consumptions.rows, ∃ row₀ ∈ db.consumptions.rows,
    row₀.id = row.id ∧ row₀.requestAttemptId = row.requestAttemptId

/-- Settling one row leaves the rows of the other attempts as they are. -/
lemma consumptionOf_update {row : ConsumptionRow} {settlement : ConsumptionSettlementRequest}
    {t : Table ConsumptionRow} (hmem : row ∈ db.consumptions.rows)
    (h : db.consumptions.update (fun c => c.id = row.id) settlement.apply = some t) (id : Uuid)
    (hid : id ≠ row.requestAttemptId) :
    consumptionOf a id { db with consumptions := t } = consumptionOf a id db := by
  have hother : ∀ c ∈ db.consumptions.rows, c.requestAttemptId = id → c.id ≠ row.id := by
    intro c hc hcid heq
    rw [Table.eq_of_clash hc hmem (.inl heq)] at hcid
    exact hid hcid.symm
  cases hfind : consumptionOf a id db with
  | some c =>
      obtain ⟨hc, hca, hcid⟩ := mem_of_consumptionOf hfind
      refine consumptionOf_eq_some ?_ hca hcid
      rw [show ({ db with consumptions := t } : Db).consumptions.rows = t.rows from rfl,
        Table.rows_update h]
      exact List.mem_map.mpr ⟨c, hc, by simp [hother c hc hcid]⟩
  | none =>
      have hnone := Table.selectOne_eq_none.mp hfind
      refine Table.selectOne_eq_none.mpr ?_
      intro c hc hp
      rw [show ({ db with consumptions := t } : Db).consumptions.rows = t.rows from rfl,
        Table.rows_update h] at hc
      obtain ⟨c₀, hc₀, rfl⟩ := List.mem_map.mp hc
      refine hnone c₀ hc₀ ?_
      split at hp <;> exact hp

/-- The bytes of a settlement are added to the settled bytes; an abandonment has none. -/
lemma settledBytes_update {row : ConsumptionRow} {settlement : ConsumptionSettlementRequest}
    {t : Table ConsumptionRow} (hmem : row ∈ db.consumptions.rows) (hrow : row.state = .reserved)
    (ha : row.authorizationId = a) (hvalid : ValidSettlement row settlement)
    (h : db.consumptions.update (fun c => c.id = row.id) settlement.apply = some t) :
    settledBytes a { db with consumptions := t } = settledBytes a db + settlement.actualBytes := by
  have htotal := Table.total_update h (settledShare a) (clash_of_id row) hmem (by simp)
  have hbefore : settledShare a row = 0 := by simp [settledShare, hrow]
  have hafter : settledShare a (settlement.apply row) = settlement.actualBytes := by
    rcases settlement.isTerminal with hstate | hstate
    · simp [settledShare, ConsumptionSettlementRequest.apply, hstate, ha]
    · have hzero : settlement.actualBytes = 0 :=
        (hvalid.abandonment.resolve_left (not_not.mpr hstate)).2
      simp [settledShare, ConsumptionSettlementRequest.apply, hstate, hzero]
  simp only [settledBytes_eq_total]
  omega

section Settlement

variable {r : Reservation} {attempt : SecPhysicalAttempt} {errorCode : Option String}
  {unstarted : Bool}

/-- **When a settlement transaction goes through, and what it does.** -/
lemma settlement_of_fits (hready : Ready a limit spent draws db) (hopen : Open a r db)
    (hgrant : attempt.permit.authorizationId = a)
    (hpermit : attempt.permit.requestAttemptId = r.requestAttemptId)
    (hunstarted : unstarted = true → attempt.responseBytes = 0)
    (hfits : SettlementFits limit spent r attempt errorCode) :
    ∃ db', settlementTransaction attempt errorCode unstarted db = .ok ((), db') ∧
      Settled a r attempt.responseBytes db db' := by
  have hsize : attempt.responseBytes ≤ 52428800 := le_trans hfits.reserved r.bounded.2
  obtain ⟨grant, hfind, hlimit⟩ := hready.grant
  obtain ⟨settlement, hsettlement⟩ : ∃ settlement, settlementRequest attempt unstarted = .ok settlement :=
    ⟨_, dif_pos hsize⟩
  have hfields : settlement.authorizationId = a ∧
      settlement.requestAttemptId = r.requestAttemptId ∧
      settlement.actualBytes = attempt.responseBytes ∧ settlement.settledAt = attempt.completedAt ∧
      settlement.socketOpened = !unstarted ∧
      settlement.state = (if unstarted then .abandoned else .settled) := by
    rw [settlementRequest, dif_pos hsize] at hsettlement
    cases hsettlement
    exact ⟨hgrant, hpermit, rfl, rfl, rfl, rfl⟩
  obtain ⟨hauth, hattempt, hbytes, hat, hsocket, hstate⟩ := hfields
  have hvalid : ValidSettlement (r.row a) settlement := by
    refine ⟨r.bounded, ?_, ?_, ?_, ?_⟩
    · rw [hbytes]; exact hfits.reserved
    · rw [hat]; exact hfits.time
    · cases unstarted with
      | true => exact .inr ⟨by simp [hsocket], by rw [hbytes]; exact hunstarted rfl⟩
      | false => exact .inl (by simp [hstate])
    · cases unstarted with
      | true => exact .inl (by simp [hstate])
      | false => exact .inr (by simp [hsocket])
  have hgrant' : grantOf settlement.authorizationId db = some grant := by rw [hauth]; exact hfind
  have hrow : consumptionOf settlement.authorizationId settlement.requestAttemptId db =
      some (r.row a) := by rw [hauth, hattempt]; exact hopen
  have hbudget : settledBytes settlement.authorizationId db + settlement.actualBytes ≤
      grant.byteLimit := by
    rw [hauth, hbytes, hlimit, hready.spent]
    exact hfits.budget
  obtain ⟨⟨record, db'⟩, haccepted⟩ := settleConsumption_accepts hgrant' hrow rfl hbudget hvalid
  refine ⟨db', ?_, ?_⟩
  · simp only [settlementTransaction, raiseIf_bind_ok, lift_bind_ok, not_not]
    refine ⟨hfits.valid, settlement, hsettlement, ?_⟩
    rw [bind_ok]
    exact ⟨record, db', haccepted, rfl⟩
  · obtain ⟨_, row, -, hrow', -, hcase⟩ := settleConsumption_ok haccepted
    obtain rfl : r.row a = row := Option.some.inj (hrow.symm.trans hrow')
    obtain ⟨hmem, -, -⟩ := mem_of_consumptionOf hrow
    rcases hcase with ⟨hstate', -⟩ | ⟨-, -, -, t, ht, hdb⟩
    · exact absurd rfl hstate'
    · obtain rfl : db' = { db with consumptions := t } := hdb
      have hsettled : settlement.apply (r.row a) ∈ t.rows := by
        rw [Table.rows_update ht]
        exact List.mem_map.mpr ⟨r.row a, hmem, by simp⟩
      refine ⟨rfl, ?_, fun id hid => consumptionOf_update hmem ht id hid, ?_, ?_⟩
      · refine ⟨settlement.apply (r.row a), consumptionOf_eq_some hsettled rfl rfl, ?_⟩
        have hterminal : settlement.state ≠ .reserved := by
          rcases settlement.isTerminal with h | h <;> simp [h]
        exact hterminal
      · rw [← hbytes]
        exact settledBytes_update hmem rfl rfl hvalid ht
      · intro c hc
        rw [show ({ db with consumptions := t } : Db).consumptions.rows = t.rows from rfl,
          Table.rows_update ht] at hc
        obtain ⟨c₀, hc₀, rfl⟩ := List.mem_map.mp hc
        refine ⟨c₀, hc₀, ?_⟩
        split <;> exact ⟨rfl, rfl⟩

/-- A settlement transaction that does not fit raises. -/
lemma settlement_refused (hready : Ready a limit spent draws db) (hopen : Open a r db)
    (hgrant : attempt.permit.authorizationId = a)
    (hpermit : attempt.permit.requestAttemptId = r.requestAttemptId)
    (hfits : ¬ SettlementFits limit spent r attempt errorCode) :
    ∃ raised, settlementTransaction attempt errorCode unstarted db = .error raised := by
  cases hrun : settlementTransaction attempt errorCode unstarted db with
  | error raised => exact ⟨raised, rfl⟩
  | ok result =>
      exfalso
      simp only [settlementTransaction, raiseIf_bind_ok, lift_bind_ok, not_not] at hrun
      obtain ⟨hvalid, settlement, hsettlement, hrun⟩ := hrun
      obtain ⟨record, db', haccepted, -⟩ := bind_ok.mp hrun
      obtain ⟨grant, row, hfind, hrow, -, hcase⟩ := settleConsumption_ok haccepted
      unfold settlementRequest at hsettlement
      split at hsettlement
      · cases hsettlement
        simp only [hgrant, hpermit] at hfind hrow hcase
        obtain rfl : r.row a = row := Option.some.inj (hopen.symm.trans hrow)
        obtain ⟨grant', hfind', hlimit⟩ := hready.grant
        obtain rfl : grant' = grant := Option.some.inj (hfind'.symm.trans hfind)
        rcases hcase with ⟨hstate, -⟩ | ⟨-, hbudget, hchecks, -⟩
        · exact hstate rfl
        · exact hfits ⟨hvalid, hchecks.actual, by rw [← hlimit, ← hready.spent]; exact hbudget,
            hchecks.time⟩
      · cases hsettlement

end Settlement

/-! ## A run between two steps -/

/-- Where a run stands: no terminal record yet, the reservations in `pending` open, every other
permit that was handed out settled, `spent` bytes settled and the `draws` still to come. -/
structure Standing (a : Uuid) (limit spent : Nat) (draws pending : List Reservation)
    (s : PilotState) : Prop where
  ready : Ready a limit spent draws s.db
  terminals : s.terminals = []
  isOpen : ∀ r ∈ pending, Open a r s.db
  distinct : (pending.map (·.requestAttemptId)).Nodup
  settled : ∀ id ∈ s.handed, id ∈ pending.map (·.requestAttemptId) ∨ PermitSettled a id s.db

/-- Nothing has been committed, so an outcome that ends here is not accounted for. -/
def Strict {α : Type} (R : Except Raised α → PilotState → Prop) : Prop :=
  ∀ raised s, s.terminals = [] → ¬ R (.error raised) s

/-- A postcondition that asks of a run that raised whether it is accounted for. -/
def Accounts {α : Type} (a : Uuid) (R : Except Raised α → PilotState → Prop) : Prop :=
  ∀ raised s, R (.error raised) s ↔ Accounted a s

lemma Accounts.strict {α : Type} {R : Except Raised α → PilotState → Prop} (hR : Accounts a R) :
    Strict R := by
  intro raised s hs h
  have hlength := ((hR raised s).mp h).terminal
  simp [hs] at hlength

lemma Accounts.after {α β : Type} {R : Except Raised β → PilotState → Prop} (hR : Accounts a R)
    (f : α → Pilot β) : Accounts a (after f R) := hR

namespace Standing

variable {s : PilotState} {r : Reservation} {pending : List Reservation}

lemma not_accounted (h : Standing a limit spent draws pending s) : ¬ Accounted a s := by
  intro haccounted
  have hlength := haccounted.terminal
  simp [h.terminals] at hlength

/-- Once everything is settled, one terminal record accounts for the run. -/
lemma accounted (h : Standing a limit spent draws [] s) (record : TerminalRecord) :
    Accounted a { s with terminals := s.terminals ++ [record] } := by
  refine ⟨?_, by simp [h.terminals]⟩
  intro id hid
  exact (h.settled id hid).resolve_left (by simp)

/-- A reservation that is not drawn after all may be forgotten. -/
lemma forget {extra : List Reservation}
    (h : Standing a limit spent (extra ++ draws) pending s) :
    Standing a limit spent draws pending s := by
  have hfresh := h.ready.fresh
  have hattempts := hfresh.attempts
  have hconsumptions := hfresh.consumptions
  rw [List.map_append] at hattempts hconsumptions
  refine { h with ready := { h.ready with fresh := ⟨?_, ?_, ?_⟩ } }
  · exact (List.nodup_append.mp hattempts).2.1
  · exact (List.nodup_append.mp hconsumptions).2.1
  · exact fun d hd => hfresh.stored d (List.mem_append_right _ hd)

lemma hand (h : Standing a limit spent draws pending s) (hr : r ∈ pending) :
    Standing a limit spent draws pending
      { s with handed := s.handed ++ [r.requestAttemptId] } := by
  refine { h with settled := ?_ }
  intro id hid
  rcases List.mem_append.mp hid with hid | hid
  · exact h.settled id hid
  · rw [List.mem_singleton.mp hid]
    exact .inl (List.mem_map_of_mem hr)

/-- The port grants the next reservation. -/
lemma reserve (h : Standing a limit spent (r :: draws) pending s) :
    ∃ t, s.db.consumptions.insert (r.row a) = some t ∧
      Standing a limit spent draws (pending ++ [r])
        { s with db := { s.db with consumptions := t } } := by
  obtain ⟨t, ht, hgranted, hready⟩ := insert_reservation h.ready
  have hne : ∀ p ∈ pending, p.requestAttemptId ≠ r.requestAttemptId := by
    intro p hp
    obtain ⟨hmem, -, -⟩ := mem_of_consumptionOf (h.isOpen p hp)
    exact (h.ready.fresh.stored r (List.mem_cons_self ..) _ hmem).2
  refine ⟨t, ht, ⟨hready, h.terminals, ?_, ?_, ?_⟩⟩
  · intro p hp
    rcases List.mem_append.mp hp with hp | hp
    · rw [Open, hgranted.others _ (hne p hp)]
      exact h.isOpen p hp
    · rw [List.mem_singleton.mp hp]
      exact hgranted.isOpen
  · rw [List.map_append, List.nodup_append]
    refine ⟨h.distinct, by simp, ?_⟩
    intro id hid id' hid'
    obtain ⟨p, hp, rfl⟩ := List.mem_map.mp hid
    simp only [List.map_cons, List.map_nil, List.mem_singleton] at hid'
    rw [hid']
    exact hne p hp
  · intro id hid
    rw [List.map_append, List.mem_append]
    by_cases heq : id = r.requestAttemptId
    · exact .inl (.inr (by simp [heq]))
    · rcases h.settled id hid with hpending | hsettled
      · exact .inl (.inl hpending)
      · rw [PermitSettled, hgranted.others id heq]
        exact .inr hsettled

/-- The first open reservation is settled. -/
lemma settle {bytes : Nat} {db' : Db} (h : Standing a limit spent draws (r :: pending) s)
    (hsettled : Settled a r bytes s.db db') :
    Standing a limit (spent + bytes) draws pending { s with db := db' } := by
  have hdistinct := h.distinct
  simp only [List.map_cons, List.nodup_cons] at hdistinct
  refine ⟨⟨?_, ?_, ?_⟩, h.terminals, ?_, hdistinct.2, ?_⟩
  · rw [grantOf, hsettled.grants]
    exact h.ready.grant
  · rw [hsettled.spent, h.ready.spent]
  · refine { h.ready.fresh with stored := ?_ }
    intro d hd row hrow
    obtain ⟨row₀, hmem, hid, hattempt⟩ := hsettled.keys row hrow
    rw [← hid, ← hattempt]
    exact h.ready.fresh.stored d hd row₀ hmem
  · intro p hp
    have hne : p.requestAttemptId ≠ r.requestAttemptId := by
      intro heq
      exact hdistinct.1 (heq ▸ List.mem_map_of_mem hp)
    rw [Open, hsettled.others _ hne]
    exact h.isOpen p (List.mem_cons_of_mem _ hp)
  · intro id hid
    by_cases heq : id = r.requestAttemptId
    · rw [heq]
      exact .inr hsettled.settled
    · rcases h.settled id hid with hpending | hdone
      · rw [List.map_cons, List.mem_cons] at hpending
        exact .inl (hpending.resolve_left heq)
      · rw [PermitSettled, hsettled.others id heq]
        exact .inr hdone

end Standing

end StockResearch.LiveEvidence
