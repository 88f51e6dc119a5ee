import StockResearch.LiveEvidence.PilotStanding

/-!
# What a pilot run leaves behind

When `execute_authorized` ends, every permit that was handed to the transport should have been
settled and exactly one terminal record should have been committed.  `Accounted` says so.

The pilot cleans up after three kinds of failure only: a blocked transport result, a response that
validation rejects with a `ValueError`, and a broken dependency lineage.  Each of them settles
first and commits the terminal record last, so a run is accounted for exactly when it commits a
terminal record at all.  Every other failure point leaves the run without one: a refused
reservation, a transport that raises, a storage write, a manifest, a settlement that does not fit,
a document that is not admitted.

`Clean` is that condition on the inputs of a run, and `accounted_iff_clean` the law.
-/

namespace StockResearch.LiveEvidence

open Txn Program

/-! ## The condition -/

/-- What an exchange comes to, from its inputs alone. -/
inductive Exchange where
  | raised
  | single (result : SecTransportResult) (attempt : SecPhysicalAttempt)
  | double (r : Reservation) (result : SecTransportResult)
      (attempt retryAttempt : SecPhysicalAttempt)

/-- The retry, if the port grants one. -/
def retryExchange (execution : GateBExecution) (resource : SecAuthorizedResource)
    (attempt : SecPhysicalAttempt) (x : ResourceInput) : Exchange :=
  match reservationRequest execution resource (attempt.permit.attemptNumber + 1) .retry with
  | .error _ => .raised
  | .ok request =>
      match x.retryReservation with
      | .refused raised =>
          if raised.isValueError then
            .single { status := .blocked, reasonCode := "SEC_RETRY_BUDGET_EXHAUSTED",
                      attempts := [attempt] } attempt
          else .raised
      | .granted r =>
          match send (r.permit request) x.retried x.retryCompletedAt with
          | .error _ => .raised
          | .ok retryAttempt => .double r (retriedResult attempt retryAttempt) attempt retryAttempt

def exchange (execution : GateBExecution) (resource : SecAuthorizedResource)
    (permit : SecAttemptPermit) (x : ResourceInput) : Exchange :=
  match x.identity with
  | .error raised =>
      if raised.isValueError then
        .single { status := .blocked, reasonCode := "SEC_CONTACT_RESOLUTION_FAILED",
                  attempts := [unresolvedAttempt permit x.completedAt] }
          (unresolvedAttempt permit x.completedAt)
      else .raised
  | .ok () =>
      match send permit x.sent x.completedAt with
      | .error _ => .raised
      | .ok attempt =>
          if attempt.succeeded then
            .single { status := .completed, reasonCode := "SEC_TRANSPORT_COMPLETED",
                      attempts := [attempt] } attempt
          else
            match retryRefusal execution resource attempt with
            | some reasonCode =>
                .single { status := .blocked, reasonCode, attempts := [attempt] } attempt
            | none => retryExchange execution resource attempt x

/-- What has to hold of the last attempt of an exchange; `next` is what has to hold after a
resource that was completed. -/
def CleanLast (ports : PilotPorts) (resource : SecAuthorizedResource) (x : ResourceInput)
    (limit spent : Nat) (r : Reservation) (status : SecTransportStatus)
    (attempt : SecPhysicalAttempt) (next : CompletedSecResource → Prop) : Prop :=
  match status with
  | .blocked => FailureFits limit spent r attempt
  | .completed =>
      match validate ports resource attempt with
      | .error raised => raised.isValueError = true ∧
          FailureFits limit spent r { attempt with safeErrorCode := some (failureCode raised) } ∧
          1 ≤ (failureCode raised).length ∧ (failureCode raised).length ≤ 128
      | .ok validated => x.storage = .ok () ∧ x.manifest = .ok () ∧
          SettlementFits limit spent r attempt none ∧ next { resource, validated }

/-- The permit that a resource starts with, and its reservation. -/
def permitOf (execution : GateBExecution) (initial : SecAttemptPermit × Reservation)
    (resource : SecAuthorizedResource) (attemptNumber : Nat) (x : ResourceInput) :
    Option (SecAttemptPermit × Reservation) :=
  if resource.ordinal = 0 then
    if permitMatches execution resource initial.1 1 .initial then some initial else none
  else
    match reservationRequest execution resource attemptNumber .initial, x.reservation with
    | .ok request, .granted r => some (r.permit request, r)
    | _, _ => none

/-- **The condition of a clean run**, from a resource on: whatever goes wrong first is something
that the pilot cleans up after. -/
def Clean (ports : PilotPorts) (execution : GateBExecution) (plan : SecAuthorizedPlan)
    (initial : SecAttemptPermit × Reservation) (limit : Nat) :
    List (SecAuthorizedResource × ResourceInput) → Nat → Nat → List CompletedSecResource → Prop
  | [], _, _, _ => ports.admitDocuments = .ok () ∧ ∃ status, ports.evaluate = .ok status
  | (resource, x) :: rest, attemptNumber, spent, completed =>
      match permitOf execution initial resource attemptNumber x with
      | none => False
      | some (permit, r) =>
          let next (attempt : SecPhysicalAttempt) (spent : Nat) (done : CompletedSecResource) :=
            lineageBroken plan.filingIndex.path plan.primaryDocument.path
                (completed ++ [done]) = true ∨
              Clean ports execution plan initial limit rest (attempt.permit.attemptNumber + 1)
                spent (completed ++ [done])
          match exchange execution resource permit x with
          | .raised => False
          | .single result attempt =>
              CleanLast ports resource x limit spent r result.status attempt
                (next attempt (spent + attempt.responseBytes))
          | .double r' result attempt retryAttempt =>
              FailureFits limit spent r attempt ∧
                CleanLast ports resource x limit (spent + attempt.responseBytes) r' result.status
                  retryAttempt
                  (next retryAttempt (spent + attempt.responseBytes + retryAttempt.responseBytes))

variable {a : Uuid} {limit spent : Nat} {draws : List Reservation}

/-! ## The steps of a resource -/

/-- The attempt belongs to the permit that was reserved by `r`, and its socket was opened if there
is a response. -/
structure AttemptOf (a : Uuid) (r : Reservation) (attempt : SecPhysicalAttempt) : Prop where
  grant : attempt.permit.authorizationId = a
  permit : attempt.permit.requestAttemptId = r.requestAttemptId
  opened : attempt.response ≠ none → attempt.socketOpened = some true

/-- The error code of an attempt, if it has one, can be stored. -/
def ShortCode (attempt : SecPhysicalAttempt) : Prop :=
  ∀ code ∈ attempt.safeErrorCode, 1 ≤ code.length ∧ code.length ≤ 128

lemma ShortCode.errorCodeOr {attempt : SecPhysicalAttempt} (h : ShortCode attempt)
    (fallback : String) (hfallback : 1 ≤ fallback.length ∧ fallback.length ≤ 128) :
    1 ≤ (attempt.errorCodeOr fallback).length ∧ (attempt.errorCodeOr fallback).length ≤ 128 := by
  unfold SecPhysicalAttempt.errorCodeOr
  split
  · exact hfallback
  · exact h _ (by simp [*])
  · exact hfallback

section Steps

variable {s : PilotState} {r : Reservation} {pending : List Reservation}
  {attempt : SecPhysicalAttempt} {errorCode : Option String} {unstarted : Bool}
  {R : Except Raised Unit → PilotState → Prop}

lemma wp_settlement_of_fits (hs : Standing a limit spent draws (r :: pending) s)
    (hattempt : AttemptOf a r attempt) (hunstarted : unstarted = true → attempt.responseBytes = 0)
    (hfits : SettlementFits limit spent r attempt errorCode) :
    ∃ s', Standing a limit (spent + attempt.responseBytes) draws pending s' ∧
      ∀ R, wp (onDb (settlementTransaction attempt errorCode unstarted)) R s ↔ R (.ok ()) s' := by
  obtain ⟨db', hrun, hsettled⟩ := settlement_of_fits hs.ready (hs.isOpen r (List.mem_cons_self ..))
    hattempt.grant hattempt.permit hunstarted hfits
  refine ⟨_, hs.settle hsettled, ?_⟩
  intro R
  rw [onDb, wp_transact, commit_of_ok hrun]

lemma not_wp_settlement (hs : Standing a limit spent draws (r :: pending) s)
    (hattempt : AttemptOf a r attempt) (hfits : ¬ SettlementFits limit spent r attempt errorCode)
    (hR : Strict R) : ¬ wp (onDb (settlementTransaction attempt errorCode unstarted)) R s := by
  obtain ⟨raised, hrun⟩ : ∃ raised, settlementTransaction attempt errorCode unstarted s.db = _ :=
    settlement_refused hs.ready (hs.isOpen r (List.mem_cons_self ..)) hattempt.grant hattempt.permit
      hfits
  rw [onDb, wp_transact, commit_of_error hrun]
  exact hR raised _ hs.terminals

/-- **One settlement**, as an equivalence: it has to fit, and what follows has to hold. -/
lemma wp_settlement (hs : Standing a limit spent draws (r :: pending) s)
    (hattempt : AttemptOf a r attempt) (hunstarted : unstarted = true → attempt.responseBytes = 0)
    (hR : Strict R) {P : Prop}
    (hnext : ∀ s', Standing a limit (spent + attempt.responseBytes) draws pending s' →
      (R (.ok ()) s' ↔ P)) :
    wp (onDb (settlementTransaction attempt errorCode unstarted)) R s ↔
      SettlementFits limit spent r attempt errorCode ∧ P := by
  by_cases hfits : SettlementFits limit spent r attempt errorCode
  · obtain ⟨s', hs', hwp⟩ := wp_settlement_of_fits hs hattempt hunstarted hfits
    rw [hwp, hnext s' hs']
    exact ⟨fun h => ⟨hfits, h⟩, fun h => h.2⟩
  · exact ⟨fun h => absurd h (not_wp_settlement hs hattempt hfits hR), fun h => absurd h.1 hfits⟩

lemma wp_settleFailure (hs : Standing a limit spent draws (r :: pending) s)
    (hattempt : AttemptOf a r attempt) (hR : Strict R) {P : Prop}
    (hnext : ∀ s', Standing a limit (spent + attempt.responseBytes) draws pending s' →
      (R (.ok ()) s' ↔ P)) :
    wp (settleFailure attempt) R s ↔ FailureFits limit spent r attempt ∧ P := by
  refine wp_settlement hs hattempt ?_ hR hnext
  intro hunstarted
  have hparts : attempt.socketOpened = some false ∧ attempt.responseBytes = 0 := by
    simpa [SecPhysicalAttempt.demonstrablyUnstarted] using hunstarted
  exact hparts.2

/-- The terminal record of a failed resource, after everything has been settled. -/
lemma wp_blockResourceFailure (hs : Standing a limit spent draws [] s)
    (resource : SecAuthorizedResource) (id : Uuid) (stopReason : String) {α : Type}
    (raised : Raised) {R : Except Raised α → PilotState → Prop} (hR : Accounts a R) :
    wp (blockResourceFailure resource id stopReason) (after (fun _ => throw raised) R) s ↔
      1 ≤ stopReason.length ∧ stopReason.length ≤ 128 := by
  by_cases hlength : 1 ≤ stopReason.length ∧ stopReason.length ≤ 128
  · simp only [blockResourceFailure, hlength, and_self, not_true_eq_false, if_false, iff_true]
    exact (hR raised _).mpr (hs.accounted _)
  · simp only [blockResourceFailure, hlength, not_false_eq_true, if_true, iff_false]
    exact fun h => hs.not_accounted ((hR _ _).mp h)

lemma validate_ok {ports : PilotPorts} {resource : SecAuthorizedResource}
    {validated : ValidatedSecSettlement} (h : validate ports resource attempt = .ok validated) :
    attempt.response ≠ none ∧ validated.requestAttemptId = attempt.permit.requestAttemptId := by
  unfold validate at h
  split at h
  · cases h
  · unfold validateSecResponse at h
    split at h
    · cases h
    · rename_i response hresponse
      split_ifs at h
      cases hparse : ports.parse resource response.body with
      | error raised => simp [hparse, Except.map] at h
      | ok records =>
          simp only [hparse, Except.map, Except.ok.injEq] at h
          subst h
          exact ⟨by simp [hresponse], rfl⟩

/-- `settle`: the storage write, the manifest and the settlement, in this order. -/
lemma wp_settle {x : ResourceInput} {validated : ValidatedSecSettlement}
    (hs : Standing a limit spent draws (r :: pending) s) (hattempt : AttemptOf a r attempt)
    (hresponse : attempt.response ≠ none)
    (hid : validated.requestAttemptId = attempt.permit.requestAttemptId) (hR : Strict R) {P : Prop}
    (hnext : ∀ s', Standing a limit (spent + attempt.responseBytes) draws pending s' →
      (R (.ok ()) s' ↔ P)) :
    wp (settle validated attempt x) R s ↔
      x.storage = .ok () ∧ x.manifest = .ok () ∧ SettlementFits limit spent r attempt none ∧ P := by
  simp only [settle, hid, ne_eq, not_true_eq_false, if_false, hresponse,
    hattempt.opened hresponse, or_self, wp_bind, after, wp_call]
  cases hstorage : x.storage with
  | error raised => simpa [after] using hR raised s hs.terminals
  | ok stored =>
      cases hmanifest : x.manifest with
      | error raised => simpa [after, hmanifest] using hR raised s hs.terminals
      | ok built =>
          simp only [after, wp_bind, wp_call, true_and]
          exact wp_settlement hs hattempt (by simp) hR hnext

/-- **The last attempt of an exchange.** -/
lemma wp_settleLast {ports : PilotPorts} {resource : SecAuthorizedResource} {x : ResourceInput}
    {R : Except Raised (CompletedSecResource × Nat) → PilotState → Prop} (hR : Accounts a R)
    (hs : Standing a limit spent draws [r] s) (hattempt : AttemptOf a r attempt)
    (hcode : ShortCode attempt) (result : SecTransportResult) {next : CompletedSecResource → Prop}
    (hnext : ∀ done s', Standing a limit (spent + attempt.responseBytes) draws [] s' →
      (R (.ok (done, attempt.permit.attemptNumber)) s' ↔ next done)) :
    wp (settleLast ports resource x result attempt) R s ↔
      CleanLast ports resource x limit spent r result.status attempt next := by
  unfold settleLast CleanLast
  cases result.status with
  | blocked =>
      have hlength := hcode.errorCodeOr "SEC_RESOURCE_EXECUTION_BLOCKED" (by decide)
      simp only [wp_bind]
      rw [wp_settleFailure (P := True) hs hattempt (hR.after _).strict]
      · simp
      · intro s' hs'
        simp only [after, wp_bind, iff_true]
        exact (wp_blockResourceFailure hs' _ _ _ _ hR).mpr hlength
  | completed =>
      simp only
      cases hvalidate : validate ports resource attempt with
      | error raised =>
          simp only
          by_cases hvalue : raised.isValueError = true
          · simp only [hvalue, if_true, wp_bind, true_and]
            -- only the error code differs from the attempt that was received
            have hfailed : AttemptOf a r
                { attempt with safeErrorCode := some (failureCode raised) } :=
              ⟨hattempt.grant, hattempt.permit, hattempt.opened⟩
            refine wp_settleFailure hs hfailed (hR.after _).strict ?_
            intro s' hs'
            simp only [after, wp_bind]
            exact wp_blockResourceFailure hs' _ _ _ _ hR
          · simp only [hvalue, if_false, Bool.false_eq_true, false_and, iff_false, wp_throw]
            exact fun h => hs.not_accounted ((hR _ _).mp h)
      | ok validated =>
          obtain ⟨hresponse, hid⟩ := validate_ok hvalidate
          simp only [wp_bind]
          exact wp_settle hs hattempt hresponse hid (hR.after _).strict (hnext _)

end Steps

/-! ## The transport -/

/-- The reservation that an answer grants. -/
def PortAnswer.toList : PortAnswer → List Reservation
  | .refused _ => []
  | .granted r => [r]

lemma send_ok {r : Reservation} {permit : SecAttemptPermit} {outcome : HttpOutcome}
    {completedAt : Timestamp} {attempt : SecPhysicalAttempt} (ha : permit.authorizationId = a)
    (hr : permit.requestAttemptId = r.requestAttemptId)
    (h : send permit outcome completedAt = .ok attempt) :
    AttemptOf a r attempt ∧ ShortCode attempt ∧ attempt.permit = permit := by
  have hcode : ∀ code : String, 1 ≤ code.length ∧ code.length ≤ 128 →
      ∀ c ∈ some code, 1 ≤ c.length ∧ c.length ≤ 128 := by
    rintro code hlength c ⟨rfl⟩
    exact hlength
  cases outcome with
  | response result =>
      cases h
      exact ⟨⟨ha, hr, fun _ => rfl⟩, by simp [ShortCode], rfl⟩
  | httpTimeoutError =>
      cases h
      exact ⟨⟨ha, hr, by simp⟩, hcode "READ_TIMEOUT" (by decide), rfl⟩
  | retryExhaustedError =>
      cases h
      exact ⟨⟨ha, hr, by simp⟩, hcode "CONNECT_TIMEOUT" (by decide), rfl⟩
  | providerHttpError =>
      cases h
      exact ⟨⟨ha, hr, by simp⟩, hcode "SEC_TRANSPORT_BLOCKED" (by decide), rfl⟩
  | raises raised => cases h

lemma reservationRequest_ok {execution : GateBExecution} {resource : SecAuthorizedResource}
    {attemptNumber : Nat} {kind : SecAttemptKind} {request : SecAttemptReservationRequest}
    (h : reservationRequest execution resource attemptNumber kind = .ok request)
    (r : Reservation) : permitMatches execution resource (r.permit request) attemptNumber kind := by
  unfold reservationRequest at h
  split at h
  · cases h
    exact ⟨rfl, rfl, rfl, rfl, rfl, rfl, rfl⟩
  · cases h

section Transport

variable {execution : GateBExecution} {resource : SecAuthorizedResource}
  {permit : SecAttemptPermit} {x : ResourceInput} {r : Reservation} {s : PilotState}
  {R : Except Raised SecTransportResult → PilotState → Prop}

/-- A granted reservation of a request, as an equivalence. -/
lemma wp_reserve {request : SecAttemptReservationRequest} {pending : List Reservation}
    (hrequest : request.authorizationId = a)
    (hs : Standing a limit spent (r :: draws) pending s) :
    ∃ s', Standing a limit spent draws (pending ++ [r]) s' ∧
      ∀ R, wp (reserve request (.granted r)) R s ↔ R (.ok (r.permit request)) s' := by
  obtain ⟨t, ht, hs'⟩ := hs.reserve
  refine ⟨_, hs', ?_⟩
  intro R
  have hcommit : commit (insertInto (·.consumptions) (fun db t => { db with consumptions := t })
      (r.row request.authorizationId) : DbTransaction Unit) s.db =
        (.ok (), { s.db with consumptions := t }) := by
    simp [commit, insertInto, write, hrequest, ht]
  simp only [reserve, wp_bind, onDb, wp_transact]
  rw [hcommit]
  rfl

/-- What the transport has done when it comes back with this exchange. -/
def TransportEnds (a : Uuid) (limit spent : Nat) (draws : List Reservation) (r : Reservation)
    (program : Pilot SecTransportResult) (s : PilotState) : Exchange → Prop
  | .raised => ∀ R, Strict R → ¬ wp program R s
  | .single result attempt => result.attempts = [attempt] ∧ AttemptOf a r attempt ∧
      ShortCode attempt ∧ ∃ s', Standing a limit spent draws [r] s' ∧
        ∀ R, wp program R s ↔ R (.ok result) s'
  | .double r' result attempt retryAttempt => result.attempts = [attempt, retryAttempt] ∧
      AttemptOf a r attempt ∧ AttemptOf a r' retryAttempt ∧ ShortCode retryAttempt ∧
      ∃ s', Standing a limit spent draws [r, r'] s' ∧ ∀ R, wp program R s ↔ R (.ok result) s'

lemma TransportEnds.of_wp {program program' : Pilot SecTransportResult} {s s' : PilotState}
    {result : Exchange} (h : TransportEnds a limit spent draws r program' s' result)
    (hwp : ∀ R, wp program R s ↔ wp program' R s') :
    TransportEnds a limit spent draws r program s result := by
  cases result with
  | raised =>
      intro R hR
      rw [hwp]
      exact h R hR
  | single result attempt =>
      obtain ⟨hattempts, hattempt, hcode, s₁, hs₁, hends⟩ := h
      exact ⟨hattempts, hattempt, hcode, s₁, hs₁, fun R => (hwp R).trans (hends R)⟩
  | double r' result attempt retryAttempt =>
      obtain ⟨hattempts, hattempt, hretry, hcode, s₁, hs₁, hends⟩ := h
      exact ⟨hattempts, hattempt, hretry, hcode, s₁, hs₁, fun R => (hwp R).trans (hends R)⟩

lemma retriedResult_attempts (attempt retryAttempt : SecPhysicalAttempt) :
    (retriedResult attempt retryAttempt).attempts = [attempt, retryAttempt] := by
  unfold retriedResult
  split <;> rfl

lemma wp_map {α β : Type} (f : α → β) (y : Pilot α) (Q : Except Raised β → PilotState → Prop) :
    wp (f <$> y) Q s ↔ wp y (fun result => Q (result.map f)) s := by
  rw [← bind_pure_comp, wp_bind]
  unfold wp
  cases (y s).1 <;> rfl

lemma retryStep_ends {attempt : SecPhysicalAttempt} (ha : execution.authorizationId = a)
    (hattempt : AttemptOf a r attempt) (hcode : ShortCode attempt)
    (hs : Standing a limit spent (x.retryReservation.toList ++ draws) [r] s) :
    TransportEnds a limit spent draws r (retryStep execution resource attempt x) s
      (retryExchange execution resource attempt x) := by
  unfold retryExchange
  cases hrequest : reservationRequest execution resource (attempt.permit.attemptNumber + 1) .retry with
  | error raised =>
      intro R hR
      simp only [retryStep, hrequest, wp_bind, wp_call, after]
      exact hR raised s hs.terminals
  | ok request =>
      simp only
      cases hanswer : x.retryReservation with
      | refused raised =>
          simp only
          have hwp : ∀ R, wp (retryStep execution resource attempt x) R s ↔
              if raised.isValueError then
                R (.ok { status := .blocked, reasonCode := "SEC_RETRY_BUDGET_EXHAUSTED",
                         attempts := [attempt] }) s
              else R (.error raised) s := by
            intro R
            simp only [retryStep, hrequest, hanswer, wp_bind, wp_call, after, wp_catching, wp_map,
              reserve, wp_throw, Except.map]
            split <;> rfl
          split
          · rename_i hvalue
            refine ⟨rfl, hattempt, hcode, s, hs.forget, ?_⟩
            intro R
            rw [hwp, if_pos hvalue]
          · rename_i hvalue
            intro R hR
            rw [hwp, if_neg hvalue]
            exact hR raised s hs.terminals
      | granted r' =>
          simp only
          rw [hanswer] at hs
          have hmatches := reservationRequest_ok hrequest r'
          have hauthorization : request.authorizationId = a := hmatches.1.trans ha
          obtain ⟨s', hs', hreserve⟩ := wp_reserve hauthorization hs
          have hwp : ∀ R, wp (retryStep execution resource attempt x) R s ↔
              after (fun retryAttempt => pure (retriedResult attempt retryAttempt)) R
                (send (r'.permit request) x.retried x.retryCompletedAt)
                { s' with handed := s'.handed ++ [r'.requestAttemptId] } := by
            intro R
            simp only [retryStep, hrequest, hanswer, wp_bind, wp_call, after, wp_catching, wp_map,
              hreserve, Except.map, hand, wp_update]
            rfl
          cases hsend : send (r'.permit request) x.retried x.retryCompletedAt with
          | error raised =>
              intro R hR
              rw [hwp, hsend]
              exact hR raised _ hs'.terminals
          | ok retryAttempt =>
              obtain ⟨hretry, hretryCode, -⟩ := send_ok hauthorization rfl hsend
              refine ⟨retriedResult_attempts _ _, hattempt, hretry, hretryCode, _,
                hs'.hand (List.mem_append_right _ (List.mem_singleton_self r')), ?_⟩
              intro R
              rw [hwp, hsend]
              rfl

/-- **The transport**, from its inputs. -/
lemma transport_ends (ha : execution.authorizationId = a)
    (hmatches : permitMatches execution resource permit permit.attemptNumber .initial)
    (hpermit : permit.requestAttemptId = r.requestAttemptId)
    (hs : Standing a limit spent (x.retryReservation.toList ++ draws) [r] s) :
    TransportEnds a limit spent draws r (transportExecute execution resource permit x) s
      (exchange execution resource permit x) := by
  have hauthorization : permit.authorizationId = a := hmatches.1.trans ha
  have hhanded := hs.hand (List.mem_singleton_self r)
  rw [← hpermit] at hhanded
  generalize hs₁ : ({ s with handed := s.handed ++ [permit.requestAttemptId] } : PilotState) = s₁
    at hhanded
  unfold exchange
  cases hidentity : x.identity with
  | error raised =>
      simp only
      have hwp : ∀ R, wp (transportExecute execution resource permit x) R s ↔
          if raised.isValueError then
            R (.ok { status := .blocked, reasonCode := "SEC_CONTACT_RESOLUTION_FAILED",
                     attempts := [unresolvedAttempt permit x.completedAt] }) s₁
          else R (.error raised) s₁ := by
        intro R
        simp only [transportExecute, hand, wp_bind, wp_update, after, hmatches, not_true_eq_false,
          if_false, hidentity, hs₁]
        split <;> rfl
      split
      · rename_i hvalue
        refine ⟨rfl, ⟨hauthorization, hpermit, by simp [unresolvedAttempt]⟩, ?_, s₁, hhanded.forget, ?_⟩
        · rintro code ⟨rfl⟩
          decide
        · intro R
          rw [hwp, if_pos hvalue]
      · rename_i hvalue
        intro R hR
        rw [hwp, if_neg hvalue]
        exact hR raised s₁ hhanded.terminals
  | ok resolved =>
      simp only
      have hwp : ∀ R, wp (transportExecute execution resource permit x) R s ↔
          after (fun attempt =>
            if attempt.succeeded then
              pure { status := .completed, reasonCode := "SEC_TRANSPORT_COMPLETED",
                     attempts := [attempt] }
            else
              match retryRefusal execution resource attempt with
              | some reasonCode => pure { status := .blocked, reasonCode, attempts := [attempt] }
              | none => retryStep execution resource attempt x) R
            (send permit x.sent x.completedAt) s₁ := by
        intro R
        simp only [transportExecute, hand, wp_bind, wp_update, after, hmatches, not_true_eq_false,
          if_false, hidentity, hs₁]
        rfl
      cases hsend : send permit x.sent x.completedAt with
      | error raised =>
          intro R hR
          rw [hwp, hsend]
          exact hR raised s₁ hhanded.terminals
      | ok attempt =>
          obtain ⟨hattempt, hcode, hsame⟩ := send_ok hauthorization hpermit hsend
          simp only [hsend, after] at hwp
          by_cases hsucceeded : attempt.succeeded = true
          · simp only [hsucceeded, if_true] at hwp ⊢
            exact ⟨rfl, hattempt, hcode, s₁, hhanded.forget, hwp⟩
          · simp only [hsucceeded, Bool.false_eq_true, if_false] at hwp ⊢
            cases hrefusal : retryRefusal execution resource attempt with
            | some reasonCode =>
                simp only [hrefusal] at hwp
                exact ⟨rfl, hattempt, hcode, s₁, hhanded.forget, hwp⟩
            | none =>
                simp only [hrefusal] at hwp
                exact (retryStep_ends ha hattempt hcode hhanded).of_wp hwp

end Transport

/-! ## The whole run -/

section Run

variable {ports : PilotPorts} {execution : GateBExecution} {resource : SecAuthorizedResource}
  {permit : SecAttemptPermit} {x : ResourceInput} {r : Reservation} {s : PilotState}

/-- **One resource**, from its inputs. -/
lemma wp_executeResource {R : Except Raised (CompletedSecResource × Nat) → PilotState → Prop}
    (hR : Accounts a R) (ha : execution.authorizationId = a)
    (hmatches : permitMatches execution resource permit permit.attemptNumber .initial)
    (hpermit : permit.requestAttemptId = r.requestAttemptId)
    (hs : Standing a limit spent (x.retryReservation.toList ++ draws) [r] s)
    (next : SecPhysicalAttempt → Nat → CompletedSecResource → Prop)
    (hnext : ∀ attempt spent' done s', Standing a limit spent' draws [] s' →
      (R (.ok (done, attempt.permit.attemptNumber)) s' ↔ next attempt spent' done)) :
    wp (executeResource ports execution resource permit x) R s ↔
      match exchange execution resource permit x with
      | .raised => False
      | .single result attempt =>
          CleanLast ports resource x limit spent r result.status attempt
            (next attempt (spent + attempt.responseBytes))
      | .double r' result attempt retryAttempt =>
          FailureFits limit spent r attempt ∧
            CleanLast ports resource x limit (spent + attempt.responseBytes) r' result.status
              retryAttempt
              (next retryAttempt (spent + attempt.responseBytes + retryAttempt.responseBytes)) := by
  have hends := transport_ends ha hmatches hpermit hs
  simp only [executeResource, wp_bind]
  cases hexchange : exchange execution resource permit x with
  | raised =>
      rw [hexchange] at hends
      exact iff_of_false (hends _ (hR.after _).strict) id
  | single result attempt =>
      rw [hexchange] at hends
      obtain ⟨hattempts, hattempt, hcode, s', hs', hwp⟩ := hends
      rw [hwp]
      simp only [after, hattempts, List.dropLast_singleton, settlePrior, wp_bind, wp_pure,
        List.getLast?_singleton]
      exact wp_settleLast hR hs' hattempt hcode result (fun done s'' => hnext attempt _ done s'')
  | double r' result attempt retryAttempt =>
      rw [hexchange] at hends
      obtain ⟨hattempts, hattempt, hretry, hcode, s', hs', hwp⟩ := hends
      rw [hwp]
      simp only [after, hattempts, List.dropLast, settlePrior, wp_bind, List.getLast?]
      refine wp_settleFailure hs' hattempt (hR.after _).strict ?_
      intro s'' hs''
      simp only [after]
      exact wp_settleLast hR hs'' hretry hcode result (fun done s₃ => hnext retryAttempt _ done s₃)

/-- The reservations that a run may still be granted, from a resource on. -/
def drawsOf : List (SecAuthorizedResource × ResourceInput) → List Reservation
  | [] => []
  | (resource, x) :: rest => (if resource.ordinal = 0 then [] else x.reservation.toList) ++
      (x.retryReservation.toList ++ drawsOf rest)

/-- Where a run stands before a resource: the initial permit is open before the first one, and no
permit is open before the others. -/
def StandsBefore (a : Uuid) (limit spent : Nat) (initial : SecAttemptPermit × Reservation)
    (s : PilotState) (resources : List (SecAuthorizedResource × ResourceInput)) : Prop :=
  Standing a limit spent (drawsOf resources)
    (if (resources.head?.map (·.1.ordinal)) = some 0 then [initial.2] else []) s

lemma StandsBefore.of_standing {initial : SecAttemptPermit × Reservation}
    {rest : List (SecAuthorizedResource × ResourceInput)}
    (hrest : ∀ y ∈ rest, y.1.ordinal ≠ 0) (hs : Standing a limit spent (drawsOf rest) [] s) :
    StandsBefore a limit spent initial s rest := by
  have hhead : (rest.head?.map (·.1.ordinal)) ≠ some 0 := by
    cases rest with
    | nil => simp
    | cons y rest => simpa using hrest y (List.mem_cons_self ..)
  rw [StandsBefore, if_neg hhead]
  exact hs

/-- **The permit of a resource**, from its inputs. -/
lemma wp_acquire {initial : SecAttemptPermit × Reservation} (attemptNumber : Nat)
    {rest : List (SecAuthorizedResource × ResourceInput)} (ha : execution.authorizationId = a)
    (hinitial : initial.1.requestAttemptId = initial.2.requestAttemptId)
    (hs : StandsBefore a limit spent initial s ((resource, x) :: rest)) :
    match permitOf execution initial resource attemptNumber x with
    | none => ∀ R, Strict R → ¬ wp (acquire execution initial.1 resource attemptNumber x) R s
    | some (permit, r) =>
        permitMatches execution resource permit permit.attemptNumber .initial ∧
          permit.requestAttemptId = r.requestAttemptId ∧
          ∃ s', Standing a limit spent (x.retryReservation.toList ++ drawsOf rest) [r] s' ∧
            ∀ R, wp (acquire execution initial.1 resource attemptNumber x) R s ↔
              R (.ok permit) s' := by
  unfold permitOf acquire
  by_cases hordinal : resource.ordinal = 0
  · simp only [StandsBefore, drawsOf, hordinal, List.head?_cons, Option.map_some, if_true,
      List.nil_append] at hs
    simp only [hordinal, if_true]
    by_cases hmatches : permitMatches execution resource initial.1 1 .initial
    · simp only [hmatches, if_true, requirePermit, wp_bind, wp_pure, after]
      have hnumber : initial.1.attemptNumber = 1 := hmatches.2.2.2.2.2.1
      exact ⟨hnumber ▸ hmatches, hinitial, s, hs, fun R => Iff.rfl⟩
    · simp only [hmatches, if_false, requirePermit, wp_bind, wp_throw, after]
      exact fun R hR => hR _ s hs.terminals
  · simp only [StandsBefore, drawsOf, hordinal, List.head?_cons, Option.map_some,
      Option.some.injEq, if_false] at hs
    simp only [hordinal, if_false, reserveResource]
    cases hrequest : reservationRequest execution resource attemptNumber .initial with
    | error raised =>
        simp only [wp_bind, wp_call, after]
        exact fun R hR => hR raised s hs.terminals
    | ok request =>
        cases hanswer : x.reservation with
        | refused raised =>
            simp only [wp_bind, wp_call, after, reserve, wp_throw]
            exact fun R hR => hR raised s hs.terminals
        | granted r =>
            rw [hanswer] at hs
            have hmatches := reservationRequest_ok hrequest r
            have hauthorization : request.authorizationId = a := hmatches.1.trans ha
            obtain ⟨s', hs', hreserve⟩ := wp_reserve hauthorization hs
            have hnumber : (r.permit request).attemptNumber = attemptNumber :=
              hmatches.2.2.2.2.2.1
            refine ⟨hnumber ▸ hmatches, rfl, s', hs', ?_⟩
            intro R
            simp only [wp_bind, wp_call, after, hreserve, requirePermit, hmatches, if_true, wp_pure]

/-- **The loop**, from its inputs. -/
lemma wp_executeResources {plan : SecAuthorizedPlan}
    (initial : SecAttemptPermit × Reservation) (ha : execution.authorizationId = a)
    (hinitial : initial.1.requestAttemptId = initial.2.requestAttemptId)
    (resources : List (SecAuthorizedResource × ResourceInput)) (attemptNumber : Nat)
    (completed : List CompletedSecResource) (spent : Nat) (s : PilotState)
    (htail : ∀ y ∈ resources.tail, y.1.ordinal ≠ 0)
    (hs : StandsBefore a limit spent initial s resources) :
    wp (executeResources ports execution plan initial.1 resources attemptNumber completed)
        (after (finishRun ports) fun _ s => Accounted a s) s ↔
      Clean ports execution plan initial limit resources attemptNumber spent completed := by
  have hR : Accounts a (after (finishRun ports) fun _ s => Accounted a s) := fun _ _ => Iff.rfl
  induction resources generalizing attemptNumber completed spent s with
  | nil =>
      rw [executeResources, Clean, wp_pure]
      simp only [StandsBefore, List.head?_nil, Option.map_none, reduceCtorEq, if_false] at hs
      simp only [after, finishRun, wp_bind, wp_call]
      cases ports.admitDocuments with
      | error raised => simpa [after] using hs.not_accounted
      | ok admitted =>
          cases ports.evaluate with
          | error raised => simpa [after] using hs.not_accounted
          | ok status =>
              simp only [true_and, Except.ok.injEq, exists_eq', iff_true]
              exact hs.accounted _
  | cons y rest ih =>
      obtain ⟨resource, x⟩ := y
      have hrest : ∀ y ∈ rest, y.1.ordinal ≠ 0 := htail
      have hacquire := wp_acquire attemptNumber ha hinitial hs
      rw [executeResources, Clean, wp_bind]
      cases hpermit : permitOf execution initial resource attemptNumber x with
      | none =>
          rw [hpermit] at hacquire
          exact iff_of_false (hacquire _ (hR.after _).strict) id
      | some granted =>
          obtain ⟨permit, r⟩ := granted
          rw [hpermit] at hacquire
          obtain ⟨hmatches, hid, s', hs', hwp⟩ := hacquire
          rw [hwp]
          simp only [after, wp_bind]
          refine wp_executeResource (hR.after _) ha hmatches hid hs'
            (fun attempt spent done =>
              lineageBroken plan.filingIndex.path plan.primaryDocument.path
                  (completed ++ [done]) = true ∨
                Clean ports execution plan initial limit rest (attempt.permit.attemptNumber + 1)
                  spent (completed ++ [done])) ?_
          intro attempt spent' done s'' hs''
          simp only [after]
          by_cases hbroken : lineageBroken plan.filingIndex.path plan.primaryDocument.path
              (completed ++ [done]) = true
          · simp only [hbroken, if_true, wp_bind, true_or, iff_true]
            exact (wp_blockResourceFailure hs'' _ _ _ _ hR).mpr (by decide)
          · simp only [hbroken, Bool.false_eq_true, if_false, false_or]
            exact ih _ _ spent' s'' (fun y hy => hrest y (List.mem_of_mem_tail hy))
              (.of_standing hrest hs'')

end Run

/-- A run starts from an execution that was started: its grant stands, its initial permit is
reserved, and the reservations still to come will not clash with a stored row. -/
structure AuthorizedStart (plan : SecAuthorizedPlan) (start : SecExecutionStartResult)
    (inputs : PilotInputs) (r : Reservation) (limit : Nat) (db : Db) : Prop where
  grant : ∃ grant, grantOf start.execution.authorizationId db = some grant ∧ grant.byteLimit = limit
  isOpen : Open start.execution.authorizationId r db
  permit : start.initialPermit.requestAttemptId = r.requestAttemptId
  fresh : Fresh (drawsOf (plan.resources inputs)) db

/-- The state in which a run of the pilot ends. -/
def pilotEnd (ports : PilotPorts) (plan : SecAuthorizedPlan) (start : SecExecutionStartResult)
    (inputs : PilotInputs) (db : Db) : PilotState :=
  (executeAuthorized ports plan start inputs { db, handed := [], terminals := [] }).2

lemma accounted_pilotEnd {ports : PilotPorts} {plan : SecAuthorizedPlan}
    {start : SecExecutionStartResult} {inputs : PilotInputs} {db : Db} :
    Accounted a (pilotEnd ports plan start inputs db) ↔
      wp (executeAuthorized ports plan start inputs) (fun _ s => Accounted a s)
        { db, handed := [], terminals := [] } := Iff.rfl

/-- **What a pilot run leaves behind.**  It ends with every handed-out permit settled and exactly
one terminal record if and only if it is clean. -/
theorem accounted_iff_clean (ports : PilotPorts) (plan : SecAuthorizedPlan)
    (start : SecExecutionStartResult) (inputs : PilotInputs) (r : Reservation) (limit : Nat) (db : Db)
    (hstart : AuthorizedStart plan start inputs r limit db) :
    Accounted start.execution.authorizationId (pilotEnd ports plan start inputs db) ↔
      Clean ports start.execution plan (start.initialPermit, r) limit (plan.resources inputs) 1
        (settledBytes start.execution.authorizationId db) [] := by
  have htail : ∀ y ∈ (plan.resources inputs).tail, y.1.ordinal ≠ 0 := by
    intro y hy
    simp only [SecAuthorizedPlan.resources, List.tail_cons, List.mem_cons, List.not_mem_nil,
      or_false] at hy
    rcases hy with rfl | rfl
    · simp [plan.secondOrdinal]
    · simp [plan.thirdOrdinal]
  have hbefore : StandsBefore start.execution.authorizationId limit
      (settledBytes start.execution.authorizationId db) (start.initialPermit, r)
      { db, handed := [], terminals := [] } (plan.resources inputs) := by
    have hhead : ((plan.resources inputs).head?.map (·.1.ordinal)) = some 0 := by
      simp [SecAuthorizedPlan.resources, plan.firstOrdinal]
    rw [StandsBefore, if_pos hhead]
    exact ⟨⟨hstart.grant, rfl, hstart.fresh⟩, rfl, by simpa using hstart.isOpen, by simp, by simp⟩
  rw [accounted_pilotEnd, executeAuthorized, wp_bind]
  exact wp_executeResources (start.initialPermit, r) rfl hstart.permit (plan.resources inputs) 1 []
    _ _ htail hbefore

/-! ### A blocked run, and a run that is left open -/

/-- A plan with the slices and endpoints of the resource contract. -/
lemma submissions_length : 1 ≤ "SEC_SUBMISSIONS".length ∧ "SEC_SUBMISSIONS".length ≤ 64 := by decide

lemma submissionsJson_length :
    1 ≤ "SEC_SUBMISSIONS_JSON".length ∧ "SEC_SUBMISSIONS_JSON".length ≤ 128 := by decide

lemma filingIndex_length : 1 ≤ "SEC_FILING_INDEX".length ∧ "SEC_FILING_INDEX".length ≤ 64 := by
  decide

lemma filingDocument_length :
    1 ≤ "SEC_FILING_DOCUMENT".length ∧ "SEC_FILING_DOCUMENT".length ≤ 128 := by decide

lemma firstAttempt_numbered : 1 ≤ 1 ∧ 1 ≤ 4 := by decide

def samplePlan : SecAuthorizedPlan where
  submissions :=
    { planId := 3, planChecksum := "p", sliceId := "SEC_SUBMISSIONS", ordinal := 0
      endpointId := "SEC_SUBMISSIONS_JSON", path := "/submissions/CIK0000320193.json"
      maxResponseBytes := 2097152
      sliceLength := submissions_length, endpointLength := submissionsJson_length
      ordinalBound := by decide }
  filingIndex :=
    { planId := 3, planChecksum := "p", sliceId := "SEC_FILING_INDEX", ordinal := 1
      endpointId := "SEC_FILING_DOCUMENT", path := "/Archives/edgar/data/320193/1/index.htm"
      maxResponseBytes := 1048576
      sliceLength := filingIndex_length, endpointLength := filingDocument_length
      ordinalBound := by decide }
  primaryDocument :=
    { planId := 3, planChecksum := "p", sliceId := "SEC_PRIMARY_DOCUMENT", ordinal := 2
      endpointId := "SEC_FILING_DOCUMENT", path := "/Archives/edgar/data/320193/1/report.htm"
      maxResponseBytes := 20971520
      sliceLength := by decide, endpointLength := filingDocument_length, ordinalBound := by decide }
  firstOrdinal := rfl
  secondOrdinal := rfl
  thirdOrdinal := rfl

def sampleReservation : Reservation where
  requestAttemptId := 21
  consumptionId := 22
  reservedBytes := 8
  reservedAt := 5
  bounded := by decide

def sampleExecution : GateBExecution where
  authorizationId := 1
  authorizationChecksum := "c"
  approvalId := 2
  planId := 3
  planChecksum := "p"
  provider := "SEC_EDGAR_PUBLIC_V1"
  securityId := 4
  issuerId := 5
  providerSecurityIdentifier := "0000320193"

/-- An execution that was started on the ten-byte grant, with eight bytes reserved. -/
def sampleStart : SecExecutionStartResult where
  execution := sampleExecution
  initialPermit :=
    { authorizationId := 1, planId := 3, planChecksum := "p", sliceId := "SEC_SUBMISSIONS"
      endpointId := "SEC_SUBMISSIONS_JSON", attemptNumber := 1, kind := .initial
      sliceLength := submissions_length, endpointLength := submissionsJson_length
      numbered := firstAttempt_numbered
      requestAttemptId := 21 }

def sampleDb : Db :=
  { tenByteGrant with
    consumptions := ⟨[sampleReservation.row 1], by simp, by decide⟩ }

def samplePorts : PilotPorts where
  ingestionContext _ := .ok ()
  acceptsMime _ _ := true
  parse _ _ := .ok []
  admitDocuments := .ok ()
  evaluate := .ok .passed

/-- A first response of three bytes, and a storage that behaves as told; the other resources are not
reached. -/
def sampleInputs (statusCode : Nat) (storage : Except Raised Unit) : PilotInputs :=
  let x : ResourceInput :=
    { reservation := .refused (.validation "SEC_ATTEMPT_BUDGET_EXHAUSTED"), identity := .ok ()
      sent := .response { statusCode, body := [1, 2, 3], contentType := none }, completedAt := 9
      retryReservation := .refused (.validation "SEC_ATTEMPT_BUDGET_EXHAUSTED")
      retried := .httpTimeoutError, retryCompletedAt := 9, storage, manifest := .ok () }
  { submissions := x, filingIndex := x, primaryDocument := x }

lemma sampleStart_authorized (statusCode : Nat) (storage : Except Raised Unit) :
    AuthorizedStart samplePlan sampleStart (sampleInputs statusCode storage) sampleReservation 10
      sampleDb := by
  refine ⟨⟨_, rfl, rfl⟩, rfl, rfl, ⟨?_, ?_, ?_⟩⟩ <;>
    simp [drawsOf, SecAuthorizedPlan.resources, sampleInputs, PortAnswer.toList]

theorem accounted_iff_clean_not_found :
    Accounted 1 (pilotEnd samplePorts samplePlan sampleStart (sampleInputs 404 (.ok ())) sampleDb) :=
  (accounted_iff_clean samplePorts samplePlan sampleStart _ sampleReservation 10 sampleDb
    (sampleStart_authorized 404 (.ok ()))).mpr
    (show FailureFits 10 0 sampleReservation _ from
      ⟨by decide, by decide, by decide, by decide⟩)

/-- **A storage write that fails leaves the permit reserved and the run without a terminal.** -/
theorem not_accounted_storage_failure :
    AuthorizedStart samplePlan sampleStart (sampleInputs 200 (.error (.other "disk full")))
        sampleReservation 10 sampleDb ∧
      ¬ Accounted 1 (pilotEnd samplePorts samplePlan sampleStart
        (sampleInputs 200 (.error (.other "disk full"))) sampleDb) := by
  refine ⟨sampleStart_authorized _ _, ?_⟩
  intro h
  have hterminal := h.terminal
  revert hterminal
  decide

end StockResearch.LiveEvidence
