import Mathlib
import StockResearch.Providers.Tushare
import StockResearch.Core.Tiling

/-!
# Planning a synchronization

`TushareAdapter.plan` cuts a range of dates into slices of at most 31 days, as long as the budget
lasts.  A plan that the budget cuts short can be taken up again from a checkpoint.

**The loop.**  Four budgets shrink while a cursor moves through the range.  `Sliced` says where the
loop stands after some turns: the slices are the first intervals of the range, and what they take is
what the budgets have lost.

* `sliceLoop_ok`: the loop stops because the range or a budget is used up.
* **`plan_law`**: the slices of every plan, and that a plan which is taken up again goes on where the
  first one stopped.

Dates are ordinals; adding days to one raises `OverflowError` past the year 9999.
-/

namespace StockResearch.Providers

open PyTime Checked Tiling

/-! ## Days -/

/-- A `date`, by its proleptic Gregorian ordinal. -/
structure Day where
  ordinal : Nat
  valid : 1 ≤ ordinal ∧ ordinal ≤ 3652059
deriving DecidableEq

instance : LE Day := ⟨fun a b => a.ordinal ≤ b.ordinal⟩

instance (a b : Day) : Decidable (a ≤ b) := inferInstanceAs (Decidable (a.ordinal ≤ b.ordinal))

/-- `day + timedelta(days=n)` -/
def Day.add (day : Day) (n : Nat) : Except String Day :=
  if h : day.ordinal + n ≤ 3652059 then
    .ok ⟨day.ordinal + n, day.valid.1.trans (Nat.le_add_right _ _), h⟩
  else .error "OverflowError"

/-- `min(a, b)` -/
def Day.earlier (a b : Day) : Day := if b.ordinal < a.ordinal then b else a

/-! ## Requests -/

inductive TushareSyncMode where
  | offlineContract | live
deriving DecidableEq, Repr

inductive TushareEntitlementStatus where
  | approved | blocked | unknown
deriving DecidableEq, Repr

inductive ProviderLicenseStatus where
  | approved | restrictedReviewRequired | blocked | unknownRequiresReview
deriving DecidableEq, Repr

/-- `license_status.value` -/
def ProviderLicenseStatus.value : ProviderLicenseStatus → String
  | .approved => "APPROVED"
  | .restrictedReviewRequired => "RESTRICTED_REVIEW_REQUIRED"
  | .blocked => "BLOCKED"
  | .unknownRequiresReview => "UNKNOWN_REQUIRES_REVIEW"

inductive ProviderCredentialStatus where
  | notRequired | notRead | configuredMetadataOnly | missing | blocked
deriving DecidableEq, Repr

inductive ProviderLiveAuthorizationStatus where
  | notAttempted | authorized | expired | consumed | blocked
deriving DecidableEq, Repr

inductive TusharePlanStatus where
  | ready | partly | blocked
deriving DecidableEq, Repr

/-- `TusharePlanBudget` -/
structure TusharePlanBudget where
  maxRequests : Nat
  maxRecords : Nat
  maxBytes : Nat
  maxResponseBytes : Nat
  maxSlices : Nat
  pageLimit : Nat
  requests_ok : 1 ≤ maxRequests ∧ maxRequests ≤ 10000
  records_ok : 1 ≤ maxRecords ∧ maxRecords ≤ 10000000
  bytes_ok : 1 ≤ maxBytes ∧ maxBytes ≤ 10737418240
  response_ok : 1 ≤ maxResponseBytes ∧ maxResponseBytes ≤ 52428800
  slices_ok : 1 ≤ maxSlices ∧ maxSlices ≤ 10000
  page_ok : 1 ≤ pageLimit ∧ pageLimit ≤ 10000
  response_le : maxResponseBytes ≤ maxBytes

/-- `TusharePlanCheckpoint` -/
structure TusharePlanCheckpoint where
  endpoint : String
  providerSecurityIdentifier : String
  nextDate : Day
  revision : Nat
  consumedRequests : Nat
  consumedRecords : Nat
  consumedBytes : Nat

/-- `TusharePlanRequest`, with its validator `validate_request_bounds` as fields. -/
structure TusharePlanRequest where
  capabilityCode : String
  providerSecurityIdentifier : Option String
  dateFrom : Day
  dateTo : Day
  /-- `as_of_time.date()` -/
  asOfDate : Day
  syncMode : TushareSyncMode
  endpoint : TushareEndpoint
  fields : List String
  budget : TusharePlanBudget
  checkpoint : Option TusharePlanCheckpoint
  licenseStatus : ProviderLicenseStatus
  commercialUseApproved : Bool
  rawStorageApproved : Bool
  credentialStatus : ProviderCredentialStatus
  liveAuthorizationStatus : ProviderLiveAuthorizationStatus
  entitlementStatus : TushareEntitlementStatus
  range : dateFrom ≤ dateTo
  range_le : dateTo.ordinal - dateFrom.ordinal ≤ 366
  notFuture : dateTo ≤ asOfDate
  fields_sorted : UniqueSortedNames fields
  scope : ∀ c ∈ checkpoint, c.endpoint = endpoint.value ∧
    some c.providerSecurityIdentifier = providerSecurityIdentifier
  checkpoint_range : ∀ c ∈ checkpoint, dateFrom ≤ c.nextDate ∧ c.nextDate ≤ dateTo

/-! ## Gates -/

def capabilityEndpoints : String → Option (List TushareEndpoint)
  | "FETCH_SECURITY_MASTER" => some [.stockBasic]
  | "FETCH_MARKET_CALENDAR" => some [.tradeCal]
  | "FETCH_EOD_PRICES" => some [.daily]
  | "FETCH_FINANCIAL_STATEMENTS" => some [.balanceSheet, .cashFlow, .income]
  | "FETCH_FINANCIAL_METRICS" => some [.finaIndicator]
  | "FETCH_CORPORATE_ACTIONS" => some [.dividend]
  | "FETCH_DISCLOSURE_METADATA" => some [.disclosureDate]
  | _ => none

/-- `tuple(sorted(set(reasons)))` -/
def sortedReasons (reasons : List String) : List String := reasons.dedup.insertionSort (· ≤ ·)

namespace TusharePlanRequest

variable (request : TusharePlanRequest)

def productionBlockingReasons : List String :=
  sortedReasons
    ((if request.commercialUseApproved then [] else ["COMMERCIAL_USE_UNCONFIRMED"]) ++
      (if request.rawStorageApproved then [] else ["RAW_STORAGE_RIGHT_UNCONFIRMED"]) ++
      (if request.licenseStatus = .approved then []
        else ["LICENSE_" ++ request.licenseStatus.value]) ++
      (if request.credentialStatus = .configuredMetadataOnly then [] else ["CREDENTIAL_NOT_READ"]) ++
      (if request.liveAuthorizationStatus = .authorized then [] else ["LIVE_NOT_AUTHORIZED"]) ++
      (match request.entitlementStatus with
        | .unknown => ["PROVIDER_ENTITLEMENT_UNKNOWN"]
        | .blocked => ["PROVIDER_ENTITLEMENT_BLOCKED"]
        | .approved => []))

/-- `_remaining_budget`: requests, records and bytes. -/
def remainingBudget : Int × Int × Int :=
  match request.checkpoint with
  | none => (request.budget.maxRequests, request.budget.maxRecords, request.budget.maxBytes)
  | some c => (request.budget.maxRequests - c.consumedRequests,
      request.budget.maxRecords - c.consumedRecords, request.budget.maxBytes - c.consumedBytes)

/-- The reasons for which `plan` refuses a request. -/
def blocking : List String :=
  (match capabilityEndpoints request.capabilityCode with
    | none => ["CAPABILITY_NOT_APPROVED"]
    | some endpoints =>
        if request.endpoint ∈ endpoints then [] else ["ENDPOINT_NOT_APPROVED_FOR_CAPABILITY"]) ++
  (if request.fields ⊆ request.endpoint.fields then [] else ["FIELDS_NOT_APPROVED"]) ++
  (if request.providerSecurityIdentifier = none then ["PROVIDER_MAPPING_MISSING"] else []) ++
  (if request.entitlementStatus = .blocked then ["PROVIDER_ENTITLEMENT_BLOCKED"] else []) ++
  (if request.syncMode = .live then request.productionBlockingReasons else []) ++
  (if request.remainingBudget.1 ≤ 0 ∨ request.remainingBudget.2.1 ≤ 0 ∨
      request.remainingBudget.2.2 ≤ 0 then ["SYNC_BUDGET_EXHAUSTED"] else [])

/-- The first day of the plan. -/
def start : Day :=
  match request.checkpoint with
  | none => request.dateFrom
  | some c => c.nextDate

end TusharePlanRequest

/-! ## Slices -/

/-- `ProviderSyncSlice`, with the limits that its request parameters carry. -/
structure ProviderSyncSlice where
  sliceId : String
  ordinal : Nat
  rangeStart : Day
  rangeEnd : Day
  limit : Int
  maxResponseBytes : Int

/-- The slice as an interval of ordinals. -/
def ProviderSyncSlice.range (s : ProviderSyncSlice) : Nat × Nat :=
  (s.rangeStart.ordinal, s.rangeEnd.ordinal)

/-- The local variables of the loop. -/
structure SliceState where
  slices : List ProviderSyncSlice
  cursor : Day
  requestsLeft : Int
  recordsLeft : Int
  bytesLeft : Int

/-- `value.upper()` on a text of lower-case letters and underscores. -/
def upperAscii (text : String) : String := String.ofList (text.toList.map Char.toUpper)

/-- The condition of the loop. -/
def SliceState.goesOn (s : SliceState) (request : TusharePlanRequest) : Prop :=
  s.cursor ≤ request.dateTo ∧ 0 < s.requestsLeft ∧ 0 < s.recordsLeft ∧ 0 < s.bytesLeft ∧
    s.slices.length < request.budget.maxSlices

instance (s : SliceState) (request : TusharePlanRequest) : Decidable (s.goesOn request) :=
  inferInstanceAs (Decidable (_ ∧ _))

/-- One turn of the loop. -/
def SliceState.next (s : SliceState) (request : TusharePlanRequest) : Except String SliceState := do
  let last ← s.cursor.add 30
  let rangeEnd := last.earlier request.dateTo
  let limit := min (request.budget.pageLimit : Int) s.recordsLeft
  let responseBytes := min (request.budget.maxResponseBytes : Int) s.bytesLeft
  let ordinal := s.slices.length
  let cursor ← rangeEnd.add 1
  return {
    slices := s.slices ++ [{
      sliceId := "TUSHARE_" ++ upperAscii request.endpoint.value ++ "_" ++
        String.ofList (padded 4 ordinal)
      ordinal
      rangeStart := s.cursor
      rangeEnd
      limit
      maxResponseBytes := responseBytes }]
    cursor
    requestsLeft := s.requestsLeft - 1
    recordsLeft := s.recordsLeft - limit
    bytesLeft := s.bytesLeft - responseBytes }

/-- The loop, for a number of turns that covers the range. -/
def sliceLoop (request : TusharePlanRequest) : Nat → SliceState → Except String SliceState
  | 0, s => .ok s
  | turns + 1, s =>
      if s.goesOn request then do
        let s ← s.next request
        sliceLoop request turns s
      else .ok s

/-- `ProviderSyncPlanDraft.validate_finite_dag`, for slices without dependencies. -/
def validateFiniteDag (slices : List ProviderSyncSlice) : Except String Unit := do
  check (slices.length < 1 ∨ 10000 < slices.length) "ValidationError"
  check ((slices.map (·.sliceId)).dedup.length ≠ slices.length) "slice identifiers must be unique"
  check (slices.map (·.ordinal) ≠ List.range slices.length)
    "slice ordinals must be contiguous and ordered"

structure TusharePlanResult where
  status : TusharePlanStatus
  blockingReasons : List String
  productionBlockingReasons : List String
  warningCodes : List String
  slices : List ProviderSyncSlice
  estimatedRequests : Nat
  estimatedRecords : Int
  estimatedBytes : Int
  remainingRequests : Int
  remainingRecords : Int
  remainingBytes : Int

def blockedResult (request : TusharePlanRequest) (reasons : List String) : TusharePlanResult where
  status := .blocked
  blockingReasons := reasons
  productionBlockingReasons := request.productionBlockingReasons
  warningCodes := []
  slices := []
  estimatedRequests := 0
  estimatedRecords := 0
  estimatedBytes := 0
  remainingRequests := max request.remainingBudget.1 0
  remainingRecords := max request.remainingBudget.2.1 0
  remainingBytes := max request.remainingBudget.2.2 0

/-- The state before the first turn. -/
def firstState (request : TusharePlanRequest) : SliceState where
  slices := []
  cursor := request.start
  requestsLeft := request.remainingBudget.1
  recordsLeft := request.remainingBudget.2.1
  bytesLeft := request.remainingBudget.2.2

/-- `TushareAdapter.plan` -/
def plan (request : TusharePlanRequest) : Except String TusharePlanResult := do
  if request.blocking ≠ [] then
    return blockedResult request (sortedReasons request.blocking)
  else
    let s ← sliceLoop request (request.dateTo.ordinal + 1 - request.start.ordinal)
      (firstState request)
    if s.slices = [] then return blockedResult request ["SYNC_BUDGET_EXHAUSTED"]
    else
      validateFiniteDag s.slices
      return {
        status := if s.cursor ≤ request.dateTo then .partly else .ready
        blockingReasons := []
        productionBlockingReasons := request.productionBlockingReasons
        warningCodes := if s.cursor ≤ request.dateTo then ["PLAN_TRUNCATED_BY_BUDGET"] else []
        slices := s.slices
        estimatedRequests := s.slices.length
        estimatedRecords := (s.slices.map (·.limit)).sum
        estimatedBytes := (s.slices.map (·.maxResponseBytes)).sum
        remainingRequests := request.remainingBudget.1
        remainingRecords := request.remainingBudget.2.1
        remainingBytes := request.remainingBudget.2.2 }

/-! ## Where the loop stands -/

/-- The loop after `k` turns: the slices are the first `k` intervals of the range, and the budgets
have lost what the slices take. -/
structure Sliced (request : TusharePlanRequest) (k : Nat) (s : SliceState) : Prop where
  ranges : s.slices.map (·.range) =
    (List.range k).map (tile 31 request.start.ordinal request.dateTo.ordinal)
  ordinals : s.slices.map (·.ordinal) = List.range k
  ids : s.slices.map (·.sliceId) = (List.range k).map fun i =>
    "TUSHARE_" ++ upperAscii request.endpoint.value ++ "_" ++ String.ofList (padded 4 i)
  cursor : s.cursor.ordinal = min (request.start.ordinal + k * 31) (request.dateTo.ordinal + 1)
  inRange : ∀ i < k, request.start.ordinal + i * 31 ≤ request.dateTo.ordinal
  fits : ∀ i < k, request.start.ordinal + i * 31 + 30 ≤ 3652059
  slices_le : k ≤ request.budget.maxSlices
  requests : s.requestsLeft = request.remainingBudget.1 - k
  requests_nonneg : 0 ≤ s.requestsLeft
  records : (s.slices.map (·.limit)).sum + s.recordsLeft = request.remainingBudget.2.1
  records_nonneg : 0 ≤ s.recordsLeft
  records_ge : request.remainingBudget.2.1 - k * request.budget.pageLimit ≤ s.recordsLeft
  bytes : (s.slices.map (·.maxResponseBytes)).sum + s.bytesLeft = request.remainingBudget.2.2
  bytes_nonneg : 0 ≤ s.bytesLeft
  bytes_ge : request.remainingBudget.2.2 - k * request.budget.maxResponseBytes ≤ s.bytesLeft

lemma Sliced.length {request : TusharePlanRequest} {k : Nat} {s : SliceState}
    (h : Sliced request k s) : s.slices.length = k := by
  rw [← List.length_map (·.ordinal), h.ordinals, List.length_range]

lemma TusharePlanRequest.start_le (request : TusharePlanRequest) :
    request.start.ordinal ≤ request.dateTo.ordinal := by
  unfold TusharePlanRequest.start
  split
  · exact request.range
  · rename_i c hc
    exact (request.checkpoint_range c hc).2

lemma Day.add_ok {day day' : Day} {n : Nat} :
    day.add n = .ok day' ↔ day'.ordinal = day.ordinal + n := by
  unfold Day.add
  split_ifs with h
  · rw [Except.ok.injEq]
    constructor
    · rintro rfl
      rfl
    · intro heq
      cases day'
      simp only [Day.mk.injEq]
      exact heq.symm
  · refine iff_of_false (by rintro ⟨⟩) fun heq => ?_
    have := day'.valid
    omega

lemma Day.earlier_ordinal (a b : Day) : (a.earlier b).ordinal = min a.ordinal b.ordinal := by
  unfold Day.earlier
  split_ifs <;> omega

/-- What a turn that returns has made of the state. -/
lemma SliceState.next_ok {request : TusharePlanRequest} {s s' : SliceState}
    (h : s.next request = .ok s') :
    s.cursor.ordinal + 30 ≤ 3652059 ∧
      s'.cursor.ordinal = min (s.cursor.ordinal + 30) request.dateTo.ordinal + 1 ∧
      ∃ slice : ProviderSyncSlice, s'.slices = s.slices ++ [slice] ∧
        slice.sliceId = "TUSHARE_" ++ upperAscii request.endpoint.value ++ "_" ++
          String.ofList (padded 4 s.slices.length) ∧
        slice.ordinal = s.slices.length ∧
        slice.range = (s.cursor.ordinal, min (s.cursor.ordinal + 30) request.dateTo.ordinal) ∧
        slice.limit = min (request.budget.pageLimit : Int) s.recordsLeft ∧
        slice.maxResponseBytes = min (request.budget.maxResponseBytes : Int) s.bytesLeft ∧
        s'.requestsLeft = s.requestsLeft - 1 ∧ s'.recordsLeft = s.recordsLeft - slice.limit ∧
        s'.bytesLeft = s.bytesLeft - slice.maxResponseBytes := by
  obtain ⟨last, hlast, h⟩ := Checked.bind_ok.mp h
  obtain ⟨cursor, hcursor, h⟩ := Checked.bind_ok.mp h
  cases h
  have hlast := Day.add_ok.mp hlast
  have hcursor := Day.add_ok.mp hcursor
  rw [Day.earlier_ordinal, hlast] at hcursor
  have hvalid := last.valid
  refine ⟨by omega, hcursor, _, rfl, rfl, rfl, ?_, rfl, rfl, rfl, rfl, rfl⟩
  rw [ProviderSyncSlice.range, Day.earlier_ordinal, hlast]

lemma sliced_first {request : TusharePlanRequest} (hrequests : 0 ≤ request.remainingBudget.1)
    (hrecords : 0 ≤ request.remainingBudget.2.1) (hbytes : 0 ≤ request.remainingBudget.2.2) :
    Sliced request 0 (firstState request) where
  ranges := rfl
  ordinals := rfl
  ids := rfl
  cursor := by
    have := request.start_le
    simp only [firstState]
    omega
  inRange := by simp
  fits := by simp
  slices_le := Nat.zero_le _
  requests := by simp [firstState]
  requests_nonneg := hrequests
  records := by simp [firstState]
  records_nonneg := hrecords
  records_ge := by simp [firstState]
  bytes := by simp [firstState]
  bytes_nonneg := hbytes
  bytes_ge := by simp [firstState]

/-- **One turn adds the next interval.** -/
lemma Sliced.next {request : TusharePlanRequest} {k : Nat} {s s' : SliceState}
    (h : Sliced request k s) (hgoes : s.goesOn request) (hnext : s.next request = .ok s') :
    Sliced request (k + 1) s' := by
  obtain ⟨hfits, hcursor, slice, hslices, hid, hordinal, hrange, hlimit, hbytes, hrequests', hrecords',
    hbytes'⟩ := SliceState.next_ok hnext
  obtain ⟨hin, hrequests, hrecords, hleft, hmax⟩ := hgoes
  have hlength := h.length
  have hin : s.cursor.ordinal ≤ request.dateTo.ordinal := hin
  have hposition : s.cursor.ordinal = request.start.ordinal + k * 31 := by
    have := h.cursor
    omega
  have hpage := request.budget.page_ok
  have hresponse := request.budget.response_ok
  have hrest := h.records_ge
  have hrestBytes := h.bytes_ge
  refine ⟨?_, ?_, ?_, ?_, fun i hi => ?_, fun i hi => ?_, ?_, ?_, ?_, ?_, ?_, ?_, ?_, ?_, ?_⟩
  · rw [hslices, List.map_append, h.ranges, List.range_succ, List.map_append]
    simp only [List.map_cons, List.map_nil, hrange, hposition, tile]
  · rw [hslices, List.map_append, h.ordinals, List.range_succ]
    simp only [List.map_cons, List.map_nil, hordinal, hlength]
  · rw [hslices, List.map_append, h.ids, List.range_succ, List.map_append]
    simp only [List.map_cons, List.map_nil, hid, hlength]
  · rw [hcursor, hposition]
    omega
  · rcases Nat.lt_succ_iff_lt_or_eq.mp hi with hi | rfl
    · exact h.inRange i hi
    · omega
  · rcases Nat.lt_succ_iff_lt_or_eq.mp hi with hi | rfl
    · exact h.fits i hi
    · omega
  · omega
  · rw [hrequests', h.requests]
    push_cast
    omega
  · rw [hrequests']
    omega
  · rw [hslices, List.map_append, List.sum_append, hrecords', ← h.records]
    simp only [List.map_cons, List.map_nil, List.sum_cons, List.sum_nil]
    omega
  · rw [hrecords', hlimit]
    omega
  · rw [hrecords', hlimit]
    push_cast
    rw [Int.add_mul]
    omega
  · rw [hslices, List.map_append, List.sum_append, hbytes', ← h.bytes]
    simp only [List.map_cons, List.map_nil, List.sum_cons, List.sum_nil]
    omega
  · rw [hbytes', hbytes]
    omega
  · rw [hbytes', hbytes]
    push_cast
    rw [Int.add_mul]
    omega

/-- **The loop stops because the range or a budget is used up.** -/
lemma sliceLoop_ok {request : TusharePlanRequest} {turns k : Nat} {s s' : SliceState}
    (h : Sliced request k s) (hturns : request.dateTo.ordinal + 1 - s.cursor.ordinal ≤ turns)
    (hloop : sliceLoop request turns s = .ok s') :
    ∃ m, Sliced request m s' ∧ ¬ s'.goesOn request := by
  induction turns generalizing k s with
  | zero =>
      cases hloop
      refine ⟨k, h, fun hgoes => ?_⟩
      have hin : s'.cursor.ordinal ≤ request.dateTo.ordinal := hgoes.1
      omega
  | succ turns ih =>
      rw [sliceLoop] at hloop
      split_ifs at hloop with hgoes
      · obtain ⟨s₁, hnext, hrest⟩ := Checked.bind_ok.mp hloop
        refine ih (h.next hgoes hnext) ?_ hrest
        have hcursor := (SliceState.next_ok hnext).2.1
        have hin : s.cursor.ordinal ≤ request.dateTo.ordinal := hgoes.1
        omega
      · cases hloop
        exact ⟨k, h, hgoes⟩

/-- The loop raises nothing while the days it computes exist. -/
lemma sliceLoop_total {request : TusharePlanRequest} {turns k : Nat} {s : SliceState}
    (h : Sliced request k s)
    (hfits : ∀ i, request.start.ordinal + i * 31 ≤ request.dateTo.ordinal →
      request.start.ordinal + i * 31 + 30 ≤ 3652059)
    (hlast : request.dateTo.ordinal + 1 ≤ 3652059) :
    ∃ s', sliceLoop request turns s = .ok s' := by
  induction turns generalizing k s with
  | zero => exact ⟨s, rfl⟩
  | succ turns ih =>
      rw [sliceLoop]
      split_ifs with hgoes
      · have hin : s.cursor.ordinal ≤ request.dateTo.ordinal := hgoes.1
        have hcursor := h.cursor
        have hroom := hfits k (by omega)
        obtain ⟨s₁, hnext⟩ : ∃ s₁, s.next request = .ok s₁ := by
          have hvalid := s.cursor.valid
          have hadd : s.cursor.add 30 = .ok ⟨s.cursor.ordinal + 30, by omega⟩ :=
            Day.add_ok.mpr rfl
          have hend := Day.earlier_ordinal ⟨s.cursor.ordinal + 30, by omega⟩ request.dateTo
          dsimp only at hend
          have hafter : (Day.earlier ⟨s.cursor.ordinal + 30, by omega⟩ request.dateTo).add 1 =
              .ok ⟨min (s.cursor.ordinal + 30) request.dateTo.ordinal + 1, by omega⟩ :=
            Day.add_ok.mpr (by rw [hend])
          unfold SliceState.next
          rw [hadd, Checked.ok_bind]
          simp only [hafter, Checked.ok_bind]
          exact ⟨_, rfl⟩
        rw [hnext, Checked.ok_bind]
        exact ih (h.next hgoes hnext)
      · exact ⟨s, rfl⟩

/-! ## Plans -/

/-- What stands behind a plan that is not blocked. -/
structure Planned (request : TusharePlanRequest) (result : TusharePlanResult) (s : SliceState)
    (n : Nat) : Prop where
  unblocked : request.blocking = []
  sliced : Sliced request n s
  stopped : ¬ s.goesOn request
  positive : 0 < n
  slices : result.slices = s.slices
  status : result.status = if s.cursor ≤ request.dateTo then .partly else .ready

lemma remaining_pos {request : TusharePlanRequest} (h : request.blocking = []) :
    0 < request.remainingBudget.1 ∧ 0 < request.remainingBudget.2.1 ∧
      0 < request.remainingBudget.2.2 := by
  unfold TusharePlanRequest.blocking at h
  have hlast := (List.append_eq_nil_iff.mp h).2
  split_ifs at hlast with hbudget
  push Not at hbudget
  exact hbudget

lemma firstSliced {request : TusharePlanRequest} (h : request.blocking = []) :
    Sliced request 0 (firstState request) := by
  obtain ⟨hrequests, hrecords, hbytes⟩ := remaining_pos h
  exact sliced_first hrequests.le hrecords.le hbytes.le

lemma plan_ok {request : TusharePlanRequest} {result : TusharePlanResult}
    (h : plan request = .ok result) (hstatus : result.status ≠ .blocked) :
    ∃ s n, Planned request result s n := by
  unfold plan at h
  split_ifs at h with hblocking
  · cases h
    exact absurd rfl hstatus
  · have hblocking : request.blocking = [] := by simpa using hblocking
    obtain ⟨s, hloop, h⟩ := Checked.bind_ok.mp h
    obtain ⟨n, hsliced, hstopped⟩ := sliceLoop_ok (firstSliced hblocking) le_rfl hloop
    split at h
    · cases h
      exact absurd rfl hstatus
    · rename_i hempty
      obtain ⟨-, h⟩ := Checked.unit_bind_ok.mp h
      cases h
      refine ⟨s, n, hblocking, hsliced, hstopped, ?_, rfl, rfl⟩
      rw [← hsliced.length]
      exact List.length_pos_iff.mpr hempty

/-- The identifiers of the slices are distinct, since their numbers are. -/
lemma validateFiniteDag_ok {request : TusharePlanRequest} {k : Nat} {s : SliceState}
    (h : Sliced request k s) (hpos : 0 < k) : validateFiniteDag s.slices = .ok () := by
  have hlength := h.length
  have hmax := request.budget.slices_ok
  have hle := h.slices_le
  have hids : (s.slices.map (·.sliceId)).Nodup := by
    rw [h.ids]
    refine List.Nodup.map_on (fun i _ j _ heq => ?_) List.nodup_range
    have htexts := congrArg String.toList heq
    simp only [String.toList_append, String.toList_ofList, List.append_cancel_left_eq] at htexts
    exact padded_inj htexts
  simp only [validateFiniteDag, unit_bind_ok, check_ok]
  refine ⟨by omega, ?_, ?_⟩
  · rw [List.Nodup.dedup hids, List.length_map]
    simp
  · rw [h.ordinals, hlength]
    simp

section Law

variable {request : TusharePlanRequest} {result : TusharePlanResult} {s : SliceState} {n : Nat}

/-- The slices of a plan are the first intervals of its range. -/
lemma Planned.ranges (h : Planned request result s n) :
    result.slices.map (·.range) =
      (tiles 31 request.start.ordinal request.dateTo.ordinal).take n := by
  have hcount : n ≤ count 31 request.start.ordinal request.dateTo.ordinal := by
    by_contra hlt
    push Not at hlt
    have hin := h.sliced.inRange _ hlt
    exact absurd ((lt_count_iff (by decide)).mpr hin) (lt_irrefl _)
  rw [h.slices, h.sliced.ranges, take_tiles, Nat.min_eq_left hcount]

lemma Planned.length (h : Planned request result s n) : result.slices.length = n := by
  rw [h.slices, h.sliced.length]

lemma Planned.ready_iff (h : Planned request result s n) :
    result.status = .ready ↔ n = count 31 request.start.ordinal request.dateTo.ordinal := by
  have hcursor := h.sliced.cursor
  have hready : result.status = .ready ↔ ¬ s.cursor.ordinal ≤ request.dateTo.ordinal := by
    rw [h.status]
    change (if s.cursor.ordinal ≤ request.dateTo.ordinal then _ else _) = _ ↔ _
    split_ifs with hin
    · exact iff_of_false (by rintro ⟨⟩) (by simpa using hin)
    · exact iff_of_true rfl hin
  have hmore : n < count 31 request.start.ordinal request.dateTo.ordinal ↔
      request.start.ordinal + n * 31 ≤ request.dateTo.ordinal := lt_count_iff (by decide)
  have hcount : n ≤ count 31 request.start.ordinal request.dateTo.ordinal := by
    have hlength := congrArg List.length h.ranges
    rw [List.length_map, h.length, List.length_take, length_tiles] at hlength
    omega
  rw [hready]
  omega

/-- The ideal slices of the range, one by one. -/
lemma Planned.getElem_range (h : Planned request result s n) {i : Nat} (hi : i < n) :
    ∃ slice, result.slices[i]? = some slice ∧
      slice.range = tile 31 request.start.ordinal request.dateTo.ordinal i := by
  have hlength := h.length
  refine ⟨result.slices[i], List.getElem?_eq_getElem _, ?_⟩
  have hmap : (result.slices.map (·.range))[i]? =
      some (tile 31 request.start.ordinal request.dateTo.ordinal i) := by
    rw [h.slices, h.sliced.ranges, List.getElem?_map, List.getElem?_range hi]
    rfl
  rw [List.getElem?_map, List.getElem?_eq_getElem (by omega)] at hmap
  exact Option.some.inj hmap

/-- What the slices of a plan are: consecutive intervals of at most 31 days from the first day of
the plan, within what is left of the budget, that reach the last day exactly when the plan is
ready. -/
structure WellSliced (request : TusharePlanRequest) (result : TusharePlanResult) : Prop where
  nonempty : result.slices ≠ []
  numbered : result.slices.map (·.ordinal) = List.range result.slices.length
  first : ∀ slice, result.slices[0]? = some slice → slice.rangeStart.ordinal = request.start.ordinal
  span : ∀ slice ∈ result.slices, slice.rangeStart.ordinal ≤ slice.rangeEnd.ordinal ∧
    slice.rangeEnd.ordinal + 1 - slice.rangeStart.ordinal ≤ 31
  consecutive : ∀ i a b, result.slices[i]? = some a → result.slices[i + 1]? = some b →
    b.rangeStart.ordinal = a.rangeEnd.ordinal + 1
  last : ∀ slice, result.slices.getLast? = some slice →
    (slice.rangeEnd.ordinal = request.dateTo.ordinal ↔ result.status = .ready)
  requests : (result.slices.length : Int) ≤ request.remainingBudget.1
  records : (result.slices.map (·.limit)).sum ≤ request.remainingBudget.2.1
  bytes : (result.slices.map (·.maxResponseBytes)).sum ≤ request.remainingBudget.2.2

lemma Planned.of_getElem (h : Planned request result s n) {i : Nat} {slice : ProviderSyncSlice}
    (hi : result.slices[i]? = some slice) :
    i < n ∧ slice.rangeStart.ordinal = request.start.ordinal + i * 31 ∧
      slice.rangeEnd.ordinal =
        min (request.start.ordinal + i * 31 + 30) request.dateTo.ordinal := by
  obtain ⟨hlt, -⟩ := List.getElem?_eq_some_iff.mp hi
  rw [h.length] at hlt
  obtain ⟨slice', hslice, hrange⟩ := h.getElem_range hlt
  obtain rfl : slice' = slice := Option.some.inj (hslice.symm.trans hi)
  exact ⟨hlt, congrArg Prod.fst hrange, congrArg Prod.snd hrange⟩

lemma Planned.wellSliced (h : Planned request result s n) : WellSliced request result := by
  have hlength := h.length
  have hin := h.sliced.inRange
  have hpos := h.positive
  refine ⟨?_, ?_, fun slice hslice => ?_, fun slice hslice => ?_, fun i a b ha hb => ?_,
    fun slice hslice => ?_, ?_, ?_, ?_⟩
  · intro hnil
    rw [hnil, List.length_nil] at hlength
    omega
  · rw [hlength, h.slices, h.sliced.ordinals]
  · obtain ⟨-, hstart, -⟩ := h.of_getElem hslice
    omega
  · obtain ⟨i, hi⟩ := List.getElem?_of_mem hslice
    obtain ⟨hlt, hstart, hend⟩ := h.of_getElem hi
    have := hin i hlt
    omega
  · obtain ⟨-, -, hend⟩ := h.of_getElem ha
    obtain ⟨hlt, hstart, -⟩ := h.of_getElem hb
    have := hin (i + 1) hlt
    omega
  · rw [List.getLast?_eq_getElem?] at hslice
    obtain ⟨hlt, hstart, hend⟩ := h.of_getElem hslice
    have hmore : n < count 31 request.start.ordinal request.dateTo.ordinal ↔
        request.start.ordinal + n * 31 ≤ request.dateTo.ordinal := lt_count_iff (by decide)
    have hthere : n - 1 < count 31 request.start.ordinal request.dateTo.ordinal :=
      (lt_count_iff (by decide)).mpr (hin _ (by omega))
    rw [h.ready_iff]
    rw [hlength] at hend
    omega
  · have hnonneg := h.sliced.requests_nonneg
    rw [h.sliced.requests] at hnonneg
    rw [hlength]
    omega
  · have hsum := h.sliced.records
    have hnonneg := h.sliced.records_nonneg
    rw [h.slices]
    omega
  · have hsum := h.sliced.bytes
    have hnonneg := h.sliced.bytes_nonneg
    rw [h.slices]
    omega

/-- The budget of a request lasts for `n` slices. -/
def TusharePlanRequest.Sufficient (request : TusharePlanRequest) (n : Nat) : Prop :=
  (n : Int) ≤ request.remainingBudget.1 ∧ n ≤ request.budget.maxSlices ∧
    ((n : Int) - 1) * request.budget.pageLimit < request.remainingBudget.2.1 ∧
    ((n : Int) - 1) * request.budget.maxResponseBytes < request.remainingBudget.2.2

/-- A loop whose budget lasts for the whole range gets through it. -/
lemma Sliced.complete {k : Nat} (h : Sliced request k s) (hstopped : ¬ s.goesOn request)
    (hsufficient : request.Sufficient (count 31 request.start.ordinal request.dateTo.ordinal)) :
    k = count 31 request.start.ordinal request.dateTo.ordinal := by
  obtain ⟨hrequests, hslices, hrecords, hbytes⟩ := hsufficient
  have hle : k ≤ count 31 request.start.ordinal request.dateTo.ordinal := by
    by_contra hlt
    push Not at hlt
    exact absurd ((lt_count_iff (by decide)).mpr (h.inRange _ hlt)) (lt_irrefl _)
  by_contra hne
  have hlt : k < count 31 request.start.ordinal request.dateTo.ordinal := by omega
  have hin : request.start.ordinal + k * 31 ≤ request.dateTo.ordinal :=
    (lt_count_iff (by decide)).mp hlt
  generalize count 31 request.start.ordinal request.dateTo.ordinal = total at *
  have hk : (k : Int) ≤ (total : Int) - 1 := by omega
  have hpage := Int.mul_le_mul_of_nonneg_right hk (Int.natCast_nonneg request.budget.pageLimit)
  have hresponse :=
    Int.mul_le_mul_of_nonneg_right hk (Int.natCast_nonneg request.budget.maxResponseBytes)
  refine hstopped ⟨?_, ?_, ?_, ?_, ?_⟩
  · change s.cursor.ordinal ≤ _
    have := h.cursor
    omega
  · have := h.requests
    omega
  · have := h.records_ge
    omega
  · have := h.bytes_ge
    omega
  · rw [h.length]
    omega

/-- The days that the loop computes exist. -/
def TusharePlanRequest.InCalendar (request : TusharePlanRequest) : Prop :=
  (∀ i, request.start.ordinal + i * 31 ≤ request.dateTo.ordinal →
    request.start.ordinal + i * 31 + 30 ≤ 3652059) ∧ request.dateTo.ordinal + 1 ≤ 3652059

/-- Nothing is raised while the days exist, and a request without a reason against it is planned. -/
lemma plan_total (hblocking : request.blocking = []) (hcalendar : request.InCalendar) :
    ∃ result, plan request = .ok result ∧ result.status ≠ .blocked := by
  have hfirst := firstSliced hblocking
  obtain ⟨s, hloop⟩ : ∃ s, sliceLoop request (request.dateTo.ordinal + 1 - request.start.ordinal)
      (firstState request) = .ok s := sliceLoop_total hfirst hcalendar.1 hcalendar.2
  obtain ⟨k, hsliced, hstopped⟩ := sliceLoop_ok hfirst le_rfl hloop
  have hpos : 0 < k := by
    by_contra hzero
    obtain rfl : k = 0 := by omega
    obtain ⟨hrequests, hrecords, hbytes⟩ := remaining_pos hblocking
    have hnil : s.slices = [] := List.length_eq_zero_iff.mp hsliced.length
    refine hstopped ⟨?_, ?_, ?_, ?_, ?_⟩
    · change s.cursor.ordinal ≤ _
      have := hsliced.cursor
      have := request.start_le
      omega
    · have := hsliced.requests
      omega
    · have := hsliced.records
      rw [hnil] at this
      simp only [List.map_nil, List.sum_nil] at this
      omega
    · have := hsliced.bytes
      rw [hnil] at this
      simp only [List.map_nil, List.sum_nil] at this
      omega
    · rw [hsliced.length]
      exact request.budget.slices_ok.1
  have hne : s.slices ≠ [] := by
    rw [← List.length_pos_iff, hsliced.length]
    exact hpos
  unfold plan
  rw [if_neg (by simpa using hblocking), hloop, Checked.ok_bind, if_neg hne,
    validateFiniteDag_ok hsliced hpos]
  refine ⟨_, rfl, ?_⟩
  dsimp only
  split_ifs <;> rintro ⟨⟩

/-- A request whose budget lasts is planned to the end. -/
lemma plan_ready (hblocking : request.blocking = []) (hcalendar : request.InCalendar)
    (hsufficient : request.Sufficient (count 31 request.start.ordinal request.dateTo.ordinal)) :
    ∃ result, plan request = .ok result ∧ result.status = .ready ∧
      result.slices.map (·.range) = tiles 31 request.start.ordinal request.dateTo.ordinal := by
  obtain ⟨result, hplan, hstatus⟩ := plan_total hblocking hcalendar
  obtain ⟨s, n, hplanned⟩ := plan_ok hplan hstatus
  have hn := hplanned.sliced.complete hplanned.stopped hsufficient
  refine ⟨result, hplan, hplanned.ready_iff.mpr hn, ?_⟩
  rw [hplanned.ranges, hn, ← length_tiles, List.take_length]

/-- A plan that was made to the end shows that its days exist. -/
lemma Planned.inCalendar (h : Planned request result s n) (hready : result.status = .ready) :
    request.InCalendar := by
  have hn := h.ready_iff.mp hready
  refine ⟨fun i hi => h.sliced.fits i ?_, ?_⟩
  · rw [hn]
    exact (lt_count_iff (by decide)).mpr hi
  · have hcursor := h.sliced.cursor
    have hvalid := s.cursor.valid
    have hmore : n < count 31 request.start.ordinal request.dateTo.ordinal ↔
        request.start.ordinal + n * 31 ≤ request.dateTo.ordinal := lt_count_iff (by decide)
    omega

/-- `resumed` goes on after the last day of a plan, with the same last day. -/
def TusharePlanRequest.Continues (resumed request : TusharePlanRequest)
    (result : TusharePlanResult) : Prop :=
  resumed.dateTo = request.dateTo ∧
    ∃ checkpoint slice, resumed.checkpoint = some checkpoint ∧
      result.slices.getLast? = some slice ∧
      checkpoint.nextDate.ordinal = slice.rangeEnd.ordinal + 1

/-- The first day of a request that goes on after a plan. -/
lemma Planned.start_of_continues {resumed : TusharePlanRequest} (h : Planned request result s n)
    (hcontinues : resumed.Continues request result) :
    resumed.start.ordinal = request.start.ordinal + n * 31 ∧
      n < count 31 request.start.ordinal request.dateTo.ordinal := by
  obtain ⟨hto, c, slice, hc, hslice, hnext⟩ := hcontinues
  have hstart : resumed.start = c.nextDate := by
    unfold TusharePlanRequest.start
    rw [hc]
  rw [List.getLast?_eq_getElem?, h.length] at hslice
  obtain ⟨hlt, -, hend⟩ := h.of_getElem hslice
  have hin := (resumed.checkpoint_range c hc).2
  have hin : c.nextDate.ordinal ≤ resumed.dateTo.ordinal := hin
  have hpos := h.positive
  rw [hto] at hin
  rw [hstart]
  have hstart : c.nextDate.ordinal = request.start.ordinal + n * 31 := by omega
  exact ⟨hstart, (lt_count_iff (by decide)).mpr (by omega)⟩

end Law

/-- **Every plan is well sliced, and a plan that was cut short can be taken up where it stopped**:
with a budget that lasts for the rest, the intervals that follow are those of the whole plan. -/
theorem plan_law {request : TusharePlanRequest} {result : TusharePlanResult}
    (h : plan request = .ok result) (hstatus : result.status ≠ .blocked) :
    WellSliced request result ∧
      ∀ (full resumed : TusharePlanRequest) (whole : TusharePlanResult),
        full.start = request.start → full.dateTo = request.dateTo →
        plan full = .ok whole → whole.status = .ready →
        resumed.Continues request result → resumed.blocking = [] →
        resumed.Sufficient (whole.slices.length - result.slices.length) →
        ∃ rest, plan resumed = .ok rest ∧ rest.status = .ready ∧
          rest.slices.map (·.range) =
            (whole.slices.map (·.range)).drop result.slices.length := by
  obtain ⟨s, n, hplanned⟩ := plan_ok h hstatus
  refine ⟨hplanned.wellSliced, fun full resumed whole hstart hto hfull hready hcontinues hblocking
    hsufficient => ?_⟩
  obtain ⟨t, m, hwhole⟩ := plan_ok hfull (by rw [hready]; rintro ⟨⟩)
  have hm := hwhole.ready_iff.mp hready
  have hcalendar := hwhole.inCalendar hready
  obtain ⟨hfirst, hmore⟩ := hplanned.start_of_continues hcontinues
  have hlast : resumed.dateTo = request.dateTo := hcontinues.1
  -- what the whole plan has after the first `n` intervals are the intervals of the rest
  have hrest : (tiles 31 request.start.ordinal request.dateTo.ordinal).drop n =
      tiles 31 resumed.start.ordinal resumed.dateTo.ordinal := by
    rw [tiles_drop (by decide) hmore.le, hfirst, hlast]
  have hcount : whole.slices.length - result.slices.length =
      count 31 resumed.start.ordinal resumed.dateTo.ordinal := by
    have hlength := congrArg List.length hrest
    rw [List.length_drop, length_tiles, length_tiles] at hlength
    rw [hwhole.length, hplanned.length, hm, hstart, hto, hlength]
  have hexists : resumed.InCalendar := by
    rw [TusharePlanRequest.InCalendar, hstart, hto] at hcalendar
    refine ⟨fun i hi => ?_, ?_⟩
    · rw [hlast] at hi
      have := hcalendar.1 (n + i) (by omega)
      omega
    · rw [hlast]
      exact hcalendar.2
  rw [hcount] at hsufficient
  obtain ⟨rest, hplan, hrestReady, hranges⟩ := plan_ready hblocking hexists hsufficient
  refine ⟨rest, hplan, hrestReady, ?_⟩
  rw [hranges, hwhole.ranges, hm, ← length_tiles, List.take_length, hplanned.length, hstart, hto,
    hrest]

/-! ### A plan in two parts -/

/-- Daily prices for 40 days, with a budget of so many requests. -/
def dailyRequest (requests : Nat) (hrequests : 1 ≤ requests ∧ requests ≤ 10000)
    (resumed : Bool) : TusharePlanRequest where
  capabilityCode := "FETCH_EOD_PRICES"
  providerSecurityIdentifier := some "600519.SH"
  dateFrom := ⟨738000, by decide⟩
  dateTo := ⟨738039, by decide⟩
  asOfDate := ⟨738100, by decide⟩
  syncMode := .offlineContract
  endpoint := .daily
  fields := ["close", "trade_date", "ts_code"]
  budget :=
    { maxRequests := requests
      maxRecords := 1000
      maxBytes := 1000000
      maxResponseBytes := 100000
      maxSlices := 10
      pageLimit := 100
      requests_ok := hrequests
      records_ok := by decide
      bytes_ok := by decide
      response_ok := by decide
      slices_ok := by decide
      page_ok := by decide
      response_le := by decide }
  checkpoint := if resumed then
      some ⟨"daily", "600519.SH", ⟨738031, by decide⟩, 1, 1, 100, 100000⟩ else none
  licenseStatus := .unknownRequiresReview
  commercialUseApproved := false
  rawStorageApproved := false
  credentialStatus := .notRead
  liveAuthorizationStatus := .notAttempted
  entitlementStatus := .approved
  range := by decide
  range_le := by decide
  notFuture := by decide
  fields_sorted := by decide +kernel
  scope := by cases resumed <;> simp [TushareEndpoint.value]
  checkpoint_range := by
    cases resumed
    · simp
    · intro c hc
      cases hc
      decide

/-- What a plan looks like from outside. -/
def TusharePlanResult.summary (result : TusharePlanResult) : TusharePlanStatus × List (Nat × Nat) :=
  (result.status, result.slices.map (·.range))

lemma exists_of_summary {request : TusharePlanRequest} {status : TusharePlanStatus}
    {ranges : List (Nat × Nat)}
    (h : (plan request).toOption.map (·.summary) = some (status, ranges)) :
    ∃ result, plan request = .ok result ∧ result.status = status ∧
      result.slices.map (·.range) = ranges := by
  cases hplan : plan request with
  | error e => simp [hplan, Except.toOption] at h
  | ok result =>
      simp only [hplan, Except.toOption, Option.map_some, Option.some.injEq,
        TusharePlanResult.summary, Prod.mk.injEq] at h
      exact ⟨result, rfl, h⟩

/-- The budget is one request. -/
def shortRequest : TusharePlanRequest := dailyRequest 1 (by decide) false

lemma twoRequests_valid : 1 ≤ 2 ∧ 2 ≤ 10000 := by decide

def wholeRequest : TusharePlanRequest := dailyRequest 2 twoRequests_valid false

/-- The one of two requests that is left after the first slice. -/
def resumedRequest : TusharePlanRequest := dailyRequest 2 twoRequests_valid true

/-- With one request the plan stops after 31 days; taken up again, it has the other nine. -/
theorem plan_resumed_after_one_request :
    ∃ first rest, plan shortRequest = .ok first ∧ first.status = .partly ∧
      plan resumedRequest = .ok rest ∧ rest.status = .ready ∧
      rest.slices.map (·.range) = [(738031, 738039)] := by
  have hshort : (plan shortRequest).toOption.map (·.summary) =
      some (.partly, [(738000, 738030)]) := by decide +kernel
  have htwice : (plan wholeRequest).toOption.map (·.summary) =
      some (.ready, [(738000, 738030), (738031, 738039)]) := by decide +kernel
  obtain ⟨first, hfirst, hpartly, hranges⟩ := exists_of_summary hshort
  obtain ⟨whole, hwhole, hready, hall⟩ := exists_of_summary htwice
  have hone : first.slices.length = 1 := by simpa using congrArg List.length hranges
  have htwo : whole.slices.length = 2 := by simpa using congrArg List.length hall
  obtain ⟨slice, hslices⟩ := List.length_eq_one_iff.mp hone
  have hend : slice.rangeEnd.ordinal = 738030 := by
    rw [hslices] at hranges
    exact congrArg Prod.snd (List.cons.inj hranges).1
  have hcontinues : resumedRequest.Continues shortRequest first := by
    refine ⟨rfl, _, slice, rfl, by rw [hslices]; rfl, ?_⟩
    rw [hend]
  have hsufficient :
      resumedRequest.Sufficient (whole.slices.length - first.slices.length) := by
    rw [hone, htwo]
    refine ⟨?_, ?_, ?_, ?_⟩ <;> decide +kernel
  obtain ⟨rest, hrest, hstatus, hlast⟩ := (plan_law hfirst (by rw [hpartly]; rintro ⟨⟩)).2
    wholeRequest resumedRequest whole rfl rfl hwhole hready hcontinues (by decide +kernel)
    hsufficient
  refine ⟨first, rest, hfirst, hpartly, hrest, hstatus, ?_⟩
  rw [hlast, hall, hone]
  rfl

end StockResearch.Providers
