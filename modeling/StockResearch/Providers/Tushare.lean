import StockResearch.Providers.SecEdgar

/-!
# The Tushare adapter

`TushareAdapter.parse_response`: an offline response, a table of rows under field names, becomes a
batch with one record for each row.  `tushareRows` is the table without the error paths of reading
it; `parseResponse_ok` says that a parse that returns has one record for each row, in the same
order, and what each record shows of its row.
-/

namespace StockResearch.Providers

open PyJson PyTime Checked

inductive TushareEndpoint where
  | balanceSheet | cashFlow | daily | disclosureDate | dividend | finaIndicator | income
  | stockBasic | tradeCal
deriving DecidableEq, Repr

namespace TushareEndpoint

def value : TushareEndpoint → String
  | .balanceSheet => "balancesheet"
  | .cashFlow => "cashflow"
  | .daily => "daily"
  | .disclosureDate => "disclosure_date"
  | .dividend => "dividend"
  | .finaIndicator => "fina_indicator"
  | .income => "income"
  | .stockBasic => "stock_basic"
  | .tradeCal => "trade_cal"

/-- `_ENDPOINT_FIELDS` -/
def fields : TushareEndpoint → List String
  | .daily => ["amount", "change", "close", "high", "low", "open", "pct_chg", "pre_close",
      "trade_date", "ts_code", "vol"]
  | .stockBasic => ["area", "industry", "list_date", "list_status", "market", "name", "symbol",
      "ts_code"]
  | .tradeCal => ["cal_date", "exchange", "is_open", "pretrade_date"]
  | .income => ["actual_ann_date", "ann_date", "end_date", "f_ann_date", "report_type", "revenue",
      "total_profit", "ts_code", "update_flag"]
  | .balanceSheet => ["actual_ann_date", "ann_date", "end_date", "f_ann_date", "report_type",
      "total_assets", "total_liab", "ts_code", "update_flag"]
  | .cashFlow => ["actual_ann_date", "ann_date", "end_date", "f_ann_date", "n_cashflow_act",
      "report_type", "ts_code", "update_flag"]
  | .finaIndicator => ["ann_date", "end_date", "roe", "ts_code", "update_flag"]
  | .dividend => ["ann_date", "cash_div", "div_proc", "end_date", "ex_date", "ts_code"]
  | .disclosureDate => ["actual_date", "ann_date", "end_date", "modify_date", "pre_date", "ts_code"]

end TushareEndpoint

/-- `value == tuple(sorted(set(value)))` -/
def UniqueSortedNames (names : List String) : Prop := names.Pairwise (· < ·)

instance (names : List String) : Decidable (UniqueSortedNames names) :=
  inferInstanceAs (Decidable (names.Pairwise _))

/-- `TushareParseContext`, with its validator `validate_field_roles` as fields. -/
structure TushareParseContext where
  providerDefinitionId : Uuid
  providerCapabilityId : Uuid
  rawArtifactId : Uuid
  sourceChecksum : String
  manifestChecksum : String
  sourceIdentity : String
  endpoint : TushareEndpoint
  providerSecurityIdentifier : String
  numericFields : List String
  providerMetricFields : List String
  publicationFields : List String
  periodField : String
  sourcePublishedAt : Option Instant
  researchAsOfTime : Instant
  syntheticStatus : ProviderSyntheticStatus
  validNumeric : UniqueSortedNames numericFields
  validMetrics : UniqueSortedNames providerMetricFields
  validPublication : UniqueSortedNames publicationFields
  metricsNumeric : ∀ field ∈ providerMetricFields, field ∈ numericFields

/-! ## Reading the table -/

/-- `TushareScalar` -/
inductive Scalar where
  | text (s : String)
  | int (n : Int)
  | none
deriving DecidableEq

namespace Scalar

/-- `None if value is None else str(value)` -/
def str? : Scalar → Option String
  | .text s => some s
  | .int n => some (String.ofList (dumpsInt n))
  | .none => Option.none

/-- `f"{value}"` -/
def formatted (v : Scalar) : String := v.str?.getD "None"

end Scalar

def tushareMalformed : Raised := .value "TUSHARE_RESPONSE_MALFORMED"

/-- `tuple(value)`, with nothing where that is a `TypeError`. -/
def iterated : Value → Option (List Value)
  | .arr items => some items
  | .str s => some (s.toList.map fun c => .str (String.ofList [c]))
  | .obj fields => some (fields.map fun f => .str f.1)
  | _ => none

def iterate (v : Value) : Except Raised (List Value) :=
  match iterated v with
  | some items => .ok items
  | none => .error (.value "TypeError")

def asScalar : Value → Except Raised Scalar
  | .str s => .ok (.text s)
  | .int n => .ok (.int n)
  | .null => .ok .none
  | _ => .error (.validation "string_type, int_type or none_required")

/-- `TushareOfflineRequest.validate_fields` -/
def isFieldName (library : Library) (name : String) : Bool :=
  let stripped := name.toList.filter fun c => c != '_'
  1 ≤ name.length && name.length ≤ 64 && !stripped.isEmpty && stripped.all library.isAlnum &&
    name == library.casefold name

/-- `payload.get("code") == 0` -/
def codeIsZero (library : Library) : Option Value → Bool
  | some (.int n) => n == 0
  | some (.bool b) => !b
  | some (.real literal) => !isConstant literal && library.floatIsZero literal
  | _ => false

/-- `TushareOfflineResponse` -/
structure TushareOfflineResponse where
  fields : List String
  items : List (List Scalar)

/-- The response that a body decodes to. -/
def readTable (library : Library) (body : List UInt8) : Except Raised TushareOfflineResponse := do
  let payload ← loadJsonObject library body
  check (¬ codeIsZero library (payload.lookup "code")) (.value "")
  let data ← objectMapping (member payload "data")
  let fields ← (← iterate (← item data "fields")).mapM strictText
  let items ← (← iterate (← item data "items")).mapM fun row => do (← iterate row).mapM asScalar
  check (¬ (1 ≤ fields.length ∧ fields.length ≤ 256 ∧ items.length ≤ 10000))
    (.validation "tuple_length")
  check (¬ UniqueSortedNames fields) (.value "TUSHARE_FIELDS_MUST_BE_UNIQUE_AND_SORTED")
  check (¬ fields.all (isFieldName library)) (.value "TUSHARE_FIELD_INVALID")
  check (¬ items.all fun row => row.length == fields.length)
    (.value "TUSHARE_ITEM_FIELD_COUNT_MISMATCH")
  pure { fields, items }

/-- Every error of reading the response is the same to the caller. -/
def orTushareMalformed {α : Type} : Except Raised α → Except Raised α
  | .error _ => .error tushareMalformed
  | .ok a => .ok a

lemma orTushareMalformed_ok {α : Type} {x : Except Raised α} {a : α} :
    orTushareMalformed x = .ok a ↔ x = .ok a := by
  cases x <;> simp [orTushareMalformed]

/-! ## Records -/

/-- One row of a response, and where it stands. -/
structure TushareRow where
  index : Nat
  row : List (String × Scalar)

/-- `row[field]` -/
def TushareRow.value (r : TushareRow) (field : String) : Scalar := (r.row.lookup field).getD .none

def exactNumericString (library : Library) : Scalar → Except Raised (Option String)
  | .none => .ok none
  | .int n => .ok (some (String.ofList (dumpsInt n)))
  | .text s => if (library.decimal s).isSome then .ok (some s)
      else .error (.value "TUSHARE_NUMERIC_VALUE_INVALID")

namespace TushareParseContext

variable (library : Library) (context : TushareParseContext)

/-- The record key without the index. -/
def keyStem (r : TushareRow) : String :=
  context.endpoint.value ++ ":" ++ context.providerSecurityIdentifier ++ ":" ++
    (r.value context.periodField).formatted ++ ":" ++ (r.value "update_flag").formatted

/-- `endpoint:security:period:update_flag:index` -/
def key (r : TushareRow) : String :=
  context.keyStem r ++ ":" ++ String.ofList (padded 4 r.index)

/-- The text values of a record: the row's other fields, and what the provider's figures are. -/
def textValues (r : TushareRow) : List (String × Option String) :=
  ((r.row.filter fun v => v.1 ∉ context.numericFields).map fun v => (v.1, v.2.str?)) ++
    (if context.endpoint ∈ [.income, .balanceSheet, .cashFlow] then
      [("aggregation_semantics", some "PROVIDER_REPORTED_UNNORMALIZED")] else []) ++
    (if context.providerMetricFields ≠ [] then
      [("provider_metric_fields", some (",".intercalate context.providerMetricFields))] else [])

/-- One round of the loop of `parse_response`. -/
def rowRecord (r : TushareRow) : Except Raised ProviderRecord := do
  check (r.value "ts_code" ≠ .text context.providerSecurityIdentifier)
    (.value "TUSHARE_SECURITY_IDENTITY_MISMATCH")
  let numericValues ← context.numericFields.mapM fun field => do
    return (field, ← exactNumericString library (r.value field))
  let warningCodes := if context.sourcePublishedAt = none then ["UNKNOWN_PUBLISHED_AT"] else []
  let identity ← ProviderRecordIdentity.create context.providerDefinitionId
    context.providerCapabilityId context.sourceIdentity (context.key r)
  ProviderRecord.validate library
    { identity, rawArtifactId := context.rawArtifactId, sourceChecksum := context.sourceChecksum
      sourcePublishedAt := context.sourcePublishedAt
      status := if warningCodes = [] then .complete else .partly
      numericValues, textValues := context.textValues r, warningCodes
      syntheticStatus := context.syntheticStatus }

/-- The fields that a response must have. -/
def required : List String :=
  ["ts_code", context.periodField] ++ context.numericFields ++ context.providerMetricFields ++
    context.publicationFields

/-- The rows under the field names. -/
def rowsOf (fields : List String) (items : List (List Scalar)) : List TushareRow :=
  items.mapIdx fun index item => ⟨index, fields.zip item⟩

/-- The records of a response. -/
def parseRecords (body : List UInt8) : Except Raised (List ProviderRecord) := do
  let response ← orTushareMalformed (readTable library body)
  check (¬ (context.required ⊆ response.fields ∧ response.fields ⊆ context.endpoint.fields))
    (.value "TUSHARE_RESPONSE_FIELDS_NOT_APPROVED")
  let records ← (rowsOf response.fields response.items).mapM (context.rowRecord library)
  check (records = []) (.value "TUSHARE_RESPONSE_EMPTY")
  pure records

/-- `TushareAdapter.parse_response` -/
def parseResponse (body : List UInt8) : Except Raised ProviderBatch := do
  check (library.sha256 body ≠ context.sourceChecksum) (.value "TUSHARE_RESPONSE_CHECKSUM_MISMATCH")
  check (context.sourcePublishedAt.any fun t => context.researchAsOfTime < t)
    (.value "TUSHARE_FUTURE_DATA")
  let records ← context.parseRecords library body
  ProviderBatch.create library context.manifestChecksum (sortRecords records)

end TushareParseContext

/-! ## The rows of a response -/

/-- A text, or the empty text for any other value. -/
def textOf : Value → String
  | .str s => s
  | _ => ""

/-- A scalar, or `None` for any other value. -/
def scalarOf : Value → Scalar
  | .str s => .text s
  | .int n => .int n
  | _ => .none

/-- The field names of a response. -/
def tableFields (payload : Members) : List String :=
  ((iterated (member (members (member payload "data")) "fields")).getD []).map textOf

/-- The values of a response. -/
def tableItems (payload : Members) : List (List Scalar) :=
  ((iterated (member (members (member payload "data")) "items")).getD []).map fun row =>
    ((iterated row).getD []).map scalarOf

/-- The rows of a response, in its order. -/
def tushareRows (payload : Members) : List TushareRow :=
  TushareParseContext.rowsOf (tableFields payload) (tableItems payload)

lemma iterate_ok {v : Value} {items : List Value} (h : iterate v = .ok items) :
    (iterated v).getD [] = items := by
  unfold iterate at h
  split at h
  · rename_i heq
    rw [heq]
    exact Except.ok.inj h
  · cases h

/-- What reading each element returned is what the total reading gives. -/
lemma map_of_mapM_ok {α : Type} {f : Value → Except Raised α} {g : Value → α}
    (hf : ∀ v a, f v = .ok a → g v = a) {vs : List Value} {as : List α} (h : vs.mapM f = .ok as) :
    vs.map g = as :=
  (map_eq_of_forall₂ (q := id) (forall₂_mapM (fun _ _ => id) h) hf).trans (List.map_id as)

lemma strictText_ok (v : Value) (s : String) (h : strictText v = .ok s) : textOf v = s := by
  cases v <;> cases h
  rfl

lemma asScalar_ok (v : Value) (s : Scalar) (h : asScalar v = .ok s) : scalarOf v = s := by
  cases v <;> cases h <;> rfl

lemma readTable_ok {library : Library} {body : List UInt8} {response : TushareOfflineResponse}
    (h : readTable library body = .ok response) :
    TushareParseContext.rowsOf response.fields response.items =
      tushareRows (payload library body) := by
  obtain ⟨fields, hfields, h⟩ := bind_ok.mp h
  obtain ⟨-, h⟩ := check_bind_ok.mp h
  obtain ⟨data, hdata, h⟩ := bind_ok.mp h
  obtain ⟨namesValue, hnamesValue, h⟩ := bind_ok.mp h
  obtain ⟨names, hnames, h⟩ := bind_ok.mp h
  obtain ⟨texts, htexts, h⟩ := bind_ok.mp h
  obtain ⟨itemsValue, hitemsValue, h⟩ := bind_ok.mp h
  obtain ⟨items, hitems, h⟩ := bind_ok.mp h
  obtain ⟨rows, hrows, h⟩ := bind_ok.mp h
  obtain ⟨-, h⟩ := check_bind_ok.mp h
  obtain ⟨-, h⟩ := check_bind_ok.mp h
  obtain ⟨-, h⟩ := check_bind_ok.mp h
  obtain ⟨-, h⟩ := check_bind_ok.mp h
  cases h
  have hrow : ∀ (row : Value) (scalars : List Scalar),
      (do (← iterate row).mapM asScalar) = Except.ok scalars →
        ((iterated row).getD []).map scalarOf = scalars := by
    intro row scalars hscalars
    obtain ⟨values, hvalues, hscalars⟩ := bind_ok.mp hscalars
    rw [iterate_ok hvalues]
    exact map_of_mapM_ok asScalar_ok hscalars
  rw [tushareRows, tableFields, tableItems, loadJsonObject_ok hfields, objectMapping_ok hdata,
    member_of_item_ok hnamesValue, iterate_ok hnames, map_of_mapM_ok strictText_ok htexts,
    member_of_item_ok hitemsValue, iterate_ok hitems, map_of_mapM_ok hrow hrows]

/-! ## What a record shows of its row -/

lemma lookup_filter_map {α β : Type} (p : String → Bool) (f : α → β) (l : List (String × α))
    (k : String) :
    ((l.filter fun v => p v.1).map fun v => (v.1, f v.2)).lookup k =
      if p k then (l.lookup k).map f else none := by
  induction l with
  | nil => simp
  | cons v l ih =>
      obtain ⟨a, b⟩ := v
      by_cases hka : k = a
      · subst hka
        by_cases hp : p k
        · simp [hp]
        · rw [List.filter_cons_of_neg (by simpa using hp), ih]
          simp [hp]
      · have hne : (k == a) = false := by simpa using hka
        by_cases hp : p a
        · rw [List.filter_cons_of_pos (by simpa using hp), List.map_cons, List.lookup_cons, hne, ih]
          simp [List.lookup_cons, hne]
        · rw [List.filter_cons_of_neg (by simpa using hp), ih]
          simp [List.lookup_cons, hne]

lemma lookup_map_self {β : Type} (g : String → β) (l : List String) (k : String) :
    (l.map fun f => (f, g f)).lookup k = if k ∈ l then some (g k) else none := by
  induction l with
  | nil => simp
  | cons a l ih =>
      by_cases hka : k = a
      · subst hka
        simp
      · have hne : (k == a) = false := by simpa using hka
        simp [List.lookup_cons, hne, ih, hka]

lemma exactNumericString_ok {library : Library} {v : Scalar} {s : Option String}
    (h : exactNumericString library v = .ok s) : v.str? = s := by
  cases v with
  | text t =>
      simp only [exactNumericString] at h
      split_ifs at h
      exact Except.ok.inj h
  | int n => exact Except.ok.inj h
  | none => exact Except.ok.inj h

lemma no_added_field (endpoint : TushareEndpoint) :
    "aggregation_semantics" ∉ endpoint.fields ∧ "provider_metric_fields" ∉ endpoint.fields := by
  cases endpoint <;> decide

namespace TushareParseContext

variable {library : Library} {context : TushareParseContext}

/-- How a record shows its row: its key, the context's publication time, and the text of every
field that is not the adapter's own. -/
structure Shows (context : TushareParseContext) (r : TushareRow) (record : ProviderRecord) :
    Prop where
  key : record.key = context.key r
  security : r.value "ts_code" = .text context.providerSecurityIdentifier
  published : record.sourcePublishedAt = context.sourcePublishedAt
  stated : ∀ field ∈ context.endpoint.fields, record.stated field = (r.value field).str?

lemma lookup_textValues {r : TushareRow} {field : String} (hfield : field ∈ context.endpoint.fields) :
    ((context.textValues r).lookup field).join =
      if field ∈ context.numericFields then none else (r.value field).str? := by
  have haggregation : field ≠ "aggregation_semantics" := by
    rintro rfl
    exact (no_added_field _).1 hfield
  have hmetrics : field ≠ "provider_metric_fields" := by
    rintro rfl
    exact (no_added_field _).2 hfield
  have hadded : ∀ (p : Prop) [Decidable p] (name : String) (s : String), field ≠ name →
      (if p then [(name, some s)] else []).lookup field = (none : Option (Option String)) := by
    intro p _ name s hname
    split_ifs <;> simp [hname]
  have hrow := lookup_filter_map (fun f => decide (f ∉ context.numericFields)) Scalar.str? r.row
    field
  rw [textValues, List.lookup_append, List.lookup_append, hadded _ _ _ haggregation,
    hadded _ _ _ hmetrics, Option.or_none, Option.or_none, hrow]
  by_cases hnumeric : field ∈ context.numericFields
  · simp [hnumeric]
  · cases hlookup : r.row.lookup field <;> simp [hnumeric, hlookup, TushareRow.value, Scalar.str?]

lemma rowRecord_ok {r : TushareRow} {record : ProviderRecord}
    (h : context.rowRecord library r = .ok record) : context.Shows r record := by
  obtain ⟨hsecurity, h⟩ := check_bind_ok.mp h
  obtain ⟨numericValues, hnumeric, h⟩ := bind_ok.mp h
  obtain ⟨identity, hidentity, h⟩ := bind_ok.mp h
  have hvalues : numericValues = context.numericFields.map fun f => (f, (r.value f).str?) := by
    have hrounds : List.Forall₂ (fun f p => (f, (r.value f).str?) = p) context.numericFields
        numericValues := by
      refine forall₂_mapM (fun field p hp => ?_) hnumeric
      obtain ⟨s, hs, hp⟩ := bind_ok.mp hp
      cases hp
      rw [exactNumericString_ok hs]
    exact ((map_eq_of_forall₂ (q := id) hrounds fun _ _ => id).trans (List.map_id _)).symm
  rw [ProviderRecord.validate_ok h]
  refine ⟨ProviderRecordIdentity.create_ok hidentity, not_not.mp hsecurity, rfl, ?_⟩
  intro field hfield
  simp only [ProviderRecord.stated, ProviderRecord.text]
  rw [lookup_textValues hfield, hvalues, lookup_map_self]
  by_cases hmem : field ∈ context.numericFields
  · simp [hmem]
  · simp [hmem]

/-- **One record for each row**, in the order of the response; the publication fields are fields of
the endpoint. -/
theorem parseRecords_ok {body : List UInt8} {records : List ProviderRecord}
    (h : context.parseRecords library body = .ok records) :
    List.Forall₂ context.Shows (tushareRows (payload library body)) records ∧
      context.required ⊆ context.endpoint.fields := by
  obtain ⟨response, hresponse, h⟩ := bind_ok.mp h
  obtain ⟨hfields, h⟩ := check_bind_ok.mp h
  obtain ⟨records', hrecords, h⟩ := bind_ok.mp h
  obtain ⟨-, h⟩ := check_bind_ok.mp h
  cases h
  obtain ⟨hrequired, happroved⟩ := not_not.mp hfields
  refine ⟨?_, fun _ hfield => happroved (hrequired hfield)⟩
  rw [← readTable_ok (orTushareMalformed_ok.mp hresponse)]
  exact forall₂_mapM (fun _ _ => rowRecord_ok) hrecords

/-- What a returned batch holds, and what the context has passed. -/
theorem parseResponse_ok {body : List UInt8} {batch : ProviderBatch}
    (h : context.parseResponse library body = .ok batch) :
    (∀ t, context.sourcePublishedAt = some t → ¬ context.researchAsOfTime < t) ∧
      ∃ records, context.parseRecords library body = .ok records ∧
        (∀ r, r ∈ batch.records ↔ r ∈ records) ∧ (records.map ProviderRecord.key).Nodup := by
  obtain ⟨-, h⟩ := check_bind_ok.mp h
  obtain ⟨hpublished, h⟩ := check_bind_ok.mp h
  obtain ⟨records, hrecords, h⟩ := bind_ok.mp h
  refine ⟨?_, records, hrecords, ProviderBatch.create_sortRecords_ok h⟩
  intro t ht
  simpa [ht] using hpublished

end TushareParseContext

end StockResearch.Providers
