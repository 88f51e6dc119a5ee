import Mathlib
import StockResearch.Core.DecimalText
import StockResearch.Core.Zoned
import StockResearch.DataAccess.ExactDecimal
import StockResearch.Providers.SecurityBridge

/-!
# The financial-fact bridge and the market-data bridge

`FinancialFactProviderBridge.stage` and `MarketDataProviderBridge.stage` turn the records of a batch
into rows, one a record, and write the rows once every record has been converted and the checksum of
the batch has been compared.

**What they share.**  The checks of the call and of the source of a record, the readings of values,
and the order of everything: `checkCall`, `checkReal`, `checkSource`, the parsers, `planRows` and
`outcome`, with the prefix of the error codes as a parameter.

**What differs.**  The market-data bridge compares the publication of the manifest with the research
time and the financial-fact bridge does not; the financial-fact bridge compares the filing time of a
record and the market-data bridge does not compare the market timestamp.
-/

namespace StockResearch.Providers

open PyText PyTime PyDecimal Checked

/-! ## Values -/

/-- The standard library as the two bridges call it. -/
structure FactLibrary where
  /-- The value of a character that is a decimal digit. -/
  decimalDigit : Char → Option Nat
  asciiDigit : ∀ c, c.isDigit → decimalDigit c = some (asciiValue c)
  /-- `UUID(text)` -/
  uuid : String → Option Uuid
  /-- `build_provider_batch_checksum` -/
  batchChecksum : List ProviderRecord → String

/-- What a bridge raises: a `ValueError` with a code, the `ValidationError` of a schema, which is a
`ValueError`, or something else. -/
inductive BridgeRaised where
  | value (code : String)
  | validation (schema : String)
  | type
  | overflow
deriving DecidableEq, Repr

def BridgeRaised.IsValueError : BridgeRaised → Prop
  | .value _ | .validation _ => True
  | .type | .overflow => False

/-- `numeric_values.get(name)` -/
def ProviderRecord.number (record : ProviderRecord) (name : String) : Option String :=
  (record.numericValues.lookup name).join

/-- `^[A-Z]{3}$` -/
def isCurrency (code : String) : Bool := code.length = 3 && code.toList.all Char.isUpper

/-- At most so many characters, if there are any. -/
def atMost (bound : Nat) (text : Option String) : Bool := text.all fun t => t.length ≤ bound

/-! ## The checks of a call and of the source of a record -/

section Checks

variable (code : String)

/-- The checks of a call up to the number of its records. -/
def checkCall (approved : Bool) (retrievedAt researchAsOfTime : Instant)
    (manifest : ProviderIngestionManifestRecord) (batch : ProviderBatch) :
    Except BridgeRaised Unit := do
  check (¬ approved) (.value (code ++ "_DERIVED_STORAGE_NOT_APPROVED"))
  check (researchAsOfTime < retrievedAt) (.value (code ++ "_FUTURE_DATA"))
  check (manifest.manifestChecksum ≠ batch.manifestChecksum) (.value (code ++ "_MANIFEST_MISMATCH"))
  check (manifest.recordCount ≠ batch.records.length) (.value (code ++ "_RECORD_COUNT_MISMATCH"))

/-- Synthetic data is not written. -/
def checkReal (manifest : ProviderIngestionManifestRecord) : Except BridgeRaised Unit :=
  check (notReal manifest.syntheticStatus) (.value ("SYNTHETIC_" ++ code ++ "_WRITE_FORBIDDEN"))

def checkSource (manifest : ProviderIngestionManifestRecord) (sourcePayloadChecksum : String)
    (researchAsOfTime : Instant) (record : ProviderRecord) : Except BridgeRaised Unit := do
  check (record.rawArtifactId ≠ manifest.rawArtifactId) (.value (code ++ "_RAW_ARTIFACT_MISMATCH"))
  check (record.sourceChecksum ≠ sourcePayloadChecksum) (.value (code ++ "_RAW_CHECKSUM_MISMATCH"))
  check (record.syntheticStatus ≠ manifest.syntheticStatus)
    (.value (code ++ "_SYNTHETIC_STATUS_MISMATCH"))
  check (laterThan researchAsOfTime record.sourcePublishedAt) (.value (code ++ "_FUTURE_DATA"))

/-! ## The readings of values -/

variable (library : FactLibrary)

/-- The reading of a value that may be missing. -/
def readOptional {α : Type} (read : String → Except BridgeRaised α) :
    Option String → Except BridgeRaised (Option α)
  | none => .ok none
  | some text => (read text).map some

def decimalValue : Option String → Except BridgeRaised (Option Decimal) :=
  readOptional fun text =>
    require (finiteDecimal library.decimalDigit text.toList) (.value (code ++ "_DECIMAL_INVALID"))

/-- `int(text)` of a text that must be ASCII digits; the interpreter reads 4300 of them at most. -/
def asciiInt (field : String) : Option String → Except BridgeRaised (Option Nat) :=
  readOptional fun text => do
    check (¬ (text.toList ≠ [] ∧ ∀ c ∈ text.toList, c.isDigit))
      (.value (code ++ "_" ++ field ++ "_INVALID"))
    check (4300 < text.length) (.value "Exceeds the limit (4300 digits) for integer string conversion")
    pure (Nat.ofDigitChars 10 text.toList 0)

def required (field : String) (value : Option String) : Except BridgeRaised String := do
  let text ← require value (.value (code ++ "_" ++ field ++ "_MISSING"))
  check (text = "" ∨ text.toList ≠ strip text.toList) (.value (code ++ "_" ++ field ++ "_MISSING"))
  pure text

/-- The time that a text states: `datetime.fromisoformat(value.replace("Z", "+00:00"))` -/
def readTime (text : String) : Option DateTime :=
  DateTime.fromIsoformat (String.ofList (replace "Z" "+00:00" text.toList))

def datetimeValue : Option String → Except BridgeRaised (Option DateTime) :=
  readOptional fun text => require (readTime text) (.value (code ++ "_TIMESTAMP_INVALID"))

end Checks

/-! ## The validators of rows -/

/-- `_validate_numeric_38_12` -/
def validNumeric (d : Decimal) : Bool :=
  d.coefficient = 0 ||
    let (n, exponent) := Decimal.dropZeros (-d.exponent).toNat d.coefficient d.exponent
    -- At most 12 digits behind the point and 26 before it.
    0 ≤ exponent + 12 && Decimal.digits n + exponent ≤ 26

/-- `_validate_optional_decimal`: no negative number. -/
def nonNegative (d : Decimal) : Bool := d.coefficient = 0 || !d.negative

/-- `_normalize_optional_utc`: without an offset a `ValueError`, and an `OverflowError` for a moment
outside of the years 1 to 9999. -/
def normalizeOptionalUtc (schema : String) :
    Option DateTime → Except BridgeRaised (Option Instant)
  | none => .ok none
  | some d =>
      match d.offset with
      | none => .error (.validation schema)
      | some offset => (require (d.utc offset) .overflow).map some

/-! ## One row a record -/

section Stage

variable {Row Result : Type}

/-- Everything up to the first write: the checks of the call, the rows, the checksum. -/
def planRows (code : String) (library : FactLibrary) (manifest : ProviderIngestionManifestRecord)
    (batch : ProviderBatch) (gates : Except BridgeRaised Unit)
    (convert : ProviderRecord → Except BridgeRaised Row) : Except BridgeRaised (List Row) := do
  gates
  let staged ← batch.records.mapM convert
  check (manifest.batchChecksum ≠ library.batchChecksum batch.records)
    (.value (code ++ "_BATCH_CHECKSUM_MISMATCH"))
  pure staged

/-- The writes, and the rows that the repository then has. -/
def outcome (plan : Except BridgeRaised (List Row)) (result : List Row → Result)
    (repository : List Row) : Except BridgeRaised Result × List Row :=
  match plan with
  | .error e => (.error e, repository)
  | .ok staged => (.ok (result staged), staged.foldl (fun rows row => rows ++ [row]) repository)

end Stage

/-! ## Financial facts -/

def forbiddenDerivedFields : List String :=
  ["canonical_formula_code", "derived_metric_code", "formula_version", "normalized_concept",
    "ttm_value"]

structure FinancialFactBridgeContext where
  securityId : Uuid
  providerId : Uuid
  sourcePayloadId : Uuid
  sourcePayloadChecksum : String
  retrievedAt : Instant
  researchAsOfTime : Instant
  derivedUseApproved : Bool
  rawFactRetentionApproved : Bool

structure FinancialFactBridgeResult where
  stagedFactCount : Nat
  manifestId : Uuid
  manifestChecksum : String
  rawArtifactId : Uuid
  sourcePayloadId : Uuid
  normalizationRunCreated : Bool
  calculationRunCreated : Bool
deriving DecidableEq

/-- `StatementValue` -/
def statementValues : List String :=
  ["BALANCE_SHEET", "INCOME_STATEMENT", "CASH_FLOW", "EQUITY", "COMPREHENSIVE_INCOME", "OTHER"]

structure ProviderFinancialFactWrite where
  securityId : Uuid
  providerId : Uuid
  sourcePayloadId : Uuid
  documentId : Option Uuid
  statementType : String
  providerConcept : String
  reportedLabel : Option String
  taxonomy : Option String
  contextId : Option String
  dimensions : List (String × PyJson.Value)
  value : Option Decimal
  unit : Option String
  currencyCode : Option String
  fiscalYear : Option Nat
  fiscalQuarter : Option Nat
  fiscalPeriod : Option String
  periodStart : Option Date
  periodEnd : Option Date
  instantDate : Option Date
  filedAt : Option Instant
  sourcePublishedAt : Option Instant
  formType : Option String
  isAnnual : Option Bool
  isCumulative : Option Bool
  isAudited : Option Bool
  isRestated : Option Bool
  providerRecordId : Option String
  retrievedAt : Instant

namespace ProviderFinancialFactWrite

/-- The validators, that of `filed_at` apart. -/
def valid (fact : ProviderFinancialFactWrite) : Bool :=
  (1 ≤ fact.providerConcept.length && fact.providerConcept.length ≤ 512) &&
    atMost 512 fact.reportedLabel && atMost 256 fact.taxonomy && atMost 256 fact.contextId &&
    fact.value.all validNumeric && atMost 64 fact.unit && fact.currencyCode.all isCurrency &&
    fact.fiscalYear.all (fun year => 1900 ≤ year && year ≤ 9999) &&
    fact.fiscalQuarter.all (fun quarter => 1 ≤ quarter && quarter ≤ 4) &&
    atMost 32 fact.fiscalPeriod && atMost 64 fact.formType && atMost 256 fact.providerRecordId &&
    fact.periodStart.all fun first => fact.periodEnd.all fun last => !(last < first)

/-- `ProviderFinancialFactWrite(…, filed_at=filed_at)` -/
def create (fact : ProviderFinancialFactWrite) (filedAt : Option DateTime) :
    Except BridgeRaised ProviderFinancialFactWrite := do
  let filedAt ← normalizeOptionalUtc "ProviderFinancialFactWrite" filedAt
  check (fact.valid = false) (.validation "ProviderFinancialFactWrite")
  pure { fact with filedAt }

end ProviderFinancialFactWrite

namespace FinancialFactProviderBridge

variable (library : FactLibrary) (manifest : ProviderIngestionManifestRecord)
  (context : FinancialFactBridgeContext)

/-- The checks of a record before its filing time is read. -/
def checkRecord (record : ProviderRecord) : Except BridgeRaised Unit := do
  checkSource "FINANCIAL_FACT" manifest context.sourcePayloadChecksum context.researchAsOfTime record
  check (∃ field ∈ forbiddenDerivedFields, record.text field ≠ none)
    (.value "PROVIDER_FORMULA_SUBSTITUTION_FORBIDDEN")
  check (record.text "security_id" ≠ some context.securityId.str)
    (.value "FINANCIAL_FACT_SECURITY_MISMATCH")

/-- `filed_at > context.research_as_of_time`: two times can only be compared when both have an
offset. -/
def checkFiledAt : Option DateTime → Except BridgeRaised Unit
  | none => .ok ()
  | some d => do
      check (d.offset = none) .type
      check (d.later context.researchAsOfTime) (.value "FINANCIAL_FACT_FUTURE_DATA")

def statement (value : Option String) : Except BridgeRaised String := do
  let text ← require value (.value "FINANCIAL_FACT_STATEMENT_TYPE_INVALID")
  check (text ∉ statementValues) (.value "FINANCIAL_FACT_STATEMENT_TYPE_INVALID")
  pure text

def dateValue : Option String → Except BridgeRaised (Option Date) :=
  readOptional fun text =>
    require (Date.fromIsoformat text) (.value "FINANCIAL_FACT_DATE_INVALID")

def optionalUuid : Option String → Except BridgeRaised (Option Uuid) :=
  readOptional fun text => require (library.uuid text) (.value "FINANCIAL_FACT_DOCUMENT_ID_INVALID")

def booleanValue : Option String → Except BridgeRaised (Option Bool) :=
  readOptional fun text =>
    if text = "true" then .ok true
    else if text = "false" then .ok false
    else .error (.value "FINANCIAL_FACT_BOOLEAN_INVALID")

/-- The arguments of the row, `filed_at` apart. -/
def readFact (record : ProviderRecord) : Except BridgeRaised ProviderFinancialFactWrite := do
  let documentId ← optionalUuid library (record.text "document_id")
  let statementType ← statement (record.text "statement_type")
  let providerConcept ← required "FINANCIAL_FACT" "CONCEPT" (record.text "provider_concept")
  let value ← decimalValue "FINANCIAL_FACT" library (record.number "value")
  let fiscalYear ← asciiInt "FINANCIAL_FACT" "INTEGER" (record.text "fiscal_year")
  let fiscalQuarter ← asciiInt "FINANCIAL_FACT" "INTEGER" (record.text "fiscal_quarter")
  let periodStart ← dateValue (record.text "period_start")
  let periodEnd ← dateValue (record.text "period_end")
  let instantDate ← dateValue (record.text "instant_date")
  let isAnnual ← booleanValue (record.text "is_annual")
  let isCumulative ← booleanValue (record.text "is_cumulative")
  let isAudited ← booleanValue (record.text "is_audited")
  let isRestated ← booleanValue (record.text "is_restated")
  pure {
    securityId := context.securityId
    providerId := context.providerId
    sourcePayloadId := context.sourcePayloadId
    documentId, statementType, providerConcept
    reportedLabel := record.text "reported_label"
    taxonomy := record.text "taxonomy"
    contextId := record.text "context_id"
    dimensions := []
    value
    unit := record.text "unit"
    currencyCode := record.text "currency_code"
    fiscalYear, fiscalQuarter
    fiscalPeriod := record.text "fiscal_period"
    periodStart, periodEnd, instantDate
    filedAt := none
    sourcePublishedAt := record.sourcePublishedAt
    formType := record.text "form_type"
    isAnnual, isCumulative, isAudited, isRestated
    providerRecordId := record.text "provider_record_id"
    retrievedAt := context.retrievedAt }

/-- One turn of the loop. -/
def toFact (record : ProviderRecord) : Except BridgeRaised ProviderFinancialFactWrite := do
  checkRecord manifest context record
  let filedAt ← datetimeValue "FINANCIAL_FACT" (record.text "filed_at")
  checkFiledAt context filedAt
  let fact ← readFact library context record
  fact.create filedAt

/-- The checks of the call. -/
def gates (batch : ProviderBatch) : Except BridgeRaised Unit := do
  checkCall "FINANCIAL_FACT" (context.derivedUseApproved && context.rawFactRetentionApproved)
    context.retrievedAt context.researchAsOfTime manifest batch
  checkReal "FINANCIAL_FACT" manifest

/-- `FinancialFactProviderBridge.stage`, with the facts that the repository then has. -/
def stage (repository : List ProviderFinancialFactWrite) (batch : ProviderBatch) :
    Except BridgeRaised FinancialFactBridgeResult × List ProviderFinancialFactWrite :=
  outcome
    (planRows "FINANCIAL_FACT" library manifest batch (gates manifest context batch)
      (toFact library manifest context))
    (fun staged =>
      { stagedFactCount := staged.length
        manifestId := manifest.id
        manifestChecksum := manifest.manifestChecksum
        rawArtifactId := manifest.rawArtifactId
        sourcePayloadId := context.sourcePayloadId
        normalizationRunCreated := false
        calculationRunCreated := false })
    repository

end FinancialFactProviderBridge

/-! ## Market data -/

structure MarketDataBridgeContext where
  providerId : Uuid
  securityId : Uuid
  sourcePayloadId : Uuid
  sourcePayloadChecksum : String
  expectedCurrencyCode : String
  retrievedAt : Instant
  researchAsOfTime : Instant
  derivedUseApproved : Bool
  cacheRetentionApproved : Bool

structure MarketDataBridgeResult where
  stagedPriceBarCount : Nat
  manifestId : Uuid
  manifestChecksum : String
  rawArtifactId : Uuid
  sourcePayloadId : Uuid
  snapshotCreated : Bool
deriving DecidableEq

structure DailyPriceBarWrite where
  securityId : Uuid
  providerId : Uuid
  sourcePayloadId : Uuid
  providerSymbol : String
  tradingDate : Date
  marketTimestamp : Option Instant
  «open» : Option Decimal
  high : Option Decimal
  low : Option Decimal
  close : Option Decimal
  volume : Option Nat
  currencyCode : String
  adjustmentType : Option String
  providerAdjustedClose : Option Decimal
  sourcePublishedAt : Option Instant
  retrievedAt : Instant

namespace DailyPriceBarWrite

/-- The validators, that of `market_timestamp` apart. -/
def valid (bar : DailyPriceBarWrite) : Bool :=
  (1 ≤ bar.providerSymbol.length && bar.providerSymbol.length ≤ 128) &&
    [bar.open, bar.high, bar.low, bar.close, bar.providerAdjustedClose].all
      (fun price => price.all fun d => validNumeric d && nonNegative d) &&
    isCurrency bar.currencyCode && bar.high.all fun high => bar.low.all fun low => low ≤ high

/-- `DailyPriceBarWrite(…, market_timestamp=market_timestamp)` -/
def create (bar : DailyPriceBarWrite) (marketTimestamp : Option DateTime) :
    Except BridgeRaised DailyPriceBarWrite := do
  let marketTimestamp ← normalizeOptionalUtc "DailyPriceBarWrite" marketTimestamp
  check (bar.valid = false) (.validation "DailyPriceBarWrite")
  pure { bar with marketTimestamp }

end DailyPriceBarWrite

namespace MarketDataProviderBridge

variable (library : FactLibrary) (manifest : ProviderIngestionManifestRecord)
  (context : MarketDataBridgeContext)

def uuidValue (value : Option String) : Except BridgeRaised Uuid := do
  let text ← required "MARKET_DATA" "SECURITY" value
  require (library.uuid text) (.value "MARKET_DATA_SECURITY_INVALID")

def dateValue (value : Option String) : Except BridgeRaised Date := do
  let text ← required "MARKET_DATA" "TRADING_DATE" value
  require (Date.fromIsoformat text) (.value "MARKET_DATA_TRADING_DATE_INVALID")

def adjustmentValue : Option String → Except BridgeRaised (Option String) :=
  readOptional fun text => do
    check (text ∉ ["UNADJUSTED", "PROVIDER_ADJUSTED"]) (.value "MARKET_DATA_ADJUSTMENT_INVALID")
    pure text

/-- The checks of a record, the last of which is that of its currency, and its trading date. -/
def checkRecord (record : ProviderRecord) : Except BridgeRaised (Date × String) := do
  checkSource "MARKET_DATA" manifest context.sourcePayloadChecksum context.researchAsOfTime record
  let securityId ← uuidValue library (record.text "security_id")
  check (securityId ≠ context.securityId) (.value "MARKET_DATA_SECURITY_MISMATCH")
  let tradingDate ← dateValue (record.text "trading_date")
  check (context.researchAsOfTime.date < tradingDate) (.value "MARKET_DATA_FUTURE_DATA")
  let currencyCode ← required "MARKET_DATA" "CURRENCY" (record.text "currency_code")
  check (currencyCode ≠ context.expectedCurrencyCode) (.value "MARKET_DATA_CURRENCY_MISMATCH")
  pure (tradingDate, currencyCode)

/-- The arguments of the row, with `market_timestamp` as it is read. -/
def readBar (tradingDate : Date) (currencyCode : String) (record : ProviderRecord) :
    Except BridgeRaised (DailyPriceBarWrite × Option DateTime) := do
  let adjustmentType ← adjustmentValue (record.text "adjustment_type")
  let providerSymbol ← required "MARKET_DATA" "SYMBOL" (record.text "provider_symbol")
  let marketTimestamp ← datetimeValue "MARKET_DATA" (record.text "market_timestamp")
  let «open» ← decimalValue "MARKET_DATA" library (record.number "open")
  let high ← decimalValue "MARKET_DATA" library (record.number "high")
  let low ← decimalValue "MARKET_DATA" library (record.number "low")
  let close ← decimalValue "MARKET_DATA" library (record.number "close")
  let volume ← asciiInt "MARKET_DATA" "VOLUME" (record.number "volume")
  let providerAdjustedClose ← decimalValue "MARKET_DATA" library
    (record.number "provider_adjusted_close")
  pure ({
    securityId := context.securityId
    providerId := context.providerId
    sourcePayloadId := context.sourcePayloadId
    providerSymbol, tradingDate
    marketTimestamp := none
    «open», high, low, close, volume, currencyCode, adjustmentType, providerAdjustedClose
    sourcePublishedAt := record.sourcePublishedAt
    retrievedAt := context.retrievedAt }, marketTimestamp)

/-- One turn of the loop. -/
def toBar (record : ProviderRecord) : Except BridgeRaised DailyPriceBarWrite := do
  let (tradingDate, currencyCode) ← checkRecord library manifest context record
  let (bar, marketTimestamp) ← readBar library context tradingDate currencyCode record
  bar.create marketTimestamp

/-- The checks of the call. -/
def gates (batch : ProviderBatch) : Except BridgeRaised Unit := do
  checkCall "MARKET_DATA" (context.derivedUseApproved && context.cacheRetentionApproved)
    context.retrievedAt context.researchAsOfTime manifest batch
  -- The financial-fact bridge has no such check.
  check (laterThan context.researchAsOfTime manifest.sourcePublishedAt)
    (.value "MARKET_DATA_FUTURE_DATA")
  checkReal "MARKET_DATA" manifest

/-- `MarketDataProviderBridge.stage`, with the bars that the repository then has. -/
def stage (repository : List DailyPriceBarWrite) (batch : ProviderBatch) :
    Except BridgeRaised MarketDataBridgeResult × List DailyPriceBarWrite :=
  outcome
    (planRows "MARKET_DATA" library manifest batch (gates manifest context batch)
      (toBar library manifest context))
    (fun staged =>
      { stagedPriceBarCount := staged.length
        manifestId := manifest.id
        manifestChecksum := manifest.manifestChecksum
        rawArtifactId := manifest.rawArtifactId
        sourcePayloadId := context.sourcePayloadId
        snapshotCreated := false })
    repository

end MarketDataProviderBridge

end StockResearch.Providers
