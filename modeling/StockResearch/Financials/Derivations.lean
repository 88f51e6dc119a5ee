import StockResearch.Core.Decimal
import StockResearch.Financials.Periods

/-!
# Derived financial values

`domain/financials/calculations.py`: a quarter from two cumulative facts, and the trailing twelve
months from four quarters or from a year and two year-to-date facts.

A derivation either is blocked, with a text, or lets through a signal of the decimal arithmetic.
Decimals are finite, and times are in UTC.
-/

namespace StockResearch.Financials

open PyTime PyDecimal

/-- What a derivation raises. -/
inductive CalculationError where
  | calculationBlocked (text : String)
  | signal (s : Signal)
deriving DecidableEq, Repr

/-- `raise CalculationBlocked(text)` if the condition holds. -/
def blockIf (p : Prop) [Decidable p] (text : String) : Except CalculationError Unit :=
  Checked.check p (.calculationBlocked text)

/-- Decimal arithmetic inside a derivation. -/
def exactly {α : Type} (x : Except Signal α) : Except CalculationError α := x.mapError .signal

structure FinancialValue where
  factId : Uuid
  securityId : Uuid
  concept : CanonicalConcept
  period : FinancialPeriod
  value : Decimal
  normalizedUnit : String
  currencyCode : Option String
  accountingBasis : String
  sourcePublishedAt : Option Instant
  vocabulary : normalizedUnit ≠ "" ∧ accountingBasis ≠ ""

structure DerivedFinancialValue where
  concept : CanonicalConcept
  value : Decimal
  normalizedUnit : String
  currencyCode : Option String
  inputFactIds : List Uuid
  formulaVersion : String
  method : String
  warnings : List String
  isDerivedFromCumulative : Bool
deriving DecidableEq

def requireVisible (value : FinancialValue) (cutoff : Instant) : Except CalculationError Unit := do
  let published ← Checked.require value.sourcePublishedAt
    (.calculationBlocked "source_published_at is required for as-of calculation")
  blockIf (cutoff < published) "fact was not public at the research as-of time"

/-- `_require_compatible`; the first value is the one that the others are compared with. -/
def requireCompatible (first : FinancialValue) (rest : List FinancialValue) :
    Except CalculationError Unit :=
  rest.forM fun value => do
    blockIf (value.securityId ≠ first.securityId)
      "security mismatch blocks deterministic calculation"
    blockIf (value.concept ≠ first.concept) "concept mismatch blocks deterministic calculation"
    blockIf (value.currencyCode ≠ first.currencyCode)
      "currency mismatch blocks deterministic calculation"
    blockIf (value.normalizedUnit ≠ first.normalizedUnit)
      "unit mismatch blocks deterministic calculation"
    blockIf (value.accountingBasis ≠ first.accountingBasis)
      "accounting basis mismatch blocks deterministic calculation"

/-! ## A quarter from cumulative facts -/

def cumulativeStage (period : FinancialPeriod) : Except CalculationError Nat :=
  if period.periodType = .quarter ∧ period.fiscalQuarter = some 1 then .ok 1
  else if period.periodType = .halfYear ∧ period.fiscalQuarter = some 2 then .ok 2
  else if period.periodType = .nineMonthYtd ∧ period.fiscalQuarter = some 3 then .ok 3
  else if period.periodType = .annual then .ok 4
  else .error (.calculationBlocked "unsupported cumulative fiscal-period sequence")

/-- The value and the inputs of a quarter, from its stage. -/
def deaccumulatedValue (stage : Nat) (current : FinancialValue) (previous : Option FinancialValue)
    (cutoff : Instant) : Except CalculationError (Decimal × List Uuid) :=
  if stage = 1 then do
    blockIf (previous.isSome = true) "Q1 cumulative derivation must not have a predecessor"
    return (current.value, [current.factId])
  else do
    let previous ← Checked.require previous
      (.calculationBlocked "previous cumulative fact is required")
    requireCompatible current [previous]
    requireVisible previous cutoff
    blockIf (previous.period.isCumulative = false) "previous fact must be explicitly cumulative"
    blockIf (current.period.fiscalYear ≠ previous.period.fiscalYear)
      "cumulative facts must belong to the same fiscal year"
    let previousStage ← cumulativeStage previous.period
    blockIf ((previousStage : Int) ≠ (stage : Int) - 1) "cumulative periods must be consecutive"
    blockIf (current.period.periodStart ≠ previous.period.periodStart ∨
        current.period.periodEnd ≤ previous.period.periodEnd)
      "cumulative periods must share a continuous source start"
    let value ← exactly (current.value.sub defaultContext previous.value)
    return (value, [previous.factId, current.factId])

def deaccumulateQuarter (current : FinancialValue) (previous : Option FinancialValue)
    (researchAsOfTime : Instant) : Except CalculationError DerivedFinancialValue := do
  let concept := getConcept current.concept
  blockIf (concept.supportsCumulative = false ∨ concept.factNature ≠ .duration)
    s!"{concept.code.value} cannot be de-accumulated"
  blockIf (current.period.isCumulative = false) "current fact must be explicitly cumulative"
  requireVisible current researchAsOfTime
  let stage ← cumulativeStage current.period
  let (value, inputIds) ← deaccumulatedValue stage current previous researchAsOfTime
  return {
    concept := current.concept
    value
    normalizedUnit := current.normalizedUnit
    currencyCode := current.currencyCode
    inputFactIds := inputIds
    formulaVersion := "deaccumulation-v1.0.0"
    method := "CUMULATIVE_DIFFERENCE"
    warnings := if ¬ 0 ≤ value then ["NEGATIVE_DEACCUMULATED_VALUE"] else []
    isDerivedFromCumulative := true }

/-! ## Trailing twelve months -/

def quarterIndex (period : FinancialPeriod) : Except CalculationError Int := do
  let quarter ← Checked.require period.fiscalQuarter
    (.calculationBlocked "single-quarter fact requires an explicit fiscal quarter")
  return period.fiscalYear * 4 + quarter - 1

/-- `all(later == earlier + 1 for earlier, later in zip(indexes, indexes[1:]))` -/
def consecutive (indexes : List Int) : Prop :=
  ∀ pair ∈ indexes.zip indexes.tail, pair.2 = pair.1 + 1

instance (indexes : List Int) : Decidable (consecutive indexes) :=
  inferInstanceAs (Decidable (∀ _ ∈ _, _))

/-- `sum(values, start=Decimal("0"))` -/
def sumDecimals (values : List Decimal) : Except Signal Decimal :=
  values.foldlM (fun total value => total.add defaultContext value) 0

def calculateTtmFourQuarters (quarters : List FinancialValue) (researchAsOfTime : Instant) :
    Except CalculationError DerivedFinancialValue :=
  match quarters.insertionSort fun a b => a.period.periodEnd ≤ b.period.periodEnd with
  | [q₁, q₂, q₃, q₄] => do
      let ordered := [q₁, q₂, q₃, q₄]
      requireCompatible q₁ [q₂, q₃, q₄]
      let concept := getConcept q₁.concept
      blockIf (concept.supportsTtm = false ∨ concept.supportsDuration = false)
        s!"{concept.code.value} is not eligible for TTM"
      blockIf (∃ fact ∈ ordered,
          fact.period.isCumulative = true ∨ fact.period.isSingleQuarter = false)
        "TTM method A requires non-cumulative single quarters"
      ordered.forM (requireVisible · researchAsOfTime)
      let indexes ← ordered.mapM (quarterIndex ·.period)
      blockIf (¬ consecutive indexes) "TTM quarters must be consecutive"
      let durationDays : Int := (ordered.map (·.period.durationDays.getD 0)).sum
      let value ← exactly (sumDecimals (ordered.map (·.value)))
      return {
        concept := q₁.concept
        value
        normalizedUnit := q₁.normalizedUnit
        currencyCode := q₁.currencyCode
        inputFactIds := ordered.map (·.factId)
        formulaVersion := "ttm-four-quarters-v1.0.0"
        method := "FOUR_QUARTERS"
        warnings := if 370 ≤ durationDays then ["FIFTY_THREE_WEEK_PERIOD"] else []
        isDerivedFromCumulative := false }
  | _ => .error (.calculationBlocked "TTM method A requires exactly four quarters")

/-- `annual + latest_ytd - prior_year_ytd` -/
def bridgeValue (annual latestYtd priorYearYtd : Decimal) : Except Signal Decimal := do
  let total ← annual.add defaultContext latestYtd
  total.sub defaultContext priorYearYtd

def calculateTtmBridge (annual latestYtd priorYearYtd : FinancialValue)
    (researchAsOfTime : Instant) : Except CalculationError DerivedFinancialValue := do
  let inputs := [annual, latestYtd, priorYearYtd]
  requireCompatible annual [latestYtd, priorYearYtd]
  let concept := getConcept annual.concept
  blockIf (concept.supportsTtm = false ∨ concept.supportsDuration = false)
    s!"{concept.code.value} is not eligible for TTM"
  inputs.forM (requireVisible · researchAsOfTime)
  blockIf (annual.period.periodType ≠ .annual ∨ annual.period.isCumulative = false)
    "TTM bridge requires one cumulative annual fact"
  blockIf (latestYtd.period.isCumulative = false ∨ priorYearYtd.period.isCumulative = false)
    "TTM bridge requires cumulative YTD facts"
  blockIf (latestYtd.period.fiscalYear ≠ annual.period.fiscalYear + 1)
    "latest YTD must follow the annual fiscal year"
  blockIf (priorYearYtd.period.fiscalYear ≠ annual.period.fiscalYear)
    "prior YTD must belong to the annual fiscal year"
  blockIf (latestYtd.period.fiscalQuarter ≠ priorYearYtd.period.fiscalQuarter)
    "YTD fiscal quarters must match"
  let comparability := assessPeriodComparability latestYtd.period priorYearYtd.period
  blockIf (comparability.comparable = false) "YTD periods are not comparable"
  let value ← exactly (bridgeValue annual.value latestYtd.value priorYearYtd.value)
  return {
    concept := annual.concept
    value
    normalizedUnit := annual.normalizedUnit
    currencyCode := annual.currencyCode
    inputFactIds := inputs.map (·.factId)
    formulaVersion := "ttm-annual-ytd-bridge-v1.0.0"
    method := "ANNUAL_YTD_BRIDGE"
    warnings := comparability.warnings
    isDerivedFromCumulative := false }

end StockResearch.Financials
