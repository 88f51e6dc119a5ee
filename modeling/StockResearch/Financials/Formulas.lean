import StockResearch.Financials.Derivations

/-!
# The metric formulas

The registry and the implementations of `domain/financials/formulas.py`.  An implementation reads
its inputs by role.  It is blocked, with a warning, when one is missing or when currencies or units
differ; `execute_formula` turns that into a metric without a value.

Decimal arithmetic may raise a signal, which nobody catches.
-/

namespace StockResearch.Financials

open PyDecimal

/-! ## Vocabularies -/

inductive QualityStatus where
  | pass | partly | blocked | fail
deriving DecidableEq, Repr

inductive MetricCode where
  | revenueGrowth | grossMargin | operatingMargin | netMarginParent | roeParent | roaTotal | roic
  | operatingCashFlow | freeCashFlow | liabilitiesToAssets | netDebt | basicEps | dilutedEps
  | marketCap | peTtmDiluted | pbParent | psTtm | enterpriseValue | evToEbitdaTtm | fcfYieldTtm
  | revenueTtm | netIncomeParentTtm | ebitdaTtm
deriving DecidableEq, Repr

inductive MetricValueState where
  | value | zero | null | notMeaningful
deriving DecidableEq, Repr

/-- The balances that are read at the opening and at the closing of a period. -/
inductive Balance where
  | equityParent | totalAssets | totalEquity | totalDebt | cash
deriving DecidableEq, Repr

/-- The roles of formula inputs; `startswith("opening_")` and `startswith("closing_")` are
constructors. -/
inductive Role where
  | currentRevenue | priorRevenue | revenue | costOfRevenue | operatingIncome | netIncomeParent
  | netIncomeTotal | pretaxIncome | incomeTaxExpense
  | opening (balance : Balance) | closing (balance : Balance)
  | reportedOcf | operatingCashFlow | capitalExpenditures | totalLiabilities | totalAssets
  | totalDebt | cash | reportedBasicEps | reportedDilutedEps | price | actualSharesOutstanding
  | marketCap | netIncomeParentTtm | equityParent | revenueTtm | preferredEquity
  | minorityInterest | enterpriseValue | ebitdaTtm | freeCashFlowTtm
  | quarter1 | quarter2 | quarter3 | quarter4 | latestFy | latestYtd | priorYtd
deriving DecidableEq, Repr

def Balance.text : Balance → String
  | equityParent => "equity_parent"
  | totalAssets => "total_assets"
  | totalEquity => "total_equity"
  | totalDebt => "total_debt"
  | cash => "cash"

def Role.text : Role → String
  | currentRevenue => "current_revenue"
  | priorRevenue => "prior_revenue"
  | revenue => "revenue"
  | costOfRevenue => "cost_of_revenue"
  | operatingIncome => "operating_income"
  | netIncomeParent => "net_income_parent"
  | netIncomeTotal => "net_income_total"
  | pretaxIncome => "pretax_income"
  | incomeTaxExpense => "income_tax_expense"
  | opening balance => "opening_" ++ balance.text
  | closing balance => "closing_" ++ balance.text
  | reportedOcf => "reported_ocf"
  | operatingCashFlow => "operating_cash_flow"
  | capitalExpenditures => "capital_expenditures"
  | totalLiabilities => "total_liabilities"
  | totalAssets => "total_assets"
  | totalDebt => "total_debt"
  | cash => "cash"
  | reportedBasicEps => "reported_basic_eps"
  | reportedDilutedEps => "reported_diluted_eps"
  | price => "price"
  | actualSharesOutstanding => "actual_shares_outstanding"
  | marketCap => "market_cap"
  | netIncomeParentTtm => "net_income_parent_ttm"
  | equityParent => "equity_parent"
  | revenueTtm => "revenue_ttm"
  | preferredEquity => "preferred_equity"
  | minorityInterest => "minority_interest"
  | enterpriseValue => "enterprise_value"
  | ebitdaTtm => "ebitda_ttm"
  | freeCashFlowTtm => "free_cash_flow_ttm"
  | quarter1 => "quarter_1"
  | quarter2 => "quarter_2"
  | quarter3 => "quarter_3"
  | quarter4 => "quarter_4"
  | latestFy => "latest_fy"
  | latestYtd => "latest_ytd"
  | priorYtd => "prior_ytd"

/-! ## Inputs and definitions -/

structure FormulaInput where
  value : Option Decimal
  unit : String
  currencyCode : Option String
deriving DecidableEq, Repr

/-- `isascii()` and `isupper()` of a code of three letters: no lower-case letter, and a capital. -/
def isCurrencyToken (code : String) : Bool :=
  code.toList.length == 3 && code.toList.all (·.toNat < 128) && code.toList.any Char.isUpper &&
    code.toList.all (!·.isLower)

/-- `FormulaInput.__post_init__` -/
def FormulaInput.create (value : Option Decimal) (unit : String) (currencyCode : Option String) :
    Except String FormulaInput := do
  Checked.check (unit = "") "formula input unit must not be empty"
  Checked.check (∃ code ∈ currencyCode, isCurrencyToken code = false)
    "currency_code must be an uppercase ISO 4217 token"
  return ⟨value, unit, currencyCode⟩

/-- The inputs of a formula, by role. -/
abbrev FormulaInputs := List (Role × FormulaInput)

/-- The requirement on the periods of a formula's inputs. -/
inductive PeriodRequirement where
  | comparableDuration | sameDuration | durationWithOpeningAndClosing | duration | sameInstant
  | exactReportedDuration | priceDate | pointInTimeOverTtm | pointInTime | fourComparableQuarters
deriving DecidableEq, Repr

/-- The part of a formula's definition that the code reads, and the requirement that it records. -/
structure FormulaDefinition where
  metricCode : MetricCode
  formulaVersion : String
  requiredInputs : List Role
  optionalInputs : List Role
  periodRequirement : PeriodRequirement
deriving DecidableEq, Repr

def definition (code : MetricCode) (required : List Role) (period : PeriodRequirement)
    (optional : List Role) : FormulaDefinition :=
  ⟨code, "1.0.0", required, optional, period⟩

def quarterRoles : List Role := [.quarter1, .quarter2, .quarter3, .quarter4]

def bridgeRoles : List Role := [.latestFy, .latestYtd, .priorYtd]

def getFormula : MetricCode → FormulaDefinition
  | .revenueGrowth =>
      definition .revenueGrowth [.currentRevenue, .priorRevenue] .comparableDuration []
  | .grossMargin => definition .grossMargin [.revenue, .costOfRevenue] .sameDuration []
  | .operatingMargin => definition .operatingMargin [.operatingIncome, .revenue] .sameDuration []
  | .netMarginParent => definition .netMarginParent [.netIncomeParent, .revenue] .sameDuration []
  | .roeParent => definition .roeParent
      [.netIncomeParent, .opening .equityParent, .closing .equityParent]
      .durationWithOpeningAndClosing []
  | .roaTotal => definition .roaTotal
      [.netIncomeTotal, .opening .totalAssets, .closing .totalAssets]
      .durationWithOpeningAndClosing []
  | .roic => definition .roic
      [.operatingIncome, .pretaxIncome, .incomeTaxExpense, .opening .totalEquity,
        .closing .totalEquity, .opening .totalDebt, .closing .totalDebt, .opening .cash,
        .closing .cash]
      .durationWithOpeningAndClosing []
  | .operatingCashFlow => definition .operatingCashFlow [.reportedOcf] .duration []
  | .freeCashFlow =>
      definition .freeCashFlow [.operatingCashFlow, .capitalExpenditures] .sameDuration []
  | .liabilitiesToAssets =>
      definition .liabilitiesToAssets [.totalLiabilities, .totalAssets] .sameInstant []
  | .netDebt => definition .netDebt [.totalDebt, .cash] .sameInstant []
  | .basicEps => definition .basicEps [.reportedBasicEps] .exactReportedDuration []
  | .dilutedEps => definition .dilutedEps [.reportedDilutedEps] .exactReportedDuration []
  | .marketCap => definition .marketCap [.price, .actualSharesOutstanding] .priceDate []
  | .peTtmDiluted =>
      definition .peTtmDiluted [.marketCap, .netIncomeParentTtm] .pointInTimeOverTtm []
  | .pbParent => definition .pbParent [.marketCap, .equityParent] .pointInTime []
  | .psTtm => definition .psTtm [.marketCap, .revenueTtm] .pointInTimeOverTtm []
  | .enterpriseValue => definition .enterpriseValue
      [.marketCap, .totalDebt, .preferredEquity, .minorityInterest, .cash] .pointInTime []
  | .evToEbitdaTtm =>
      definition .evToEbitdaTtm [.enterpriseValue, .ebitdaTtm] .pointInTimeOverTtm []
  | .fcfYieldTtm => definition .fcfYieldTtm [.freeCashFlowTtm, .marketCap] .pointInTimeOverTtm []
  | .revenueTtm => definition .revenueTtm quarterRoles .fourComparableQuarters bridgeRoles
  | .netIncomeParentTtm =>
      definition .netIncomeParentTtm quarterRoles .fourComparableQuarters bridgeRoles
  | .ebitdaTtm => definition .ebitdaTtm quarterRoles .fourComparableQuarters bridgeRoles

lemma metricCode_getFormula (code : MetricCode) : (getFormula code).metricCode = code := by
  cases code <;> rfl

def formulaRegistry : List FormulaDefinition :=
  [.revenueGrowth, .grossMargin, .operatingMargin, .netMarginParent, .roeParent, .roaTotal, .roic,
    .operatingCashFlow, .freeCashFlow, .liabilitiesToAssets, .netDebt, .basicEps, .dilutedEps,
    .marketCap, .peTtmDiluted, .pbParent, .psTtm, .enterpriseValue, .evToEbitdaTtm, .fcfYieldTtm,
    .revenueTtm, .netIncomeParentTtm, .ebitdaTtm].map getFormula

structure MetricResult where
  metricCode : MetricCode
  value : Option Decimal
  valueState : MetricValueState
  unit : String
  currencyCode : Option String
  qualityStatus : QualityStatus
  formulaVersion : String
  warnings : List String
  consumedInputs : List Role
deriving DecidableEq, Repr

/-! ## Reading inputs -/

/-- What an implementation raises: `_FormulaBlocked`, or a signal of the arithmetic. -/
inductive FormulaError where
  | formulaBlocked (warning : String)
  | signal (s : Signal)
deriving DecidableEq, Repr

def compute {α : Type} (x : Except Signal α) : Except FormulaError α := x.mapError .signal

/-- An input with its value. -/
structure RequiredInput where
  value : Decimal
  unit : String
  currencyCode : Option String
deriving DecidableEq, Repr

/-- One input of `_required`. -/
def requiredInput (inputs : FormulaInputs) (role : Role) : Except FormulaError RequiredInput :=
  match inputs.lookup role with
  | some ⟨some value, unit, currencyCode⟩ => .ok ⟨value, unit, currencyCode⟩
  | _ => .error (.formulaBlocked s!"SOURCE_MISSING:{role.text}")

def required (inputs : FormulaInputs) (roles : List Role) :
    Except FormulaError (List RequiredInput) :=
  roles.mapM (requiredInput inputs)

/-- `_same_amount_basis`, of at least one value. -/
def sameAmountBasis (first : RequiredInput) (rest : List RequiredInput) :
    Except FormulaError (String × String) := do
  let currency ← Checked.require first.currencyCode (.formulaBlocked "INCOMPATIBLE_CURRENCY")
  Checked.check (∃ value ∈ rest, value.currencyCode ≠ some currency)
    (.formulaBlocked "INCOMPATIBLE_CURRENCY")
  Checked.check (∃ value ∈ rest, value.unit ≠ first.unit) (.formulaBlocked "INCOMPATIBLE_UNIT")
  return (currency, first.unit)

/-! ## Results -/

/-- `_numeric` -/
def numeric (code : MetricCode) (value : Decimal) (unit : String) (currencyCode : Option String)
    (roles : List Role) (warnings : List String) : MetricResult where
  metricCode := code
  value := some value
  valueState := if value.coefficient = 0 then .zero else .value
  unit := unit
  currencyCode := currencyCode
  qualityStatus := if warnings = [] then .pass else .partly
  formulaVersion := (getFormula code).formulaVersion
  warnings := warnings
  consumedInputs := roles

/-- The unit of a metric without a value. -/
def outputUnit : MetricCode → String
  | .operatingCashFlow | .freeCashFlow | .netDebt | .marketCap | .enterpriseValue | .revenueTtm
  | .netIncomeParentTtm | .ebitdaTtm => "ONE"
  | .basicEps | .dilutedEps => "PER_SHARE"
  | _ => "RATIO"

def nonNumeric (code : MetricCode) (state : MetricValueState) (warning : String)
    (roles : List Role) : MetricResult where
  metricCode := code
  value := none
  valueState := state
  unit := outputUnit code
  currencyCode := none
  qualityStatus := if state = .null then .blocked else .pass
  formulaVersion := (getFormula code).formulaVersion
  warnings := [warning]
  consumedInputs := roles

/-! ## Implementations -/

def ratioFormula (code : MetricCode) (numeratorRole denominatorRole : Role)
    (negativeWarning : Option String) (inputs : FormulaInputs) :
    Except FormulaError MetricResult := do
  let roles := [numeratorRole, denominatorRole]
  let numerator ← requiredInput inputs numeratorRole
  let denominator ← requiredInput inputs denominatorRole
  let _ ← sameAmountBasis numerator [denominator]
  if denominator.value ≤ 0 then
    return nonNumeric code .notMeaningful "DENOMINATOR_NON_POSITIVE" roles
  let result ← compute (numerator.value.div defaultContext denominator.value)
  return numeric code result "RATIO" none roles
    (if 0 ≤ result then [] else negativeWarning.toList)

def revenueGrowth (inputs : FormulaInputs) : Except FormulaError MetricResult := do
  let roles : List Role := [.currentRevenue, .priorRevenue]
  let current ← requiredInput inputs .currentRevenue
  let prior ← requiredInput inputs .priorRevenue
  let _ ← sameAmountBasis current [prior]
  if prior.value ≤ 0 then
    return nonNumeric .revenueGrowth .notMeaningful "DENOMINATOR_NON_POSITIVE" roles
  let difference ← compute (current.value.sub defaultContext prior.value)
  let result ← compute (difference.div defaultContext prior.value)
  return numeric .revenueGrowth result "RATIO" none roles
    (if 0 ≤ current.value then [] else ["NEGATIVE_CURRENT_REVENUE"])

def averageReturn (code : MetricCode) (numeratorRole : Role) (balance : Balance)
    (inputs : FormulaInputs) : Except FormulaError MetricResult := do
  let roles := [numeratorRole, .opening balance, .closing balance]
  let numerator ← requiredInput inputs numeratorRole
  let opening ← requiredInput inputs (.opening balance)
  let closing ← requiredInput inputs (.closing balance)
  let _ ← sameAmountBasis numerator [opening, closing]
  let total ← compute (opening.value.add defaultContext closing.value)
  let average ← compute (total.div defaultContext 2)
  if average ≤ 0 then
    return nonNumeric code .notMeaningful "DENOMINATOR_NON_POSITIVE" roles
  let result ← compute (numerator.value.div defaultContext average)
  return numeric code result "RATIO" none roles []

/-- `equity + debt - cash` -/
def investedCapital (equity debt cash : Decimal) : Except Signal Decimal := do
  let funds ← equity.add defaultContext debt
  funds.sub defaultContext cash

def roic (inputs : FormulaInputs) : Except FormulaError MetricResult := do
  let roles := (getFormula .roic).requiredInputs
  let operatingIncome ← requiredInput inputs .operatingIncome
  let pretax ← requiredInput inputs .pretaxIncome
  let tax ← requiredInput inputs .incomeTaxExpense
  let openingEquity ← requiredInput inputs (.opening .totalEquity)
  let closingEquity ← requiredInput inputs (.closing .totalEquity)
  let openingDebt ← requiredInput inputs (.opening .totalDebt)
  let closingDebt ← requiredInput inputs (.closing .totalDebt)
  let openingCash ← requiredInput inputs (.opening .cash)
  let closingCash ← requiredInput inputs (.closing .cash)
  let _ ← sameAmountBasis operatingIncome [pretax, tax, openingEquity, closingEquity, openingDebt,
    closingDebt, openingCash, closingCash]
  if pretax.value ≤ 0 then
    return nonNumeric .roic .null "EFFECTIVE_TAX_RATE_UNUSABLE" roles
  let taxRate ← compute (tax.value.div defaultContext pretax.value)
  if ¬ (0 ≤ taxRate) ∨ ¬ (taxRate ≤ 1) then
    return nonNumeric .roic .null "EFFECTIVE_TAX_RATE_UNUSABLE" roles
  let openingCapital ← compute (investedCapital openingEquity.value openingDebt.value
    openingCash.value)
  let closingCapital ← compute (investedCapital closingEquity.value closingDebt.value
    closingCash.value)
  let total ← compute (openingCapital.add defaultContext closingCapital)
  let averageCapital ← compute (total.div defaultContext 2)
  if averageCapital ≤ 0 then
    return nonNumeric .roic .notMeaningful "DENOMINATOR_NON_POSITIVE" roles
  let retained ← compute ((1 : Decimal).sub defaultContext taxRate)
  let nopat ← compute (operatingIncome.value.mul defaultContext retained)
  let result ← compute (nopat.div defaultContext averageCapital)
  return numeric .roic result "RATIO" none roles []

def signedAmount (code : MetricCode) (roles : List Role)
    (operation : List Decimal → Except Signal Decimal) (inputs : FormulaInputs) :
    Except FormulaError MetricResult := do
  match ← required inputs roles with
  | [] => .error (.formulaBlocked "INCOMPATIBLE_CURRENCY")
  | first :: rest =>
      let (currency, unit) ← sameAmountBasis first rest
      let result ← compute (operation ((first :: rest).map (·.value)))
      return numeric code result unit (some currency) roles []

/-- `lambda values: values[0]` -/
def firstOf : List Decimal → Except Signal Decimal
  | value :: _ => .ok value
  | [] => .error .invalidOperation

/-- `lambda values: values[0] - values[1]` -/
def differenceOf : List Decimal → Except Signal Decimal
  | a :: b :: _ => a.sub defaultContext b
  | _ => .error .invalidOperation

/-- `lambda values: values[0] + values[1] - values[2]` -/
def bridgeOf : List Decimal → Except Signal Decimal
  | a :: b :: c :: _ => bridgeValue a b c
  | _ => .error .invalidOperation

def ttmAmount (code : MetricCode) (inputs : FormulaInputs) : Except FormulaError MetricResult :=
  if ∀ role ∈ quarterRoles, (inputs.lookup role).isSome then
    signedAmount code quarterRoles sumDecimals inputs
  else if ∀ role ∈ bridgeRoles, (inputs.lookup role).isSome then
    signedAmount code bridgeRoles bridgeOf inputs
  else .error (.formulaBlocked "SOURCE_MISSING:TTM_COMPARABLE_INPUT_SET")

def reportedEps (code : MetricCode) (role : Role) (inputs : FormulaInputs) :
    Except FormulaError MetricResult := do
  let value ← requiredInput inputs role
  Checked.check (value.unit ≠ "PER_SHARE" ∨ value.currencyCode = none)
    (.formulaBlocked "INCOMPATIBLE_UNIT")
  return numeric code value.value "PER_SHARE" value.currencyCode [role] []

def marketCap (inputs : FormulaInputs) : Except FormulaError MetricResult := do
  let roles : List Role := [.price, .actualSharesOutstanding]
  let price ← requiredInput inputs .price
  let shares ← requiredInput inputs .actualSharesOutstanding
  Checked.check (price.unit ≠ "PER_SHARE" ∨ shares.unit ≠ "SHARES")
    (.formulaBlocked "INCOMPATIBLE_UNIT")
  Checked.check (price.currencyCode = none ∨ shares.currencyCode ≠ none)
    (.formulaBlocked "INCOMPATIBLE_CURRENCY")
  if price.value ≤ 0 ∨ shares.value ≤ 0 then
    return nonNumeric .marketCap .notMeaningful "NON_POSITIVE_PRICE_OR_SHARES" roles
  let result ← compute (price.value.mul defaultContext shares.value)
  return numeric .marketCap result "ONE" price.currencyCode roles []

def enterpriseValue (inputs : FormulaInputs) : Except FormulaError MetricResult := do
  let roles := (getFormula .enterpriseValue).requiredInputs
  let marketCap ← requiredInput inputs .marketCap
  let debt ← requiredInput inputs .totalDebt
  let preferred ← requiredInput inputs .preferredEquity
  let minority ← requiredInput inputs .minorityInterest
  let cash ← requiredInput inputs .cash
  let (currency, unit) ← sameAmountBasis marketCap [debt, preferred, minority, cash]
  let withDebt ← compute (marketCap.value.add defaultContext debt.value)
  let withPreferred ← compute (withDebt.add defaultContext preferred.value)
  let withMinority ← compute (withPreferred.add defaultContext minority.value)
  let result ← compute (withMinority.sub defaultContext cash.value)
  return numeric .enterpriseValue result unit (some currency) roles
    (if 0 ≤ result then [] else ["NEGATIVE_ENTERPRISE_VALUE"])

def evToEbitda (inputs : FormulaInputs) : Except FormulaError MetricResult := do
  let result ← ratioFormula .evToEbitdaTtm .enterpriseValue .ebitdaTtm none inputs
  if ∃ value ∈ result.value, ¬ 0 ≤ value then
    return { result with qualityStatus := .partly, warnings := ["NEGATIVE_ENTERPRISE_VALUE"] }
  return result

def liabilitiesToAssets (inputs : FormulaInputs) : Except FormulaError MetricResult :=
  if ∃ value ∈ (inputs.lookup Role.totalLiabilities).bind FormulaInput.value, ¬ 0 ≤ value then
    .ok (nonNumeric .liabilitiesToAssets .null "NEGATIVE_LIABILITIES_REJECTED" [])
  else ratioFormula .liabilitiesToAssets .totalLiabilities .totalAssets none inputs

def grossMargin (inputs : FormulaInputs) : Except FormulaError MetricResult := do
  let roles : List Role := [.revenue, .costOfRevenue]
  let revenue ← requiredInput inputs .revenue
  let cost ← requiredInput inputs .costOfRevenue
  let _ ← sameAmountBasis revenue [cost]
  if revenue.value ≤ 0 then
    return nonNumeric .grossMargin .notMeaningful "DENOMINATOR_NON_POSITIVE" roles
  let difference ← compute (revenue.value.sub defaultContext cost.value)
  let result ← compute (difference.div defaultContext revenue.value)
  return numeric .grossMargin result "RATIO" none roles
    (if 0 ≤ result then [] else ["NEGATIVE_GROSS_MARGIN"])

/-- `_IMPLEMENTATIONS` -/
def implementation : MetricCode → FormulaInputs → Except FormulaError MetricResult
  | .revenueGrowth => revenueGrowth
  | .grossMargin => grossMargin
  | .operatingMargin => ratioFormula .operatingMargin .operatingIncome .revenue
      (some "NEGATIVE_OPERATING_MARGIN")
  | .netMarginParent => ratioFormula .netMarginParent .netIncomeParent .revenue
      (some "NEGATIVE_NET_MARGIN")
  | .roeParent => averageReturn .roeParent .netIncomeParent .equityParent
  | .roaTotal => averageReturn .roaTotal .netIncomeTotal .totalAssets
  | .roic => roic
  | .operatingCashFlow => signedAmount .operatingCashFlow [.reportedOcf] firstOf
  | .freeCashFlow =>
      signedAmount .freeCashFlow [.operatingCashFlow, .capitalExpenditures] differenceOf
  | .liabilitiesToAssets => liabilitiesToAssets
  | .netDebt => signedAmount .netDebt [.totalDebt, .cash] differenceOf
  | .basicEps => reportedEps .basicEps .reportedBasicEps
  | .dilutedEps => reportedEps .dilutedEps .reportedDilutedEps
  | .marketCap => marketCap
  | .peTtmDiluted => ratioFormula .peTtmDiluted .marketCap .netIncomeParentTtm none
  | .pbParent => ratioFormula .pbParent .marketCap .equityParent none
  | .psTtm => ratioFormula .psTtm .marketCap .revenueTtm none
  | .enterpriseValue => enterpriseValue
  | .evToEbitdaTtm => evToEbitda
  | .fcfYieldTtm => ratioFormula .fcfYieldTtm .freeCashFlowTtm .marketCap none
  | .revenueTtm => ttmAmount .revenueTtm
  | .netIncomeParentTtm => ttmAmount .netIncomeParentTtm
  | .ebitdaTtm => ttmAmount .ebitdaTtm

def executeFormula (code : MetricCode) (inputs : FormulaInputs) : Except Signal MetricResult :=
  match implementation (getFormula code).metricCode inputs with
  | .ok result => .ok result
  | .error (.formulaBlocked warning) =>
      .ok (nonNumeric (getFormula code).metricCode .null warning [])
  | .error (.signal s) => .error s

end StockResearch.Financials
