import StockResearch.Core.Sorting
import StockResearch.Financials.Formulas
import Mathlib.Data.Prod.Lex
import Mathlib.Data.List.Lex
import Mathlib.Data.Char

/-!
# Binding facts to formulas

`domain/financials/calculation_service.py`: how the normalized facts of a snapshot are bound to the
roles of a formula, and the metric that is stored for it.

* The facts of a concept are read in the order of their period end, their publication and their
  identifier (`factsForConcept`).
* A role reads the latest fact of its concept in the period of the anchor, which is the latest fact
  of the first role that has one; `opening_…` and `closing_…` roles read the last two facts.
* Growth compares the latest revenue with the same period of the year before.
* Trailing twelve months are four quarters, or a year with two year-to-date facts.

Below the entry points, `factsFor concept` stands for `_facts_for_concept(facts, concept)`.
-/

namespace StockResearch.Financials

open PyTime PyDecimal

structure NormalizedFactForCalculation where
  id : Uuid
  canonicalConceptCode : String
  financialPeriodId : Uuid
  fiscalYear : Int
  fiscalQuarter : Option Int
  fiscalPeriod : String
  periodType : PeriodType
  periodStart : Option Date
  periodEnd : Date
  durationDays : Option Int
  accountingStandard : String
  isCumulative : Bool
  isSingleQuarter : Bool
  normalizedValue : Decimal
  normalizedUnit : String
  currencyCode : Option String
  sourcePublishedAt : Instant
deriving DecidableEq

abbrev Fact := NormalizedFactForCalculation

/-- The roles of a formula with the facts that are bound to them. -/
abbrev Selected := List (Role × Fact)

namespace NormalizedFactForCalculation

/-- `(fact.period_end, fact.source_published_at, str(fact.id))` -/
def key (fact : Fact) : Date ×ₗ Instant ×ₗ List Char :=
  toLex (fact.periodEnd, toLex (fact.sourcePublishedAt, fact.id.chars))

/-- `(fact.period_end, str(fact.id))` -/
def referenceKey (fact : Fact) : Date ×ₗ List Char := toLex (fact.periodEnd, fact.id.chars)

end NormalizedFactForCalculation

def factsForConcept (facts : List Fact) (concept : String) : List Fact :=
  (facts.filter (·.canonicalConceptCode = concept)).insertionSort fun a b => a.key ≤ b.key

def Balance.concept : Balance → String
  | equityParent => "EQUITY_ATTRIBUTABLE_TO_PARENT"
  | totalAssets => "TOTAL_ASSETS"
  | totalEquity => "TOTAL_EQUITY"
  | totalDebt => "TOTAL_DEBT"
  | cash => "CASH_AND_CASH_EQUIVALENTS"

/-- `_ROLE_CONCEPT.get(role)` -/
def Role.concept : Role → Option String
  | currentRevenue | priorRevenue | revenue => some "REVENUE"
  | costOfRevenue => some "COST_OF_REVENUE"
  | operatingIncome => some "OPERATING_INCOME"
  | netIncomeParent => some "NET_INCOME_ATTRIBUTABLE_TO_PARENT"
  | netIncomeTotal => some "NET_INCOME"
  | opening balance | closing balance => some balance.concept
  | reportedOcf | operatingCashFlow => some "OPERATING_CASH_FLOW"
  | capitalExpenditures => some "CAPITAL_EXPENDITURES"
  | totalLiabilities => some "TOTAL_LIABILITIES"
  | totalAssets => some "TOTAL_ASSETS"
  | totalDebt => some "TOTAL_DEBT"
  | cash => some "CASH_AND_CASH_EQUIVALENTS"
  | reportedBasicEps => some "BASIC_EPS"
  | reportedDilutedEps => some "DILUTED_EPS"
  | actualSharesOutstanding => some "PERIOD_END_SHARES_OUTSTANDING"
  | equityParent => some "EQUITY_ATTRIBUTABLE_TO_PARENT"
  | preferredEquity => some "PREFERRED_EQUITY"
  | minorityInterest => some "MINORITY_INTEREST"
  | pretaxIncome | incomeTaxExpense | price | marketCap | netIncomeParentTtm | revenueTtm
  | enterpriseValue | ebitdaTtm | freeCashFlowTtm | quarter1 | quarter2 | quarter3 | quarter4
  | latestFy | latestYtd | priorYtd => none

def ttmConcept : MetricCode → Option String
  | .revenueTtm => some "REVENUE"
  | .netIncomeParentTtm => some "NET_INCOME_ATTRIBUTABLE_TO_PARENT"
  | .ebitdaTtm => some "EBITDA"
  | _ => none

/-! ## Roles of one period -/

/-- `role.startswith(("opening_", "closing_"))` -/
def Role.isBalance : Role → Bool
  | opening _ | closing _ => true
  | _ => false

def latestAnchor (roles : List Role) (factsFor : String → List Fact) : Option Fact :=
  roles.findSome? fun role =>
    if role.isBalance then none else role.concept.bind fun concept => (factsFor concept).getLast?

/-- The fact that the loop of `_bind_inputs` binds to a role. -/
def bindRole (anchor : Option Fact) (factsFor : String → List Fact) (role : Role) : Option Fact :=
  role.concept.bind fun concept =>
    let candidates := factsFor concept
    match role with
    | .opening _ => candidates.dropLast.getLast?
    | .closing _ => candidates.getLast?
    | _ =>
        match anchor with
        | some anchor =>
            (candidates.filter (·.financialPeriodId = anchor.financialPeriodId)).getLast?
        | none => candidates.getLast?

/-- The loop of `_bind_inputs` over the roles. -/
def bindRoles (roles : List Role) (factsFor : String → List Fact) : Selected :=
  roles.filterMap fun role =>
    (bindRole (latestAnchor roles factsFor) factsFor role).map fun fact => (role, fact)

/-! ## Growth -/

/-- The same period, a year before. -/
def isPriorOf (current fact : Fact) : Bool :=
  fact.fiscalYear = current.fiscalYear - 1 && fact.periodType = current.periodType &&
    fact.fiscalQuarter = current.fiscalQuarter && fact.isCumulative = current.isCumulative

/-- The branch of `_bind_inputs` for revenue growth. -/
def bindGrowth (factsFor : String → List Fact) : Selected :=
  let revenue := factsFor "REVENUE"
  match revenue.getLast? with
  | none => []
  | some current =>
      (.currentRevenue, current) ::
        match revenue.dropLast.reverse.find? (isPriorOf current) with
        | some prior => [(.priorRevenue, prior)]
        | none => []

/-! ## Trailing twelve months -/

def sameTtmBasis : List Fact → Prop
  | [] => False
  | first :: rest => first.currencyCode ≠ none ∧ ∀ fact ∈ rest,
      fact.normalizedUnit = first.normalizedUnit ∧ fact.currencyCode = first.currencyCode ∧
        fact.accountingStandard = first.accountingStandard

instance : ∀ facts, Decidable (sameTtmBasis facts)
  | [] => inferInstanceAs (Decidable False)
  | _ :: _ => inferInstanceAs (Decidable (_ ∧ _))

/-- `fact.fiscal_year * 4 + fact.fiscal_quarter - 1` -/
def factQuarterIndex (fact : Fact) : Option Int :=
  fact.fiscalQuarter.map fun quarter => fact.fiscalYear * 4 + quarter - 1

def quartersAreComparable (quarters : List Fact) : Prop :=
  sameTtmBasis quarters ∧ ∃ indexes ∈ quarters.mapM factQuarterIndex, consecutive indexes

instance (quarters : List Fact) : Decidable (quartersAreComparable quarters) :=
  inferInstanceAs (Decidable (_ ∧ _))

def durationsAreComparable (current comparison : Fact) : Bool :=
  match current.durationDays, comparison.durationDays with
  | some m, some n => (m - n).natAbs ≤ 7
  | m, n => m = n

def lastFour (facts : List Fact) : List Fact := facts.drop (facts.length - 4)

/-- A single quarter that is not cumulative. -/
def isPlainQuarter (fact : Fact) : Bool := fact.isSingleQuarter && !fact.isCumulative

def isCumulativeYear (fact : Fact) : Bool := fact.periodType = .annual && fact.isCumulative

/-- A year-to-date fact of the year after. -/
def isLatestYtdOf (annual fact : Fact) : Bool :=
  fact.fiscalYear = annual.fiscalYear + 1 && fact.isCumulative && fact.periodType ≠ .annual

/-- The year-to-date fact of the year itself, to the same quarter. -/
def isPriorYtdOf (annual latestYtd fact : Fact) : Bool :=
  fact.fiscalYear = annual.fiscalYear && fact.fiscalQuarter = latestYtd.fiscalQuarter &&
    fact.periodType = latestYtd.periodType && fact.isCumulative && fact.periodType ≠ .annual

/-- The bridge over three facts, if they can be compared. -/
def bridgeOver (annual latestYtd priorYtd : Fact) : Option Selected :=
  if sameTtmBasis [annual, latestYtd, priorYtd] ∧ durationsAreComparable latestYtd priorYtd then
    some [(.latestFy, annual), (.latestYtd, latestYtd), (.priorYtd, priorYtd)]
  else none

/-- The bridge from a year and a later year-to-date fact. -/
def bridgeFrom (conceptFacts : List Fact) (annual latestYtd : Fact) : Option Selected :=
  (conceptFacts.filter (isPriorYtdOf annual latestYtd)).getLast?.bind (bridgeOver annual latestYtd)

def bridgeFromYear (conceptFacts : List Fact) (annual : Fact) : Option Selected :=
  (conceptFacts.filter (isLatestYtdOf annual)).reverse.findSome? (bridgeFrom conceptFacts annual)

def bindTtmInputs (conceptFacts : List Fact) : Selected :=
  let quarters := lastFour (conceptFacts.filter isPlainQuarter)
  if quarters.length = 4 ∧ quartersAreComparable quarters then quarterRoles.zip quarters
  else
    ((conceptFacts.filter isCumulativeYear).reverse.findSome? (bridgeFromYear conceptFacts)).getD []

/-! ## The metrics of a snapshot -/

/-- The facts that `_bind_inputs` selects. -/
def selectFacts (code : MetricCode) (factsFor : String → List Fact) : Selected :=
  match ttmConcept code with
  | some concept => bindTtmInputs (factsFor concept)
  | none =>
      if code = .revenueGrowth then bindGrowth factsFor
      else bindRoles (getFormula code).requiredInputs factsFor

def formulaInputs (selected : Selected) : Except String FormulaInputs :=
  selected.mapM fun item => do
    let input ← FormulaInput.create (some item.2.normalizedValue) item.2.normalizedUnit
      item.2.currencyCode
    return (item.1, input)

def bindInputs (definition : FormulaDefinition) (facts : List Fact) :
    Except String (FormulaInputs × Selected) := do
  let selected := selectFacts definition.metricCode (factsForConcept facts)
  let inputs ← formulaInputs selected
  return (inputs, selected)

/-- The first of two facts with the greater key. -/
def laterFact (best fact : Fact) : Fact :=
  if best.referenceKey < fact.referenceKey then fact else best

/-- `max(selected.values(), key=…, default=None)` -/
def referenceFact : List Fact → Option Fact
  | [] => none
  | fact :: rest => some (rest.foldl laterFact fact)

def metricPeriod (definition : FormulaDefinition) (reference : Option Fact) (selected : Selected) :
    String :=
  if (ttmConcept definition.metricCode).isSome then
    if (selected.lookup .quarter1).isSome then "TTM:FOUR_QUARTERS"
    else if (selected.lookup .latestFy).isSome then "TTM:ANNUAL_YTD_BRIDGE"
    else "TTM:BLOCKED"
  else reference.elim "SNAPSHOT" (·.fiscalPeriod)

/-- What is stored of a metric, but for identifiers. -/
structure DerivedMetric where
  metricCode : MetricCode
  metricPeriod : String
  periodEnd : Option Date
  value : Option Decimal
  valueState : MetricValueState
  unit : String
  currencyCode : Option String
  qualityStatus : QualityStatus
  formulaVersion : String
  warningCodes : List String
deriving DecidableEq

/-- What a metric may raise. -/
inductive MetricError where
  | valueError (text : String)
  | signal (s : Signal)
deriving DecidableEq, Repr

/-- The metric of one formula, as `calculate_snapshot` stores it. -/
def deriveMetric (definition : FormulaDefinition) (facts : List Fact) :
    Except MetricError DerivedMetric := do
  let (inputs, selected) ← (bindInputs definition facts).mapError .valueError
  let result ← (executeFormula definition.metricCode inputs).mapError .signal
  let reference := referenceFact (selected.map (·.2))
  return {
    metricCode := definition.metricCode
    metricPeriod := metricPeriod definition reference selected
    periodEnd := reference.map (·.periodEnd)
    value := result.value
    valueState := result.valueState
    unit := result.unit
    currencyCode := result.currencyCode
    qualityStatus := result.qualityStatus
    formulaVersion := result.formulaVersion
    warningCodes := result.warnings }

end StockResearch.Financials
