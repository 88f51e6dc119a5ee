import StockResearch.Core.Checked
import StockResearch.Core.Chronology
import StockResearch.Financials.FactMapping

/-!
# Concepts and fiscal periods

The registry of `domain/financials/concepts.py` and the periods of `domain/financials/periods.py`.

A period is created with the fiscal identity of its source: an instant has no start, every other
period has one, and its days are counted with both ends.  Two periods are compared by their nature,
their type, their accounting standard and their length, with a week of tolerance.
-/

namespace StockResearch.Financials

open PyTime

/-! ## Concepts -/

inductive CanonicalConcept where
  | revenue | costOfRevenue | grossProfit | operatingIncome | ebitda | pretaxIncome
  | incomeTaxExpense | netIncome | netIncomeAttributableToParent | basicEps | dilutedEps
  | cashAndCashEquivalents | shortTermInvestments | accountsReceivable | inventory
  | totalCurrentAssets | totalAssets | shortTermDebt | longTermDebt | totalDebt
  | totalCurrentLiabilities | totalLiabilities | totalEquity | equityAttributableToParent
  | minorityInterest | preferredEquity | operatingCashFlow | capitalExpenditures
  | investingCashFlow | financingCashFlow | cashDividendsPaid | shareRepurchases
  | basicWeightedAverageShares | dilutedWeightedAverageShares | periodEndSharesOutstanding
deriving DecidableEq, Repr

namespace CanonicalConcept

def value : CanonicalConcept → String
  | revenue => "REVENUE"
  | costOfRevenue => "COST_OF_REVENUE"
  | grossProfit => "GROSS_PROFIT"
  | operatingIncome => "OPERATING_INCOME"
  | ebitda => "EBITDA"
  | pretaxIncome => "PRETAX_INCOME"
  | incomeTaxExpense => "INCOME_TAX_EXPENSE"
  | netIncome => "NET_INCOME"
  | netIncomeAttributableToParent => "NET_INCOME_ATTRIBUTABLE_TO_PARENT"
  | basicEps => "BASIC_EPS"
  | dilutedEps => "DILUTED_EPS"
  | cashAndCashEquivalents => "CASH_AND_CASH_EQUIVALENTS"
  | shortTermInvestments => "SHORT_TERM_INVESTMENTS"
  | accountsReceivable => "ACCOUNTS_RECEIVABLE"
  | inventory => "INVENTORY"
  | totalCurrentAssets => "TOTAL_CURRENT_ASSETS"
  | totalAssets => "TOTAL_ASSETS"
  | shortTermDebt => "SHORT_TERM_DEBT"
  | longTermDebt => "LONG_TERM_DEBT"
  | totalDebt => "TOTAL_DEBT"
  | totalCurrentLiabilities => "TOTAL_CURRENT_LIABILITIES"
  | totalLiabilities => "TOTAL_LIABILITIES"
  | totalEquity => "TOTAL_EQUITY"
  | equityAttributableToParent => "EQUITY_ATTRIBUTABLE_TO_PARENT"
  | minorityInterest => "MINORITY_INTEREST"
  | preferredEquity => "PREFERRED_EQUITY"
  | operatingCashFlow => "OPERATING_CASH_FLOW"
  | capitalExpenditures => "CAPITAL_EXPENDITURES"
  | investingCashFlow => "INVESTING_CASH_FLOW"
  | financingCashFlow => "FINANCING_CASH_FLOW"
  | cashDividendsPaid => "CASH_DIVIDENDS_PAID"
  | shareRepurchases => "SHARE_REPURCHASES"
  | basicWeightedAverageShares => "BASIC_WEIGHTED_AVERAGE_SHARES"
  | dilutedWeightedAverageShares => "DILUTED_WEIGHTED_AVERAGE_SHARES"
  | periodEndSharesOutstanding => "PERIOD_END_SHARES_OUTSTANDING"

def all : List CanonicalConcept :=
  [revenue, costOfRevenue, grossProfit, operatingIncome, ebitda, pretaxIncome, incomeTaxExpense,
    netIncome, netIncomeAttributableToParent, basicEps, dilutedEps, cashAndCashEquivalents,
    shortTermInvestments, accountsReceivable, inventory, totalCurrentAssets, totalAssets,
    shortTermDebt, longTermDebt, totalDebt, totalCurrentLiabilities, totalLiabilities, totalEquity,
    equityAttributableToParent, minorityInterest, preferredEquity, operatingCashFlow,
    capitalExpenditures, investingCashFlow, financingCashFlow, cashDividendsPaid, shareRepurchases,
    basicWeightedAverageShares, dilutedWeightedAverageShares, periodEndSharesOutstanding]

/-- `CanonicalConcept(code)`; a `ValueError` is `none`. -/
def ofValue? (code : String) : Option CanonicalConcept := all.find? (·.value = code)

end CanonicalConcept

/-- The part of a concept's definition that derivations read. -/
structure CanonicalConceptDefinition where
  code : CanonicalConcept
  factNature : FactNature
  supportsDuration : Bool
  supportsCumulative : Bool
  supportsTtm : Bool
deriving DecidableEq, Repr

def durationAmount (code : CanonicalConcept) : CanonicalConceptDefinition :=
  ⟨code, .duration, true, true, true⟩

def instantAmount (code : CanonicalConcept) : CanonicalConceptDefinition :=
  ⟨code, .instant, false, false, false⟩

/-- `_per_share` -/
def perShareConcept (code : CanonicalConcept) : CanonicalConceptDefinition :=
  ⟨code, .perShare, true, false, false⟩

/-- `_shares` -/
def sharesConcept (code : CanonicalConcept) (instant : Bool) : CanonicalConceptDefinition :=
  ⟨code, .shares, !instant, false, false⟩

def getConcept (code : CanonicalConcept) : CanonicalConceptDefinition :=
  match code with
  | .revenue | .costOfRevenue | .grossProfit | .operatingIncome | .ebitda | .pretaxIncome
  | .incomeTaxExpense | .netIncome | .netIncomeAttributableToParent => durationAmount code
  | .basicEps | .dilutedEps => perShareConcept code
  | .cashAndCashEquivalents | .shortTermInvestments | .accountsReceivable | .inventory
  | .totalCurrentAssets | .totalAssets | .shortTermDebt | .longTermDebt | .totalDebt
  | .totalCurrentLiabilities | .totalLiabilities | .totalEquity | .equityAttributableToParent
  | .minorityInterest | .preferredEquity => instantAmount code
  | .operatingCashFlow | .capitalExpenditures | .investingCashFlow | .financingCashFlow
  | .cashDividendsPaid | .shareRepurchases => durationAmount code
  | .basicWeightedAverageShares | .dilutedWeightedAverageShares => sharesConcept code false
  | .periodEndSharesOutstanding => sharesConcept code true

/-! ## Periods -/

inductive PeriodType where
  | annual | quarter | halfYear | nineMonthYtd | yearToDate | ttm | instant
deriving DecidableEq, Repr

structure FinancialPeriod where
  fiscalYear : Int
  fiscalQuarter : Option Int
  fiscalPeriod : String
  periodType : PeriodType
  factNature : FactNature
  periodStart : Option Date
  periodEnd : Date
  filingDate : Option Date
  publishedAt : Option Instant
  durationDays : Option Int
  isAnnual : Bool
  isCumulative : Bool
  isSingleQuarter : Bool
  isTtm : Bool
  accountingStandard : String
  sourceFormType : String
deriving DecidableEq

/-- `date.toordinal()` -/
def toOrdinal (d : Date) : Nat := Date.ordinal d.year d.month d.day

/-- The arguments of `FinancialPeriod.create`. -/
structure PeriodSource where
  fiscalYear : Option Int
  fiscalQuarter : Option Int
  fiscalPeriod : String
  periodType : PeriodType
  factNature : FactNature
  periodStart : Option Date
  periodEnd : Date
  filingDate : Option Date
  publishedAt : Option Instant
  isCumulative : Bool
  isSingleQuarter : Bool
  accountingStandard : String
  sourceFormType : String

def PeriodSource.durationDays (s : PeriodSource) : Except String (Option Int) :=
  if s.periodType = .instant then do
    Checked.check (s.factNature ≠ .instant) "instant period requires instant fact nature"
    Checked.check (s.periodStart ≠ none ∨ s.isCumulative ∨ s.isSingleQuarter)
      "instant periods cannot have a start, duration, cumulative or quarter flag"
    return none
  else do
    Checked.check (s.factNature = .instant) "duration period cannot contain an instant fact"
    let start ← Checked.require s.periodStart "duration period requires period_start"
    Checked.check (s.periodEnd < start) "period_end cannot precede period_start"
    return some ((toOrdinal s.periodEnd : Int) - toOrdinal start + 1)

def FinancialPeriod.create (s : PeriodSource) : Except String FinancialPeriod := do
  let fiscalYear ← Checked.require s.fiscalYear
    "fiscal_year must come from source fiscal identity"
  Checked.check (¬ (1900 ≤ fiscalYear ∧ fiscalYear ≤ 9999))
    "fiscal_year is outside the supported range"
  Checked.check (∃ q ∈ s.fiscalQuarter, ¬ (1 ≤ q ∧ q ≤ 4))
    "fiscal_quarter must be between 1 and 4"
  Checked.check (s.fiscalPeriod = "" ∨ s.accountingStandard = "" ∨ s.sourceFormType = "")
    "period source vocabulary must not be empty"
  let durationDays ← s.durationDays
  return {
    fiscalYear
    fiscalQuarter := s.fiscalQuarter
    fiscalPeriod := s.fiscalPeriod
    periodType := s.periodType
    factNature := s.factNature
    periodStart := s.periodStart
    periodEnd := s.periodEnd
    filingDate := s.filingDate
    publishedAt := s.publishedAt
    durationDays
    isAnnual := s.periodType = .annual
    isCumulative := s.isCumulative
    isSingleQuarter := s.isSingleQuarter
    isTtm := s.periodType = .ttm
    accountingStandard := s.accountingStandard
    sourceFormType := s.sourceFormType }

structure PeriodComparability where
  comparable : Bool
  warnings : List String
deriving DecidableEq

/-- What the two lengths say. -/
def compareDurations (current comparison : Option Int) : PeriodComparability :=
  match current, comparison with
  | some m, some n =>
      let difference := (m - n).natAbs
      let long := if 370 ≤ m ∨ 370 ≤ n then ["FIFTY_THREE_WEEK_PERIOD"] else []
      if difference = 0 then ⟨true, long⟩
      else if 7 < difference then ⟨false, "PERIOD_LENGTH_NOT_COMPARABLE" :: long⟩
      else ⟨true, s!"PERIOD_LENGTH_DIFFERS_BY_{difference}_DAYS" :: long⟩
  | none, none => ⟨true, []⟩
  | _, _ => ⟨false, ["DURATION_SHAPE_MISMATCH"]⟩

/-- `assess_period_comparability`, with the tolerance that it has by default. -/
def assessPeriodComparability (current comparison : FinancialPeriod) : PeriodComparability :=
  let nature := if current.factNature ≠ comparison.factNature then ["FACT_NATURE_MISMATCH"] else []
  let type := if current.periodType ≠ comparison.periodType then ["PERIOD_TYPE_MISMATCH"] else []
  let standard := if current.accountingStandard ≠ comparison.accountingStandard then
    ["ACCOUNTING_STANDARD_MISMATCH"] else []
  let durations := compareDurations current.durationDays comparison.durationDays
  ⟨nature.isEmpty && type.isEmpty && standard.isEmpty && durations.comparable,
    nature ++ type ++ standard ++ durations.warnings⟩

end StockResearch.Financials
