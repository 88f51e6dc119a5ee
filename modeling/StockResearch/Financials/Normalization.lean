import StockResearch.Financials.Derivations

/-!
# Quarters from cumulative facts

The part of `domain/financials/normalization.py` that builds the period of a reported fact and then,
in `_derive_cumulative_quarters`, takes the cumulative facts of a fiscal year apart into quarters.

Cumulative facts are grouped by security, concept, fiscal year, currency and accounting standard, and
scanned in the order of their period ends.  Each is taken apart from the one before it, whatever
became of that one.

The rows that are written for a quarter hold its period, its value and what is copied from the
reported fact, so a `DerivedQuarter` keeps the fact with the two.
-/

namespace StockResearch.Financials

open PyText PyTime PyDecimal

/-- The columns of a reported fact that its period and its quarters are made of. -/
structure RawFinancialFactForNormalization where
  id : Uuid
  securityId : Uuid
  currencyCode : Option String
  fiscalYear : Int
  fiscalQuarter : Option Int
  fiscalPeriod : String
  periodStart : Option Date
  periodEnd : Option Date
  instantDate : Option Date
  filedAt : Option Instant
  sourcePublishedAt : Option Instant
  formType : Option String
  isAnnual : Bool
  isCumulative : Bool
deriving DecidableEq

/-! ## The period of a reported fact -/

/-- `_period_type` -/
def periodTypeOf (unicode : Unicode) (fact : RawFinancialFactForNormalization)
    (factNature : FactNature) : Except String PeriodType :=
  if factNature = .instant then .ok .instant
  else
    let value := String.ofList (unicode.upper fact.fiscalPeriod.toList)
    if value ∈ ["FY", "ANNUAL"] ∨ fact.isAnnual then .ok .annual
    else if value ∈ ["H1", "HY", "HALF_YEAR"] then .ok .halfYear
    else if value ∈ ["9M", "Q3_YTD", "NINE_MONTH_YTD"] then .ok .nineMonthYtd
    else if value ∈ ["YTD", "YEAR_TO_DATE"] then .ok .yearToDate
    else if fact.fiscalQuarter ≠ none ∨ value ∈ ["Q1", "Q2", "Q3", "Q4"] then .ok .quarter
    else .error s!"unsupported fiscal period: {fact.fiscalPeriod}"

def buildPeriod (unicode : Unicode) (fact : RawFinancialFactForNormalization)
    (factNature : FactNature) (accountingStandard : String) : Except String FinancialPeriod := do
  let periodType ← periodTypeOf unicode fact factNature
  let periodEnd ← Checked.require
    (if periodType = .instant then fact.instantDate else fact.periodEnd)
    "period_end or instant_date is required"
  let formType ← Checked.require fact.formType "source form type is required"
  FinancialPeriod.create {
    fiscalYear := some fact.fiscalYear
    fiscalQuarter := fact.fiscalQuarter
    fiscalPeriod := fact.fiscalPeriod
    periodType
    factNature
    periodStart := fact.periodStart
    periodEnd
    filingDate := fact.filedAt.map (·.date)
    publishedAt := fact.sourcePublishedAt
    isCumulative := fact.isCumulative
    isSingleQuarter := periodType = .quarter && !fact.isCumulative
    accountingStandard
    sourceFormType := formType }

/-- `_ReportedNormalization`.  Its period is built from the fact, and units are never empty. -/
structure ReportedNormalization (unicode : Unicode) where
  raw : RawFinancialFactForNormalization
  mapping : ApprovedFactMapping
  period : FinancialPeriod
  normalizedFactId : Uuid
  normalizedValue : Decimal
  normalizedUnit : String
  period_built : buildPeriod unicode raw mapping.factNature
    (String.ofList mapping.accountingStandard) = .ok period
  vocabulary : normalizedUnit ≠ "" ∧ String.ofList mapping.accountingStandard ≠ ""
deriving DecidableEq

section

variable {unicode : Unicode}

/-- The value that stands for a reported fact in a derivation. -/
def ReportedNormalization.financialValue (item : ReportedNormalization unicode)
    (concept : CanonicalConcept) : FinancialValue where
  factId := item.normalizedFactId
  securityId := item.raw.securityId
  concept := concept
  period := item.period
  value := item.normalizedValue
  normalizedUnit := item.normalizedUnit
  currencyCode := item.raw.currencyCode
  accountingBasis := String.ofList item.mapping.accountingStandard
  sourcePublishedAt := item.raw.sourcePublishedAt
  vocabulary := item.vocabulary

/-! ## Quarters -/

/-- A quarter derived from a reported fact. -/
structure DerivedQuarter (unicode : Unicode) where
  source : ReportedNormalization unicode
  derived : DerivedFinancialValue
  period : FinancialPeriod
deriving DecidableEq

/-- What a derivation raises that nobody catches. -/
inductive DeriveError where
  | signal (s : Signal)
  | periodSemanticsError (text : String)
  | overflowError
deriving DecidableEq, Repr

/-- `current.raw.fiscal_quarter or 4` -/
def quarterLabel : Option Int → Int
  | some 0 => 4
  | some quarter => quarter
  | none => 4

/-- The first day of a quarter: that of the fact, or the day after the fact before. -/
def quarterStart (previous : Option (ReportedNormalization unicode))
    (current : ReportedNormalization unicode) : Except DeriveError (Option Date) :=
  match previous with
  | none => .ok current.period.periodStart
  | some previous => (Checked.require previous.period.periodEnd.nextDay .overflowError).map some

/-- The arguments of the period of a quarter. -/
def quarterSource (current : ReportedNormalization unicode) (start : Date) : PeriodSource where
  fiscalYear := some current.raw.fiscalYear
  fiscalQuarter := some (quarterLabel current.raw.fiscalQuarter)
  fiscalPeriod := "Q" ++ toString (quarterLabel current.raw.fiscalQuarter)
  periodType := .quarter
  factNature := .duration
  periodStart := some start
  periodEnd := current.period.periodEnd
  filingDate := current.period.filingDate
  publishedAt := current.period.publishedAt
  isCumulative := false
  isSingleQuarter := true
  accountingStandard := String.ofList current.mapping.accountingStandard
  sourceFormType := current.period.sourceFormType

/-- One round of the scan: a warning, or a quarter. -/
def deriveQuarter (concept : CanonicalConcept) (researchAsOfTime : Instant)
    (previous : Option (ReportedNormalization unicode)) (current : ReportedNormalization unicode) :
    Except DeriveError (String ⊕ DerivedQuarter unicode) :=
  match deaccumulateQuarter (current.financialValue concept)
      (previous.map (·.financialValue concept)) researchAsOfTime with
  | .error (.calculationBlocked text) =>
      .ok (.inl s!"DEACCUMULATION_BLOCKED:{concept.value}:{current.raw.fiscalYear}:{text}")
  | .error (.signal s) => .error (.signal s)
  | .ok derived => do
      match ← quarterStart previous current with
      | none => return .inl s!"DEACCUMULATION_BLOCKED:{current.raw.id.str}:MISSING_START"
      | some start =>
          let period ← (FinancialPeriod.create (quarterSource current start)).mapError
            .periodSemanticsError
          return .inr ⟨current, derived, period⟩

/-- The scan of a group, with the fact before. -/
def deriveScan (concept : CanonicalConcept) (researchAsOfTime : Instant) :
    Option (ReportedNormalization unicode) → List (ReportedNormalization unicode) →
      Except DeriveError (List (String ⊕ DerivedQuarter unicode))
  | _, [] => .ok []
  | previous, current :: rest => do
      let outcome ← deriveQuarter concept researchAsOfTime previous current
      let outcomes ← deriveScan concept researchAsOfTime (some current) rest
      return outcome :: outcomes

/-- `sorted(items, key=lambda item: item.period.period_end)` -/
def byPeriodEnd (items : List (ReportedNormalization unicode)) :
    List (ReportedNormalization unicode) :=
  items.insertionSort fun a b => a.period.periodEnd ≤ b.period.periodEnd

/-! ## Groups -/

structure GroupKey where
  securityId : Uuid
  concept : CanonicalConcept
  fiscalYear : Int
  currencyCode : Option String
  accountingStandard : Text
deriving DecidableEq

/-- The group of a reported fact, if it is cumulative and its concept is known. -/
def groupKey (item : ReportedNormalization unicode) : Option GroupKey :=
  if item.mapping.factNature ≠ .duration ∨ item.raw.isCumulative = false then none
  else
    (CanonicalConcept.ofValue? (String.ofList item.mapping.canonicalConceptCode)).map fun concept =>
      ⟨item.raw.securityId, concept, item.raw.fiscalYear, item.raw.currencyCode,
        item.mapping.accountingStandard⟩

/-- The keys of the groups, in the order in which they are met. -/
def groupKeys (reported : List (ReportedNormalization unicode)) : List GroupKey :=
  (reported.filterMap groupKey).eraseDups

/-- The facts of a group, in the order in which they are listed. -/
def group (reported : List (ReportedNormalization unicode)) (key : GroupKey) :
    List (ReportedNormalization unicode) :=
  reported.filter (groupKey · = some key)

/-- `_derive_cumulative_quarters`: what each round of each scan comes to. -/
def deriveCumulativeQuarters (reported : List (ReportedNormalization unicode))
    (researchAsOfTime : Instant) : Except DeriveError (List (String ⊕ DerivedQuarter unicode)) := do
  let outcomes ← (groupKeys reported).mapM fun key =>
    deriveScan key.concept researchAsOfTime none (byPeriodEnd (group reported key))
  return outcomes.flatten

/-- The quarters among the outcomes. -/
def quartersOf (outcomes : List (String ⊕ DerivedQuarter unicode)) : List (DerivedQuarter unicode) :=
  outcomes.filterMap Sum.getRight?

/-- The warnings among the outcomes. -/
def warningsOf (outcomes : List (String ⊕ DerivedQuarter unicode)) : List String :=
  outcomes.flatMap fun
    | .inl warning => [warning]
    | .inr quarter => quarter.derived.warnings

end

end StockResearch.Financials
