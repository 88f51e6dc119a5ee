import StockResearch.Core.DecimalRange
import StockResearch.Financials.Formulas

/-!
# The formulas over an arithmetic

Every implementation in `domain/financials/formulas.py` works in three steps: it reads its roles, asks
whether their units and currencies go together, and computes with their values.  Here the steps are
apart, and the last one is over any `Arithmetic`.

**Two arithmetics.**  Decimals in the default context, which round and may raise a signal, and
rationals, which do neither.

**Signals.**  `executeOver_raises`: no step divides by zero, since every divisor is positive.
-/

namespace StockResearch.Financials

open PyDecimal

/-! ## Arithmetics -/

/-- The numbers that a formula computes with. -/
class Arithmetic (α : Type) where
  constant : Nat → α
  add : α → α → Except Signal α
  sub : α → α → Except Signal α
  mul : α → α → Except Signal α
  div : α → α → Except Signal α
  /-- `a <= b` -/
  le : α → α → Bool
  /-- `a == 0` -/
  isZero : α → Bool

/-- `Decimal`, in the default context. -/
instance : Arithmetic Decimal where
  constant := Decimal.ofNat
  add := Decimal.add defaultContext
  sub := Decimal.sub defaultContext
  mul := Decimal.mul defaultContext
  div := Decimal.div defaultContext
  le a b := a ≤ b
  isZero a := a.coefficient = 0

/-- Exact arithmetic, which refuses to divide by zero. -/
instance : Arithmetic ℚ where
  constant n := n
  add a b := .ok (a + b)
  sub a b := .ok (a - b)
  mul a b := .ok (a * b)
  div a b := if b = 0 then .error .divisionByZero else .ok (a / b)
  le a b := a ≤ b
  isZero a := a = 0

/-- What a computation comes to. -/
inductive Outcome (α : Type) where
  | number (value : α) (warnings : List String)
  | notMeaningful (warning : String)
  | null (warning : String)

section Computation

variable {α : Type} [Arithmetic α]

open Arithmetic

/-- `0 <= a` -/
def nonneg (a : α) : Bool := le (constant 0) a

/-- `a <= 0` -/
def nonpos (a : α) : Bool := le a (constant 0)

/-- `a <= 1` -/
def atMostOne (a : α) : Bool := le a (constant 1)

/-- The outcome for a denominator that is not positive. -/
def denominatorNonPositive : Outcome α := .notMeaningful "DENOMINATOR_NON_POSITIVE"

/-- The computation of `_ratio_formula`. -/
def quotient (negativeWarning : Option String) (numerator denominator : α) :
    Except Signal (Outcome α) := do
  if nonpos denominator then return denominatorNonPositive
  let result ← div numerator denominator
  return .number result (if nonneg result then [] else negativeWarning.toList)

/-- The computation of `_revenue_growth`. -/
def growth (current prior : α) : Except Signal (Outcome α) := do
  if nonpos prior then return denominatorNonPositive
  let difference ← sub current prior
  let result ← div difference prior
  return .number result (if nonneg current then [] else ["NEGATIVE_CURRENT_REVENUE"])

/-- The computation of `_gross_margin`. -/
def margin (revenue cost : α) : Except Signal (Outcome α) := do
  if nonpos revenue then return denominatorNonPositive
  let difference ← sub revenue cost
  let result ← div difference revenue
  return .number result (if nonneg result then [] else ["NEGATIVE_GROSS_MARGIN"])

/-- The computation of `_average_return`. -/
def returnOnAverage (numerator opening closing : α) : Except Signal (Outcome α) := do
  let total ← add opening closing
  let average ← div total (constant 2)
  if nonpos average then return denominatorNonPositive
  let result ← div numerator average
  return .number result []

/-- `equity + debt - cash` -/
def capital (equity debt cash : α) : Except Signal α := do
  let funds ← add equity debt
  sub funds cash

/-- The computation of `_roic`. -/
def returnOnCapital (v : Role → α) : Except Signal (Outcome α) := do
  let unusable : Outcome α := .null "EFFECTIVE_TAX_RATE_UNUSABLE"
  if nonpos (v .pretaxIncome) then return unusable
  let taxRate ← div (v .incomeTaxExpense) (v .pretaxIncome)
  if ¬ nonneg taxRate ∨ ¬ atMostOne taxRate then return unusable
  let openingCapital ← capital (v (.opening .totalEquity)) (v (.opening .totalDebt))
    (v (.opening .cash))
  let closingCapital ← capital (v (.closing .totalEquity)) (v (.closing .totalDebt))
    (v (.closing .cash))
  let total ← add openingCapital closingCapital
  let averageCapital ← div total (constant 2)
  if nonpos averageCapital then return denominatorNonPositive
  let retained ← sub (constant 1) taxRate
  let nopat ← mul (v .operatingIncome) retained
  let result ← div nopat averageCapital
  return .number result []

/-- The computation of `_market_cap`. -/
def capitalization (price shares : α) : Except Signal (Outcome α) := do
  if nonpos price ∨ nonpos shares then
    return .notMeaningful "NON_POSITIVE_PRICE_OR_SHARES"
  let result ← mul price shares
  return .number result []

/-- The computation of `_enterprise_value`. -/
def valueOfFirm (marketCap debt preferred minority cash : α) : Except Signal (Outcome α) := do
  let withDebt ← add marketCap debt
  let withPreferred ← add withDebt preferred
  let withMinority ← add withPreferred minority
  let result ← sub withMinority cash
  return .number result (if nonneg result then [] else ["NEGATIVE_ENTERPRISE_VALUE"])

/-- A number without a warning. -/
def plain (x : Except Signal α) : Except Signal (Outcome α) := x.map (.number · [])

/-- `annual + latest_ytd - prior_ytd` -/
def bridge (annual latestYtd priorYtd : α) : Except Signal α := do
  let total ← add annual latestYtd
  sub total priorYtd

/-- The computation of `_ttm_amount`, over a bridge or over quarters. -/
def trailing (roles : List Role) (v : Role → α) : Except Signal (Outcome α) :=
  match roles with
  | [annual, latest, prior] => plain (bridge (v annual) (v latest) (v prior))
  | _ => plain ((roles.map v).foldlM add (constant 0))

/-- What a metric computes from the values of its roles. -/
def calculation (code : MetricCode) (roles : List Role) (v : Role → α) :
    Except Signal (Outcome α) :=
  match code with
  | .revenueGrowth => growth (v .currentRevenue) (v .priorRevenue)
  | .grossMargin => margin (v .revenue) (v .costOfRevenue)
  | .operatingMargin =>
      quotient (some "NEGATIVE_OPERATING_MARGIN") (v .operatingIncome) (v .revenue)
  | .netMarginParent => quotient (some "NEGATIVE_NET_MARGIN") (v .netIncomeParent) (v .revenue)
  | .roeParent => returnOnAverage (v .netIncomeParent) (v (.opening .equityParent))
      (v (.closing .equityParent))
  | .roaTotal => returnOnAverage (v .netIncomeTotal) (v (.opening .totalAssets))
      (v (.closing .totalAssets))
  | .roic => returnOnCapital v
  | .operatingCashFlow => plain (.ok (v .reportedOcf))
  | .freeCashFlow => plain (sub (v .operatingCashFlow) (v .capitalExpenditures))
  | .liabilitiesToAssets => quotient none (v .totalLiabilities) (v .totalAssets)
  | .netDebt => plain (sub (v .totalDebt) (v .cash))
  | .basicEps => plain (.ok (v .reportedBasicEps))
  | .dilutedEps => plain (.ok (v .reportedDilutedEps))
  | .marketCap => capitalization (v .price) (v .actualSharesOutstanding)
  | .peTtmDiluted => quotient none (v .marketCap) (v .netIncomeParentTtm)
  | .pbParent => quotient none (v .marketCap) (v .equityParent)
  | .psTtm => quotient none (v .marketCap) (v .revenueTtm)
  | .enterpriseValue => valueOfFirm (v .marketCap) (v .totalDebt) (v .preferredEquity)
      (v .minorityInterest) (v .cash)
  | .evToEbitdaTtm =>
      quotient (some "NEGATIVE_ENTERPRISE_VALUE") (v .enterpriseValue) (v .ebitdaTtm)
  | .fcfYieldTtm => quotient none (v .freeCashFlowTtm) (v .marketCap)
  | .revenueTtm | .netIncomeParentTtm | .ebitdaTtm => trailing roles v

end Computation

/-! ## Signals -/

section Signals

variable {α : Type} {P : Signal → Prop}

open Checked

lemma raises_plain {x : Except Signal α} (hx : Raises P x) : Raises P (plain x) := raises_map hx

variable [Arithmetic α]

open Arithmetic

/-- An arithmetic that raises only signals of a kind, as long as no divisor is zero. -/
structure Guarded (α : Type) [Arithmetic α] (P : Signal → Prop) : Prop where
  add : ∀ a b : α, Raises P (add a b)
  sub : ∀ a b : α, Raises P (sub a b)
  mul : ∀ a b : α, Raises P (mul a b)
  div : ∀ a b : α, nonpos b ≠ true → Raises P (div a b)
  two : nonpos (constant 2 : α) ≠ true

variable (h : Guarded α P)

include h

lemma quotient_raises {warning : Option String} {a b : α} : Raises P (quotient warning a b) :=
  raises_ite (fun _ => raises_ok _) fun hb => raises_bind (h.div a b hb) fun _ => raises_ok _

lemma growth_raises {a b : α} : Raises P (growth a b) := by
  refine raises_ite (fun _ => raises_ok _) fun hb => raises_bind (h.sub a b) fun difference => ?_
  exact raises_bind (h.div difference b hb) fun _ => raises_ok _

lemma margin_raises {a b : α} : Raises P (margin a b) := by
  refine raises_ite (fun _ => raises_ok _) fun ha => raises_bind (h.sub a b) fun difference => ?_
  exact raises_bind (h.div difference a ha) fun _ => raises_ok _

lemma returnOnAverage_raises {a b c : α} : Raises P (returnOnAverage a b c) := by
  refine raises_bind (h.add b c) fun total => ?_
  refine raises_bind (h.div total _ h.two) fun average => ?_
  refine raises_ite (fun _ => raises_ok _) fun haverage => ?_
  exact raises_bind (h.div a average haverage) fun _ => raises_ok _

lemma capital_raises {a b c : α} : Raises P (capital a b c) :=
  raises_bind (h.add a b) fun funds => h.sub funds c

lemma returnOnCapital_raises {v : Role → α} : Raises P (returnOnCapital v) := by
  refine raises_ite (fun _ => raises_ok _) fun hpretax => ?_
  refine raises_bind (h.div _ _ hpretax) fun taxRate => ?_
  refine raises_ite (fun _ => raises_ok _) fun _ => ?_
  refine raises_bind (capital_raises h) fun openingCapital => ?_
  refine raises_bind (capital_raises h) fun closingCapital => ?_
  refine raises_bind (h.add openingCapital closingCapital) fun total => ?_
  refine raises_bind (h.div total _ h.two) fun average => ?_
  refine raises_ite (fun _ => raises_ok _) fun haverage => ?_
  refine raises_bind (h.sub _ taxRate) fun retained => ?_
  refine raises_bind (h.mul _ retained) fun nopat => ?_
  exact raises_bind (h.div nopat average haverage) fun _ => raises_ok _

lemma capitalization_raises {a b : α} : Raises P (capitalization a b) :=
  raises_ite (fun _ => raises_ok _) fun _ => raises_bind (h.mul a b) fun _ => raises_ok _

lemma valueOfFirm_raises {a b c d e : α} : Raises P (valueOfFirm a b c d e) := by
  refine raises_bind (h.add a b) fun withDebt => ?_
  refine raises_bind (h.add withDebt c) fun withPreferred => ?_
  refine raises_bind (h.add withPreferred d) fun withMinority => ?_
  exact raises_bind (h.sub withMinority e) fun _ => raises_ok _

lemma foldlM_raises {xs : List α} {a : α} : Raises P (xs.foldlM add a) := by
  induction xs generalizing a with
  | nil => exact raises_ok a
  | cons x xs ih =>
      rw [List.foldlM_cons]
      exact raises_bind (h.add a x) fun _ => ih

lemma trailing_raises {roles : List Role} {v : Role → α} : Raises P (trailing roles v) := by
  unfold trailing
  split
  · exact raises_plain (raises_bind (h.add _ _) fun total => h.sub total _)
  · exact raises_plain (foldlM_raises h)

/-- **No metric divides by zero**: every divisor is positive. -/
theorem calculation_raises {code : MetricCode} {roles : List Role} {v : Role → α} :
    Raises P (calculation code roles v) := by
  cases code with
  | revenueGrowth => exact growth_raises h
  | grossMargin => exact margin_raises h
  | roeParent | roaTotal => exact returnOnAverage_raises h
  | roic => exact returnOnCapital_raises h
  | operatingCashFlow | basicEps | dilutedEps => exact raises_plain (raises_ok _)
  | freeCashFlow | netDebt => exact raises_plain (h.sub _ _)
  | marketCap => exact capitalization_raises h
  | enterpriseValue => exact valueOfFirm_raises h
  | revenueTtm | netIncomeParentTtm | ebitdaTtm => exact trailing_raises h
  | operatingMargin | netMarginParent | liabilitiesToAssets | peTtmDiluted | pbParent | psTtm
  | evToEbitdaTtm | fcfYieldTtm => exact quotient_raises h

end Signals

/-! ## Inputs -/

/-- What the number of an input counts. -/
structure Measure where
  unit : String
  currencyCode : Option String
deriving DecidableEq

/-- A formula input, over any numbers. -/
structure Input (α : Type) extends Measure where
  value : Option α

abbrev Inputs (α : Type) := List (Role × Input α)

/-- What the inputs of a metric have in common, and what its unit is. -/
inductive Denomination where
  | ratio | amount | perShare | capitalization
deriving DecidableEq

def denomination : MetricCode → Denomination
  | .operatingCashFlow | .freeCashFlow | .netDebt | .enterpriseValue | .revenueTtm
  | .netIncomeParentTtm | .ebitdaTtm => .amount
  | .basicEps | .dilutedEps => .perShare
  | .marketCap => .capitalization
  | _ => .ratio

/-- `_same_amount_basis` -/
def commonBasis : List Measure → Except FormulaError (String × String)
  | [] => .error (.formulaBlocked "INCOMPATIBLE_CURRENCY")
  | first :: rest => do
      let currency ← Checked.require first.currencyCode (.formulaBlocked "INCOMPATIBLE_CURRENCY")
      Checked.check (∃ measure ∈ rest, measure.currencyCode ≠ some currency)
        (.formulaBlocked "INCOMPATIBLE_CURRENCY")
      Checked.check (∃ measure ∈ rest, measure.unit ≠ first.unit)
        (.formulaBlocked "INCOMPATIBLE_UNIT")
      return (currency, first.unit)

/-- The measure of a number, from those of the inputs. -/
def basis : Denomination → List Measure → Except FormulaError Measure
  | .ratio, measures => do
      let _ ← commonBasis measures
      return ⟨"RATIO", none⟩
  | .amount, measures => do
      let (currency, unit) ← commonBasis measures
      return ⟨unit, some currency⟩
  | .perShare, [value] => do
      Checked.check (value.unit ≠ "PER_SHARE" ∨ value.currencyCode = none)
        (.formulaBlocked "INCOMPATIBLE_UNIT")
      return ⟨"PER_SHARE", value.currencyCode⟩
  | .capitalization, [price, shares] => do
      Checked.check (price.unit ≠ "PER_SHARE" ∨ shares.unit ≠ "SHARES")
        (.formulaBlocked "INCOMPATIBLE_UNIT")
      Checked.check (price.currencyCode = none ∨ shares.currencyCode ≠ none)
        (.formulaBlocked "INCOMPATIBLE_CURRENCY")
      return ⟨"ONE", price.currencyCode⟩
  | _, _ => .error (.formulaBlocked "INCOMPATIBLE_UNIT")

section Inputs

variable {α : Type}

/-- The measure of an input that has a value. -/
def presentInput (inputs : Inputs α) (role : Role) : Except FormulaError Measure :=
  match inputs.lookup role with
  | some ⟨measure, some _⟩ => .ok measure
  | _ => .error (.formulaBlocked s!"SOURCE_MISSING:{role.text}")

variable [Arithmetic α]

/-- The value of a role. -/
def valueOf (inputs : Inputs α) (role : Role) : α :=
  ((inputs.lookup role).bind Input.value).getD (Arithmetic.constant 0)

/-- The roles that a metric reads. -/
def rolesOf (code : MetricCode) (inputs : Inputs α) : Except FormulaError (List Role) :=
  match code with
  | .liabilitiesToAssets => do
      Checked.check
        (∃ value ∈ (inputs.lookup Role.totalLiabilities).bind Input.value, nonneg value = false)
        (.formulaBlocked "NEGATIVE_LIABILITIES_REJECTED")
      return (getFormula code).requiredInputs
  | .revenueTtm | .netIncomeParentTtm | .ebitdaTtm =>
      if ∀ role ∈ quarterRoles, (inputs.lookup role).isSome then return quarterRoles
      else if ∀ role ∈ bridgeRoles, (inputs.lookup role).isSome then return bridgeRoles
      else .error (.formulaBlocked "SOURCE_MISSING:TTM_COMPARABLE_INPUT_SET")
  | _ => return (getFormula code).requiredInputs

end Inputs

/-! ## Results -/

/-- The result of a formula, over any numbers. -/
structure Result (α : Type) extends Measure where
  value : Option α
  valueState : MetricValueState
  qualityStatus : QualityStatus
  warnings : List String
  consumedInputs : List Role

/-- `_non_numeric` -/
def withoutNumber {α : Type} (code : MetricCode) (state : MetricValueState) (warning : String)
    (roles : List Role) : Result α where
  value := none
  valueState := state
  unit := outputUnit code
  currencyCode := none
  qualityStatus := if state = .null then .blocked else .pass
  warnings := [warning]
  consumedInputs := roles

section Results

variable {α : Type} [Arithmetic α]

/-- `_numeric` and `_non_numeric`, from an outcome. -/
def resultOf (code : MetricCode) (roles : List Role) (measure : Measure) : Outcome α → Result α
  | .number value warnings =>
      { measure with
        value := some value
        valueState := if Arithmetic.isZero value then .zero else .value
        qualityStatus := if warnings = [] then .pass else .partly
        warnings := warnings
        consumedInputs := roles }
  | .notMeaningful warning => withoutNumber code .notMeaningful warning roles
  | .null warning => withoutNumber code .null warning roles

/-- Read roles, compare their units and currencies, and compute. -/
def evaluate (code : MetricCode) (denomination : Denomination) (roles : List Role)
    (computation : (Role → α) → Except Signal (Outcome α)) (inputs : Inputs α) :
    Except FormulaError (Result α) := do
  let present ← roles.mapM (presentInput inputs)
  let measure ← basis denomination present
  let outcome ← compute (computation (valueOf inputs))
  return resultOf code roles measure outcome

/-- The steps of a formula. -/
def executeOver (code : MetricCode) (inputs : Inputs α) : Except Signal (Result α) :=
  match rolesOf code inputs >>= fun roles =>
    evaluate code (denomination code) roles (calculation code roles) inputs with
  | .ok result => .ok result
  | .error (.formulaBlocked warning) => .ok (withoutNumber code .null warning [])
  | .error (.signal s) => .error s

end Results

/-! ### What a formula raises -/

section Raised

variable {α : Type} {P : Signal → Prop}

open Checked

/-- A signal of a kind, or a formula that is blocked. -/
def Admits (P : Signal → Prop) (e : FormulaError) : Prop := ∀ s, e = .signal s → P s

lemma admits_formulaBlocked {warning : String} : Admits P (.formulaBlocked warning) := by
  rintro s ⟨⟩

lemma presentInput_raises {inputs : Inputs α} {role : Role} :
    Raises (Admits P) (presentInput inputs role) := by
  unfold presentInput
  split
  · exact raises_ok _
  · exact raises_error admits_formulaBlocked

lemma commonBasis_raises {measures : List Measure} : Raises (Admits P) (commonBasis measures) := by
  cases measures with
  | nil => exact raises_error admits_formulaBlocked
  | cons first rest =>
      refine raises_bind (raises_require admits_formulaBlocked) fun currency => ?_
      refine raises_bind (raises_check admits_formulaBlocked) fun _ => ?_
      exact raises_bind (raises_check admits_formulaBlocked) fun _ => raises_ok _

lemma basis_raises {kind : Denomination} {measures : List Measure} :
    Raises (Admits P) (basis kind measures) := by
  unfold basis
  split
  · exact raises_bind commonBasis_raises fun _ => raises_ok _
  · exact raises_bind commonBasis_raises fun _ => raises_ok _
  · exact raises_bind (raises_check admits_formulaBlocked) fun _ => raises_ok _
  · refine raises_bind (raises_check admits_formulaBlocked) fun _ => ?_
    exact raises_bind (raises_check admits_formulaBlocked) fun _ => raises_ok _
  · exact raises_error admits_formulaBlocked

lemma compute_raises {β : Type} {x : Except Signal β} (hx : Raises P x) :
    Raises (Admits P) (compute x) := by
  rintro e h s rfl
  cases x with
  | error raised =>
      cases h
      exact hx _ rfl
  | ok value => cases h

variable [Arithmetic α]

lemma rolesOf_raises {code : MetricCode} {inputs : Inputs α} :
    Raises (Admits P) (rolesOf code inputs) := by
  unfold rolesOf
  split
  · exact raises_bind (raises_check admits_formulaBlocked) fun _ => raises_ok _
  case h_5 => exact raises_ok _
  all_goals
    refine raises_ite (fun _ => raises_ok _) fun _ => ?_
    exact raises_ite (fun _ => raises_ok _) fun _ => raises_error admits_formulaBlocked

/-- A formula raises what its arithmetic raises on a division by something positive. -/
lemma executeOver_raises (h : Guarded α P) {code : MetricCode} {inputs : Inputs α} :
    Raises P (executeOver code inputs) := by
  have hsteps : Raises (Admits P) (rolesOf code inputs >>= fun roles =>
      evaluate code (denomination code) roles (calculation code roles) inputs) := by
    refine raises_bind rolesOf_raises fun roles => ?_
    refine raises_bind (raises_mapM fun _ => presentInput_raises) fun present => ?_
    refine raises_bind basis_raises fun measure => ?_
    exact raises_bind (compute_raises (calculation_raises h)) fun _ => raises_ok _
  intro s hs
  rw [executeOver] at hs
  split at hs
  case h_1 => cases hs
  case h_2 => cases hs
  case h_3 raised hraised =>
    cases hs
    exact hsteps _ hraised _ rfl

end Raised

end StockResearch.Financials
