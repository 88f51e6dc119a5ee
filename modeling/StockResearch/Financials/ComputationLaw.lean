import StockResearch.Core.Dict
import StockResearch.Financials.Computation

/-!
# The implementations and the steps

One lemma for each implementation in `domain/financials/formulas.py`: it reads, compares and computes
as the steps of `executeOver` do.

**`executeFormula_eq`**: over decimals the steps are `execute_formula`.  So what is proved of the
steps over rationals is about the same guards, roles and texts.
-/

namespace StockResearch.Financials

open PyDecimal

/-! ## Inputs -/

def FormulaInput.over (input : FormulaInput) : Input Decimal :=
  ⟨⟨input.unit, input.currencyCode⟩, input.value⟩

def FormulaInputs.over (inputs : FormulaInputs) : Inputs Decimal :=
  inputs.map fun item => (item.1, item.2.over)

def RequiredInput.measure (input : RequiredInput) : Measure :=
  ⟨input.unit, input.currencyCode⟩

def Result.metric (code : MetricCode) (result : Result Decimal) : MetricResult where
  metricCode := code
  value := result.value
  valueState := result.valueState
  unit := result.unit
  currencyCode := result.currencyCode
  qualityStatus := result.qualityStatus
  formulaVersion := (getFormula code).formulaVersion
  warnings := result.warnings
  consumedInputs := result.consumedInputs

variable {inputs : FormulaInputs} {code : MetricCode} {role : Role}

lemma lookup_over : inputs.over.lookup role = (inputs.lookup role).map FormulaInput.over :=
  Dict.lookup_map (f := fun _ => FormulaInput.over)

lemma presentInput_over :
    presentInput inputs.over role = (requiredInput inputs role).map RequiredInput.measure := by
  rw [presentInput, requiredInput, lookup_over]
  rcases inputs.lookup role with _ | ⟨_ | value, unit, currencyCode⟩ <;> rfl

lemma valueOf_over {input : RequiredInput} (h : requiredInput inputs role = .ok input) :
    valueOf inputs.over role = input.value := by
  rw [requiredInput] at h
  rw [valueOf, lookup_over]
  split at h
  case h_1 value unit currencyCode hlookup =>
      cases h
      rw [hlookup]
      rfl
  case h_2 => cases h

lemma commonBasis_over (first : RequiredInput) (rest : List RequiredInput) :
    commonBasis (first.measure :: rest.map RequiredInput.measure) = sameAmountBasis first rest := by
  have hmember : ∀ {p : Measure → Prop},
      (∃ input ∈ rest.map RequiredInput.measure, p input) ↔ ∃ input ∈ rest, p input.measure := by
    intro p
    simp
  rw [commonBasis, sameAmountBasis]
  refine Checked.bind_congr_ok fun currency _ => ?_
  rw [Checked.check_congr hmember, Checked.check_congr hmember]
  rfl

/-! ## Reading and concluding -/

section Steps

variable {β : Type} {roles : List Role} {measure : Measure}

lemma read_nil {f : List Measure → Except FormulaError β} :
    (([] : List Role).mapM (presentInput inputs.over) >>= f) = f [] := rfl

lemma read_cons {f : List Measure → Except FormulaError β} :
    ((role :: roles).mapM (presentInput inputs.over) >>= f) =
      requiredInput inputs role >>= fun input =>
        roles.mapM (presentInput inputs.over) >>= fun rest => f (input.measure :: rest) := by
  rw [List.mapM_cons, presentInput_over]
  cases requiredInput inputs role with
  | error e => rfl
  | ok input =>
      change (roles.mapM (presentInput inputs.over) >>= fun rest => pure (input.measure :: rest)) >>= f = _
      rw [bind_assoc]
      rfl

/-- The metric of a computation. -/
def conclude (code : MetricCode) (roles : List Role) (measure : Measure)
    (x : Except Signal (Outcome Decimal)) : Except FormulaError MetricResult :=
  (compute x).map fun outcome => (resultOf code roles measure outcome).metric code

lemma conclude_bind {x : Except Signal β} {f : β → Except Signal (Outcome Decimal)} :
    conclude code roles measure (x >>= f) =
      compute x >>= fun a => conclude code roles measure (f a) := by
  cases x <;> rfl

lemma conclude_number {value : Decimal} {warnings : List String} :
    conclude code roles measure (pure (.number value warnings)) =
      pure (numeric code value measure.unit measure.currencyCode roles warnings) := by
  refine congrArg Except.ok ?_
  simp only [numeric, resultOf, Result.metric, Arithmetic.isZero, decide_eq_true_eq]

lemma conclude_notMeaningful {warning : String} :
    conclude code roles measure (pure (.notMeaningful warning)) =
      pure (nonNumeric code .notMeaningful warning roles) := rfl

lemma conclude_null {warning : String} :
    conclude code roles measure (pure (.null warning)) =
      pure (nonNumeric code .null warning roles) := rfl

lemma conclude_ite {p : Prop} [Decidable p] {x y : Except Signal (Outcome Decimal)} :
    conclude code roles measure (if p then x else y) =
      if p then conclude code roles measure x
      else conclude code roles measure y := by
  split_ifs <;> rfl

lemma conclude_plain {x : Except Signal Decimal} :
    conclude code roles measure (plain x) =
      compute x >>= fun value => pure (numeric code value measure.unit measure.currencyCode roles []) := by
  cases x with
  | error s => rfl
  | ok value => exact conclude_number

/-- Evaluation, with its last step as a conclusion. -/
lemma evaluate_metric {kind : Denomination}
    {computation : (Role → Decimal) → Except Signal (Outcome Decimal)} :
    (evaluate code kind roles computation inputs.over).map (Result.metric code) =
      roles.mapM (presentInput inputs.over) >>= fun present => basis kind present >>= fun measure =>
        conclude code roles measure (computation (valueOf inputs.over)) := by
  rw [evaluate]
  cases roles.mapM (presentInput inputs.over) with
  | error e => rfl
  | ok present =>
      rw [Checked.ok_bind, Checked.ok_bind]
      cases basis kind present with
      | error e => rfl
      | ok measure =>
          rw [Checked.ok_bind, Checked.ok_bind, conclude]
          cases computation (valueOf inputs.over) <;> rfl

end Steps

lemma nonpos_iff {a : Decimal} : nonpos a = true ↔ a ≤ 0 := decide_eq_true_iff

lemma nonneg_iff {a : Decimal} : nonneg a = true ↔ 0 ≤ a := decide_eq_true_iff

lemma atMostOne_iff {a : Decimal} : atMostOne a = true ↔ a ≤ 1 := decide_eq_true_iff

/-! ## The implementations -/

lemma basis_ratio {β : Type} (first : RequiredInput) (rest : List RequiredInput)
    {f : Measure → Except FormulaError β} :
    (basis .ratio (first.measure :: rest.map RequiredInput.measure) >>= f) =
      sameAmountBasis first rest >>= fun _ => f ⟨"RATIO", none⟩ := by
  rw [basis, commonBasis_over, bind_assoc]
  rfl

lemma basis_amount {β : Type} (first : RequiredInput) (rest : List RequiredInput)
    {f : Measure → Except FormulaError β} :
    (basis .amount (first.measure :: rest.map RequiredInput.measure) >>= f) =
      sameAmountBasis first rest >>= fun pair => f ⟨pair.2, some pair.1⟩ := by
  rw [basis, commonBasis_over, bind_assoc]
  rfl

lemma ratioFormula_eq {numeratorRole denominatorRole : Role} {negativeWarning : Option String} :
    ratioFormula code numeratorRole denominatorRole negativeWarning inputs =
      (evaluate code .ratio [numeratorRole, denominatorRole]
        (fun v => quotient negativeWarning (v numeratorRole) (v denominatorRole))
        inputs.over).map (Result.metric code) := by
  rw [evaluate_metric, read_cons, ratioFormula]
  refine Checked.bind_congr_ok fun numerator hnumerator => ?_
  rw [read_cons]
  refine Checked.bind_congr_ok fun denominator hdenominator => ?_
  rw [read_nil, valueOf_over hnumerator, valueOf_over hdenominator]
  refine .trans (Checked.bind_congr_ok fun pair _ => ?_) (basis_ratio numerator [denominator]).symm
  simp only [quotient, denominatorNonPositive, conclude_ite, conclude_bind, conclude_number,
    conclude_notMeaningful, nonpos_iff, nonneg_iff]
  rfl

lemma revenueGrowth_eq :
    revenueGrowth inputs =
      (evaluate .revenueGrowth .ratio [.currentRevenue, .priorRevenue]
        (fun v => growth (v .currentRevenue) (v .priorRevenue))
        inputs.over).map (Result.metric .revenueGrowth) := by
  rw [evaluate_metric, read_cons, revenueGrowth]
  refine Checked.bind_congr_ok fun current hcurrent => ?_
  rw [read_cons]
  refine Checked.bind_congr_ok fun prior hprior => ?_
  rw [read_nil, valueOf_over hcurrent, valueOf_over hprior]
  refine .trans (Checked.bind_congr_ok fun pair _ => ?_) (basis_ratio current [prior]).symm
  simp only [growth, denominatorNonPositive, conclude_ite, conclude_bind, conclude_number,
    conclude_notMeaningful, nonpos_iff, nonneg_iff]
  rfl

lemma grossMargin_eq :
    grossMargin inputs =
      (evaluate .grossMargin .ratio [.revenue, .costOfRevenue]
        (fun v => margin (v .revenue) (v .costOfRevenue))
        inputs.over).map (Result.metric .grossMargin) := by
  rw [evaluate_metric, read_cons, grossMargin]
  refine Checked.bind_congr_ok fun revenue hrevenue => ?_
  rw [read_cons]
  refine Checked.bind_congr_ok fun cost hcost => ?_
  rw [read_nil, valueOf_over hrevenue, valueOf_over hcost]
  refine .trans (Checked.bind_congr_ok fun pair _ => ?_) (basis_ratio revenue [cost]).symm
  simp only [margin, denominatorNonPositive, conclude_ite, conclude_bind, conclude_number,
    conclude_notMeaningful, nonpos_iff, nonneg_iff]
  rfl

lemma averageReturn_eq {numeratorRole : Role} {balance : Balance} :
    averageReturn code numeratorRole balance inputs =
      (evaluate code .ratio [numeratorRole, .opening balance, .closing balance]
        (fun v => returnOnAverage (v numeratorRole) (v (.opening balance)) (v (.closing balance)))
        inputs.over).map (Result.metric code) := by
  rw [evaluate_metric, read_cons, averageReturn]
  refine Checked.bind_congr_ok fun numerator hnumerator => ?_
  rw [read_cons]
  refine Checked.bind_congr_ok fun opening hopening => ?_
  rw [read_cons]
  refine Checked.bind_congr_ok fun closing hclosing => ?_
  rw [read_nil, valueOf_over hnumerator, valueOf_over hopening, valueOf_over hclosing]
  refine .trans (Checked.bind_congr_ok fun pair _ => ?_)
    (basis_ratio numerator [opening, closing]).symm
  simp only [returnOnAverage, denominatorNonPositive, conclude_ite, conclude_bind, conclude_number,
    conclude_notMeaningful, nonpos_iff]
  rfl

lemma roic_eq :
    roic inputs =
      (evaluate .roic .ratio (getFormula .roic).requiredInputs returnOnCapital
        inputs.over).map (Result.metric .roic) := by
  have hroles : (getFormula .roic).requiredInputs = [.operatingIncome, .pretaxIncome,
    .incomeTaxExpense, .opening .totalEquity, .closing .totalEquity, .opening .totalDebt,
    .closing .totalDebt, .opening .cash, .closing .cash] := rfl
  rw [evaluate_metric, roic]
  simp only [hroles, read_cons]
  refine Checked.bind_congr_ok fun operatingIncome hoperatingIncome => ?_
  refine Checked.bind_congr_ok fun pretax hpretax => ?_
  refine Checked.bind_congr_ok fun tax htax => ?_
  refine Checked.bind_congr_ok fun openingEquity hopeningEquity => ?_
  refine Checked.bind_congr_ok fun closingEquity hclosingEquity => ?_
  refine Checked.bind_congr_ok fun openingDebt hopeningDebt => ?_
  refine Checked.bind_congr_ok fun closingDebt hclosingDebt => ?_
  refine Checked.bind_congr_ok fun openingCash hopeningCash => ?_
  refine Checked.bind_congr_ok fun closingCash hclosingCash => ?_
  rw [read_nil, returnOnCapital, valueOf_over hoperatingIncome, valueOf_over hpretax,
    valueOf_over htax, valueOf_over hopeningEquity, valueOf_over hclosingEquity,
    valueOf_over hopeningDebt, valueOf_over hclosingDebt, valueOf_over hopeningCash,
    valueOf_over hclosingCash]
  refine .trans (Checked.bind_congr_ok fun pair _ => ?_)
    (basis_ratio operatingIncome [pretax, tax, openingEquity, closingEquity, openingDebt,
      closingDebt, openingCash, closingCash]).symm
  simp only [denominatorNonPositive, conclude_ite, conclude_bind, conclude_number,
    conclude_notMeaningful, conclude_null, nonpos_iff, nonneg_iff, atMostOne_iff]
  rfl

/-- Reading roles in one go. -/
lemma mapM_presentInput {roles : List Role} :
    roles.mapM (presentInput inputs.over) =
      (required inputs roles).map fun values => values.map RequiredInput.measure := by
  induction roles with
  | nil => rfl
  | cons role roles ih =>
      rw [required] at ih ⊢
      rw [List.mapM_cons, List.mapM_cons, presentInput_over, ih]
      cases requiredInput inputs role with
      | error e => rfl
      | ok input =>
          cases roles.mapM (requiredInput inputs) <;> rfl

lemma map_valueOf {roles : List Role} {values : List RequiredInput}
    (h : required inputs roles = .ok values) :
    roles.map (valueOf inputs.over) = values.map RequiredInput.value :=
  Checked.map_eq_of_forall₂ (Checked.forall₂_mapM (fun _ _ hvalue => hvalue) h)
    fun _ _ hvalue => valueOf_over hvalue

lemma signedAmount_eq {roles : List Role} {operation : List Decimal → Except Signal Decimal} :
    signedAmount code roles operation inputs =
      (evaluate code .amount roles (fun v => plain (operation (roles.map v)))
        inputs.over).map (Result.metric code) := by
  rw [evaluate_metric, mapM_presentInput, signedAmount]
  cases h : required inputs roles with
  | error e => rfl
  | ok values =>
      rw [map_valueOf h]
      cases values with
      | nil => rfl
      | cons first rest =>
          refine Eq.trans ?_ (basis_amount first rest).symm
          rw [Checked.ok_bind]
          refine Checked.bind_congr_ok fun pair _ => ?_
          rw [conclude_plain]

lemma reportedEps_eq :
    reportedEps code role inputs =
      (evaluate code .perShare [role] (fun v => plain (.ok (v role)))
        inputs.over).map (Result.metric code) := by
  rw [evaluate_metric, read_cons, reportedEps]
  refine Checked.bind_congr_ok fun value hvalue => ?_
  rw [read_nil, valueOf_over hvalue, basis, bind_assoc]
  refine Checked.bind_congr_ok fun _ _ => ?_
  rw [pure_bind, conclude_plain]
  rfl

lemma marketCap_eq :
    marketCap inputs =
      (evaluate .marketCap .capitalization [.price, .actualSharesOutstanding]
        (fun v => capitalization (v .price) (v .actualSharesOutstanding))
        inputs.over).map (Result.metric .marketCap) := by
  rw [evaluate_metric, read_cons, marketCap]
  refine Checked.bind_congr_ok fun price hprice => ?_
  rw [read_cons]
  refine Checked.bind_congr_ok fun shares hshares => ?_
  rw [read_nil, valueOf_over hprice, valueOf_over hshares, basis]
  simp only [bind_assoc, pure_bind, capitalization, conclude_ite, conclude_bind, conclude_number,
    conclude_notMeaningful, nonpos_iff]
  rfl

lemma enterpriseValue_eq :
    enterpriseValue inputs =
      (evaluate .enterpriseValue .amount (getFormula .enterpriseValue).requiredInputs
        (fun v => valueOfFirm (v .marketCap) (v .totalDebt) (v .preferredEquity)
          (v .minorityInterest) (v .cash))
        inputs.over).map (Result.metric .enterpriseValue) := by
  have hroles : (getFormula .enterpriseValue).requiredInputs =
    [.marketCap, .totalDebt, .preferredEquity, .minorityInterest, .cash] := rfl
  rw [evaluate_metric, enterpriseValue]
  simp only [hroles, read_cons]
  refine Checked.bind_congr_ok fun marketCap hmarketCap => ?_
  refine Checked.bind_congr_ok fun debt hdebt => ?_
  refine Checked.bind_congr_ok fun preferred hpreferred => ?_
  refine Checked.bind_congr_ok fun minority hminority => ?_
  refine Checked.bind_congr_ok fun cash hcash => ?_
  rw [read_nil, valueOf_over hmarketCap, valueOf_over hdebt, valueOf_over hpreferred,
    valueOf_over hminority, valueOf_over hcash]
  refine .trans (Checked.bind_congr_ok fun pair _ => ?_)
    (basis_amount marketCap [debt, preferred, minority, cash]).symm
  simp only [valueOfFirm, conclude_bind, conclude_number, nonneg_iff]
  rfl

/-- A ratio with its warning set afterwards. -/
lemma evToEbitda_eq :
    evToEbitda inputs =
      ratioFormula .evToEbitdaTtm .enterpriseValue .ebitdaTtm (some "NEGATIVE_ENTERPRISE_VALUE")
        inputs := by
  rw [evToEbitda, ratioFormula, ratioFormula]
  simp only [bind_assoc]
  refine Checked.bind_congr_ok fun value _ => ?_
  refine Checked.bind_congr_ok fun ebitda _ => ?_
  refine Checked.bind_congr_ok fun pair _ => ?_
  split
  case isTrue => rfl
  case isFalse =>
    rw [bind_assoc]
    refine Checked.bind_congr_ok fun result _ => ?_
    rw [pure_bind]
    by_cases h : 0 ≤ result
    · simp [numeric, h]
    · simp [numeric, h]

/-! ## The formula -/

/-- What `execute_formula` makes of an implementation. -/
def settle (code : MetricCode) : Except FormulaError MetricResult → Except Signal MetricResult
  | .ok result => .ok result
  | .error (.formulaBlocked warning) => .ok (nonNumeric code .null warning [])
  | .error (.signal s) => .error s

lemma executeFormula_settle : executeFormula code inputs = settle code (implementation code inputs) := by
  rw [executeFormula, metricCode_getFormula]
  rcases implementation code inputs with (_ | _) | _ <;> rfl

lemma executeOver_settle {x : Except FormulaError MetricResult}
    (h : settle code x = settle code ((rolesOf code inputs.over >>= fun roles =>
      evaluate code (denomination code) roles (calculation code roles) inputs.over).map
        (Result.metric code))) :
    settle code x = (executeOver code inputs.over).map (Result.metric code) := by
  rw [h, executeOver]
  generalize (rolesOf code inputs.over >>= fun roles =>
      evaluate code (denomination code) roles (calculation code roles) inputs.over) = y
  rcases y with (_ | _) | _ <;> rfl

lemma ttmAmount_eq (hroles : ∀ (inputs : Inputs Decimal), rolesOf code inputs =
      if ∀ role ∈ quarterRoles, (inputs.lookup role).isSome then .ok quarterRoles
      else if ∀ role ∈ bridgeRoles, (inputs.lookup role).isSome then .ok bridgeRoles
      else .error (.formulaBlocked "SOURCE_MISSING:TTM_COMPARABLE_INPUT_SET"))
    (hcalculation : calculation code = trailing (α := Decimal))
    (hdenomination : denomination code = .amount) :
    ttmAmount code inputs = (rolesOf code inputs.over >>= fun roles =>
      evaluate code (denomination code) roles (calculation code roles) inputs.over).map
        (Result.metric code) := by
  rw [hroles, hcalculation, hdenomination, ttmAmount]
  simp only [lookup_over, Option.isSome_map]
  split_ifs with hquarters hbridge
  · exact signedAmount_eq
  · exact signedAmount_eq
  · rfl

lemma liabilitiesToAssets_eq :
    settle .liabilitiesToAssets (liabilitiesToAssets inputs) =
      settle .liabilitiesToAssets ((rolesOf .liabilitiesToAssets inputs.over >>= fun roles =>
        evaluate .liabilitiesToAssets .ratio roles (calculation .liabilitiesToAssets roles)
          inputs.over).map (Result.metric .liabilitiesToAssets)) := by
  have hvalue : ((inputs.over.lookup Role.totalLiabilities).bind Input.value) =
      (inputs.lookup Role.totalLiabilities).bind FormulaInput.value := by
    rw [lookup_over, Option.bind_map]
    rfl
  rw [liabilitiesToAssets, rolesOf, hvalue]
  split
  case isTrue h =>
    rw [Checked.check, if_pos]
    · rfl
    · obtain ⟨value, hmem, hneg⟩ := h
      exact ⟨value, hmem, by simpa [← nonneg_iff] using hneg⟩
  case isFalse h =>
    rw [Checked.check, if_neg, ratioFormula_eq]
    · rfl
    · rintro ⟨value, hmem, hneg⟩
      exact h ⟨value, hmem, by simpa [← nonneg_iff] using hneg⟩

/-- **`execute_formula` is the steps over decimals.** -/
theorem executeFormula_eq (code : MetricCode) (inputs : FormulaInputs) :
    executeFormula code inputs = (executeOver code inputs.over).map (Result.metric code) := by
  rw [executeFormula_settle]
  refine executeOver_settle ?_
  cases code with
  | revenueGrowth => exact congrArg _ revenueGrowth_eq
  | grossMargin => exact congrArg _ grossMargin_eq
  | roeParent | roaTotal => exact congrArg _ averageReturn_eq
  | roic => exact congrArg _ roic_eq
  | operatingCashFlow | freeCashFlow | netDebt => exact congrArg _ signedAmount_eq
  | liabilitiesToAssets => exact liabilitiesToAssets_eq
  | basicEps | dilutedEps => exact congrArg _ reportedEps_eq
  | marketCap => exact congrArg _ marketCap_eq
  | enterpriseValue => exact congrArg _ enterpriseValue_eq
  | evToEbitdaTtm => exact congrArg _ (evToEbitda_eq.trans ratioFormula_eq)
  | revenueTtm | netIncomeParentTtm | ebitdaTtm =>
      exact congrArg _ (ttmAmount_eq (fun _ => rfl) rfl rfl)
  | operatingMargin | netMarginParent | peTtmDiluted | pbParent | psTtm | fcfYieldTtm =>
      exact congrArg _ ratioFormula_eq

end StockResearch.Financials
