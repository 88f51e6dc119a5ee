import StockResearch.Financials.ComputationLaw
import Mathlib.Algebra.BigOperators.Ring.List

/-!
# Metrics and the scale of money

In another currency, or in thousands, every amount of money is `k` times as large and the number of
shares is the same.  Then a ratio should stay as it is and an amount should become `k` times as large,
and neither the state of a metric nor its warnings should change.

**One computation at a time.**  The lemmas `quotient_scale` to `trailing_scale` say how a computation
goes along with its values: the guards compare with zero, or compare a ratio.

**`formula_scale`**: the law, for every metric and every mapping of inputs, in exact arithmetic.
-/

namespace StockResearch.Financials

open PyDecimal Arithmetic

/-! ## Scaling -/

/-- The inputs that are in a currency: all but the number of shares. -/
def Role.isMonetary : Role → Bool
  | actualSharesOutstanding => false
  | _ => true

/-- What a role is multiplied by. -/
def Role.scale (k : ℚ) (role : Role) : ℚ := if role.isMonetary then k else 1

/-- The input of a role, multiplied by `k` if it is an amount of money. -/
def Role.scaleInput (k : ℚ) (role : Role) (input : Input ℚ) : Input ℚ :=
  { input with value := input.value.map (role.scale k * ·) }

/-- Every amount of money, multiplied by `k`. -/
def scaleInputs (k : ℚ) (inputs : Inputs ℚ) : Inputs ℚ :=
  inputs.map fun item => (item.1, item.1.scaleInput k item.2)

/-- What a metric is multiplied by. -/
def scaleOf (k : ℚ) (code : MetricCode) : ℚ := if outputUnit code = "RATIO" then 1 else k

def Outcome.scale (f : ℚ) : Outcome ℚ → Outcome ℚ
  | .number value warnings => .number (f * value) warnings
  | .notMeaningful warning => .notMeaningful warning
  | .null warning => .null warning

def Result.scale (f : ℚ) (result : Result ℚ) : Result ℚ :=
  { result with value := result.value.map (f * ·) }

/-! ## Exact arithmetic -/

@[simp] lemma add_rat (a b : ℚ) : add a b = .ok (a + b) := rfl

@[simp] lemma sub_rat (a b : ℚ) : sub a b = .ok (a - b) := rfl

@[simp] lemma mul_rat (a b : ℚ) : mul a b = .ok (a * b) := rfl

@[simp] lemma constant_rat (n : Nat) : (constant n : ℚ) = n := rfl

lemma div_rat {a b : ℚ} (hb : b ≠ 0) : div a b = .ok (a / b) := if_neg hb

@[simp] lemma nonpos_rat (a : ℚ) : nonpos a = decide (a ≤ 0) := rfl

@[simp] lemma nonneg_rat (a : ℚ) : nonneg a = decide (0 ≤ a) := rfl

@[simp] lemma isZero_rat (a : ℚ) : isZero a = decide (a = 0) := rfl

section Scale

variable {k : ℚ} (hk : 0 < k)

include hk

lemma nonpos_scale (a : ℚ) : nonpos (k * a) = nonpos a := by
  rw [nonpos_rat, nonpos_rat, decide_eq_decide, ← not_lt, ← not_lt, mul_pos_iff_of_pos_left hk]

lemma nonneg_scale (a : ℚ) : nonneg (k * a) = nonneg a := by
  simp [hk]

lemma isZero_scale (a : ℚ) : isZero (k * a) = isZero a := by
  simp [hk.ne']

lemma div_scale (a b : ℚ) : div (k * a) (k * b) = div a b := by
  by_cases hb : b = 0
  · simp [Arithmetic.div, hb]
  · rw [div_rat hb, div_rat (mul_ne_zero hk.ne' hb), mul_div_mul_left a b hk.ne']

/-! ## Computations -/

lemma quotient_scale (warning : Option String) (a b : ℚ) :
    quotient warning (k * a) (k * b) = quotient warning a b := by
  simp only [quotient, nonpos_scale hk, div_scale hk]

lemma growth_scale (a b : ℚ) : growth (k * a) (k * b) = growth a b := by
  simp only [growth, nonpos_scale hk, nonneg_scale hk, sub_rat, Checked.ok_bind, ← mul_sub,
    div_scale hk]

lemma margin_scale (a b : ℚ) : margin (k * a) (k * b) = margin a b := by
  simp only [margin, nonpos_scale hk, sub_rat, Checked.ok_bind, ← mul_sub, div_scale hk]

omit hk in
lemma half_scale (a : ℚ) : div (k * a) (constant 2) = .ok (k * (a / 2)) := by
  rw [constant_rat, Nat.cast_ofNat, div_rat two_ne_zero, mul_div_assoc]

lemma returnOnAverage_scale (a b c : ℚ) :
    returnOnAverage (k * a) (k * b) (k * c) = returnOnAverage a b c := by
  have hone := half_scale (k := 1) (b + c)
  rw [one_mul, one_mul] at hone
  simp only [returnOnAverage, add_rat, Checked.ok_bind, ← mul_add, half_scale, hone,
    nonpos_scale hk, div_scale hk]

omit hk in
lemma capital_scale (a b c : ℚ) :
    capital (k * a) (k * b) (k * c) = .ok (k * (a + b - c)) := by
  simp only [capital, add_rat, sub_rat, Checked.ok_bind, ← mul_add, ← mul_sub]

lemma returnOnCapital_scale {v w : Role → ℚ}
    (hw : ∀ role, role.isMonetary = true → w role = k * v role) :
    returnOnCapital w = returnOnCapital v := by
  have hone := half_scale (k := 1)
  have hcapital := capital_scale (k := 1)
  simp only [one_mul] at hone hcapital
  rw [returnOnCapital, returnOnCapital, hw .pretaxIncome rfl, hw .incomeTaxExpense rfl,
    hw .operatingIncome rfl, hw (.opening .totalEquity) rfl, hw (.closing .totalEquity) rfl,
    hw (.opening .totalDebt) rfl, hw (.closing .totalDebt) rfl, hw (.opening .cash) rfl,
    hw (.closing .cash) rfl]
  simp only [nonpos_scale hk, div_scale hk, capital_scale, Checked.ok_bind, add_rat, sub_rat,
    mul_rat, mul_assoc, ← mul_add, half_scale]
  simp only [hcapital, Checked.ok_bind, hone]

lemma valueOfFirm_scale (a b c d e : ℚ) :
    valueOfFirm (k * a) (k * b) (k * c) (k * d) (k * e) =
      (valueOfFirm a b c d e).map (Outcome.scale k) := by
  simp only [valueOfFirm, add_rat, sub_rat, Checked.ok_bind, ← mul_add, ← mul_sub, nonneg_scale hk]
  rfl

lemma capitalization_scale (a b : ℚ) :
    capitalization (k * a) b = (capitalization a b).map (Outcome.scale k) := by
  simp only [capitalization, nonpos_scale hk, mul_rat, Checked.ok_bind, mul_assoc]
  split_ifs <;> rfl

end Scale

section Sums

variable {k : ℚ}

lemma bridge_scale (a b c : ℚ) : bridge (k * a) (k * b) (k * c) = .ok (k * (a + b - c)) := by
  simp only [bridge, add_rat, sub_rat, Checked.ok_bind, ← mul_add, ← mul_sub]

lemma foldlM_add (xs : List ℚ) (a : ℚ) : xs.foldlM add a = .ok (a + xs.sum) := by
  induction xs generalizing a with
  | nil => simp [pure, Except.pure]
  | cons x xs ih =>
      rw [List.foldlM_cons, add_rat, Checked.ok_bind, ih, List.sum_cons, add_assoc]

/-- Every role that sums up is scaled. -/
lemma trailing_scale {v w : Role → ℚ} {roles : List Role} (hw : ∀ role ∈ roles, w role = k * v role) :
    trailing roles w = (trailing roles v).map (Outcome.scale k) := by
  have hsum : roles.map w = (roles.map v).map (k * ·) := by
    rw [List.map_map]
    exact List.map_congr_left hw
  have hplain : ∀ a : ℚ, plain (.ok (k * a)) = (plain (.ok a)).map (Outcome.scale k) := fun _ => rfl
  have hbridge := bridge_scale (k := 1)
  simp only [one_mul] at hbridge
  unfold trailing
  split
  case h_1 annual latest prior =>
    rw [hw annual (by simp), hw latest (by simp), hw prior (by simp), bridge_scale, hbridge, hplain]
  case h_2 =>
    rw [hsum, foldlM_add, foldlM_add, List.sum_map_mul_left, List.map_id', constant_rat, Nat.cast_zero, zero_add,
      zero_add, hplain]

end Sums

/-! ## Formulas -/

section Formulas

variable {k : ℚ} {inputs : Inputs ℚ} {code : MetricCode} {role : Role} {roles : List Role}

lemma lookup_scaleInputs :
    (scaleInputs k inputs).lookup role = (inputs.lookup role).map (role.scaleInput k) :=
  Dict.lookup_map (f := Role.scaleInput k)

lemma presentInput_scaleInputs :
    presentInput (scaleInputs k inputs) role = presentInput inputs role := by
  rw [presentInput, presentInput, lookup_scaleInputs]
  rcases inputs.lookup role with _ | ⟨_, _ | _⟩ <;> rfl

lemma valueOf_scaleInputs (h : role.isMonetary = true) :
    valueOf (scaleInputs k inputs) role = k * valueOf inputs role := by
  rw [valueOf, valueOf, lookup_scaleInputs]
  rcases inputs.lookup role with _ | ⟨_, _ | _⟩
  · simp
  · simp [Role.scaleInput]
  · simp [Role.scaleInput, Role.scale, h]

lemma valueOf_shares :
    valueOf (scaleInputs k inputs) .actualSharesOutstanding =
      valueOf inputs .actualSharesOutstanding := by
  rw [valueOf, valueOf, lookup_scaleInputs]
  rcases inputs.lookup Role.actualSharesOutstanding with _ | ⟨_, _ | _⟩
  · rfl
  · rfl
  · simp [Role.scaleInput, Role.scale, Role.isMonetary]

lemma rolesOf_scaleInputs (hk : 0 < k) :
    rolesOf code (scaleInputs k inputs) = rolesOf code inputs := by
  have hsome : ∀ role, ((scaleInputs k inputs).lookup role).isSome = (inputs.lookup role).isSome := by
    intro role
    rw [lookup_scaleInputs, Option.isSome_map]
  unfold rolesOf
  split
  case h_1 =>
    refine congrArg (· >>= _) (Checked.check_congr ?_)
    rw [lookup_scaleInputs]
    rcases inputs.lookup Role.totalLiabilities with _ | ⟨_, _ | value⟩
    · simp
    · simp [Role.scaleInput]
    · simp [Role.scaleInput, Role.scale, Role.isMonetary, -nonneg_rat, nonneg_scale hk]
  all_goals simp only [hsome]

/-- Only a market capitalization reads the number of shares. -/
lemma isMonetary_of_rolesOf (h : rolesOf code inputs = .ok roles) (hcode : code ≠ .marketCap) :
    ∀ role ∈ roles, role.isMonetary = true := by
  have hquarters : ∀ role ∈ quarterRoles, role.isMonetary = true := by decide
  have hbridge : ∀ role ∈ bridgeRoles, role.isMonetary = true := by decide
  have hrequired : ∀ code, code ≠ .marketCap →
      ∀ role ∈ (getFormula code).requiredInputs, role.isMonetary = true := by
    intro code
    cases code <;> decide
  unfold rolesOf at h
  split at h
  case h_1 =>
    obtain ⟨-, h⟩ := Checked.check_bind_ok.mp h
    cases h
    exact hrequired _ hcode
  case h_5 =>
    cases h
    exact hrequired _ hcode
  all_goals
    split_ifs at h
    · cases h
      exact hquarters
    · cases h
      exact hbridge

lemma map_scale_one (x : Except Signal (Outcome ℚ)) : x.map (Outcome.scale 1) = x := by
  rcases x with _ | ⟨value, warnings⟩ | _ | _
  · rfl
  · exact congrArg (fun value => Except.ok (Outcome.number value warnings)) (one_mul value)
  · rfl
  · rfl

lemma plain_scale (a : ℚ) : plain (.ok (k * a)) = (plain (.ok a)).map (Outcome.scale k) := rfl

lemma scaleOf_ratio (h : outputUnit code = "RATIO") : scaleOf k code = 1 := if_pos h

lemma scaleOf_amount (h : outputUnit code ≠ "RATIO") : scaleOf k code = k := if_neg h

/-- **A computation goes along with its values.** -/
lemma calculation_scale (hk : 0 < k) (hroles : rolesOf code inputs = .ok roles) :
    calculation code roles (valueOf (scaleInputs k inputs)) =
      (calculation code roles (valueOf inputs)).map (Outcome.scale (scaleOf k code)) := by
  have hv : ∀ role : Role, role.isMonetary = true →
      valueOf (scaleInputs k inputs) role = k * valueOf inputs role :=
    fun _ h => valueOf_scaleInputs h
  have hshares : valueOf (scaleInputs k inputs) .actualSharesOutstanding =
    valueOf inputs .actualSharesOutstanding := valueOf_shares
  have hmonetary := isMonetary_of_rolesOf hroles
  generalize valueOf (scaleInputs k inputs) = w at *
  generalize valueOf inputs = v at *
  have hratio : ∀ (warning : Option String) (a b : Role), a.isMonetary = true →
      b.isMonetary = true → outputUnit code = "RATIO" → quotient warning (w a) (w b) =
        (quotient warning (v a) (v b)).map (Outcome.scale (scaleOf k code)) := by
    intro warning a b ha hb hcode
    rw [hv a ha, hv b hb, quotient_scale hk, scaleOf_ratio hcode, map_scale_one]
  cases code with
  | revenueGrowth =>
      rw [scaleOf_ratio rfl, map_scale_one, calculation, calculation, hv .currentRevenue rfl,
        hv .priorRevenue rfl, growth_scale hk]
  | grossMargin =>
      rw [scaleOf_ratio rfl, map_scale_one, calculation, calculation, hv .revenue rfl,
        hv .costOfRevenue rfl, margin_scale hk]
  | roeParent =>
      rw [scaleOf_ratio rfl, map_scale_one, calculation, calculation, hv .netIncomeParent rfl,
        hv (.opening .equityParent) rfl, hv (.closing .equityParent) rfl, returnOnAverage_scale hk]
  | roaTotal =>
      rw [scaleOf_ratio rfl, map_scale_one, calculation, calculation, hv .netIncomeTotal rfl,
        hv (.opening .totalAssets) rfl, hv (.closing .totalAssets) rfl, returnOnAverage_scale hk]
  | roic =>
      rw [scaleOf_ratio rfl, map_scale_one]
      exact returnOnCapital_scale hk hv
  | operatingMargin => exact hratio _ .operatingIncome .revenue rfl rfl rfl
  | netMarginParent => exact hratio _ .netIncomeParent .revenue rfl rfl rfl
  | liabilitiesToAssets => exact hratio _ .totalLiabilities .totalAssets rfl rfl rfl
  | peTtmDiluted => exact hratio _ .marketCap .netIncomeParentTtm rfl rfl rfl
  | pbParent => exact hratio _ .marketCap .equityParent rfl rfl rfl
  | psTtm => exact hratio _ .marketCap .revenueTtm rfl rfl rfl
  | evToEbitdaTtm => exact hratio _ .enterpriseValue .ebitdaTtm rfl rfl rfl
  | fcfYieldTtm => exact hratio _ .freeCashFlowTtm .marketCap rfl rfl rfl
  | operatingCashFlow =>
      rw [scaleOf_amount (by decide), calculation, calculation, hv .reportedOcf rfl, plain_scale]
  | freeCashFlow =>
      rw [scaleOf_amount (by decide), calculation, calculation, hv .operatingCashFlow rfl,
        hv .capitalExpenditures rfl, sub_rat, sub_rat, ← mul_sub, plain_scale]
  | netDebt =>
      rw [scaleOf_amount (by decide), calculation, calculation, hv .totalDebt rfl, hv .cash rfl,
        sub_rat, sub_rat, ← mul_sub, plain_scale]
  | basicEps =>
      rw [scaleOf_amount (by decide), calculation, calculation, hv .reportedBasicEps rfl,
        plain_scale]
  | dilutedEps =>
      rw [scaleOf_amount (by decide), calculation, calculation, hv .reportedDilutedEps rfl,
        plain_scale]
  | marketCap =>
      rw [scaleOf_amount (by decide), calculation, calculation, hshares, hv .price rfl,
        capitalization_scale hk]
  | enterpriseValue =>
      rw [scaleOf_amount (by decide), calculation, calculation, hv .marketCap rfl,
        hv .totalDebt rfl, hv .preferredEquity rfl, hv .minorityInterest rfl, hv .cash rfl,
        valueOfFirm_scale hk]
  | revenueTtm | netIncomeParentTtm | ebitdaTtm =>
      rw [scaleOf_amount (by decide)]
      exact trailing_scale fun role hrole => hv role (hmonetary (by decide) role hrole)

lemma resultOf_scale {f : ℚ} (hf : 0 < f) {measure : Measure} (outcome : Outcome ℚ) :
    resultOf code roles measure (outcome.scale f) = (resultOf code roles measure outcome).scale f := by
  cases outcome with
  | number value warnings => simp only [Outcome.scale, resultOf, isZero_scale hf]; rfl
  | notMeaningful | null => rfl

/-- The whole result goes along. -/
lemma executeOver_scale (hk : 0 < k) :
    executeOver code (scaleInputs k inputs) =
      (executeOver code inputs).map (Result.scale (scaleOf k code)) := by
  have hf : 0 < scaleOf k code := by
    unfold scaleOf
    split_ifs
    · exact one_pos
    · exact hk
  have hpresent : presentInput (scaleInputs k inputs) = presentInput inputs :=
    funext fun _ => presentInput_scaleInputs
  have hevaluate : ∀ {roles}, rolesOf code inputs = .ok roles →
      evaluate code (denomination code) roles (calculation code roles) (scaleInputs k inputs) =
        (evaluate code (denomination code) roles (calculation code roles) inputs).map
          (Result.scale (scaleOf k code)) := by
    intro roles hroles
    rw [evaluate, evaluate, hpresent, calculation_scale hk hroles]
    cases roles.mapM (presentInput inputs) with
    | error e => rfl
    | ok present =>
        rw [Checked.ok_bind, Checked.ok_bind]
        cases basis (denomination code) present with
        | error e => rfl
        | ok measure =>
            rw [Checked.ok_bind, Checked.ok_bind]
            cases calculation code roles (valueOf inputs) with
            | error s => rfl
            | ok outcome => exact congrArg Except.ok (resultOf_scale hf outcome)
  rw [executeOver, executeOver, rolesOf_scaleInputs hk]
  cases hroles : rolesOf code inputs with
  | error e => cases e <;> rfl
  | ok roles =>
      rw [Checked.ok_bind, Checked.ok_bind, hevaluate hroles]
      rcases evaluate code (denomination code) roles (calculation code roles) inputs with
        (_ | _) | _ <;> rfl

end Formulas

/-- Exact arithmetic raises nothing. -/
lemma guarded_rat : Guarded ℚ (fun _ => False) where
  add _ _ := Checked.raises_ok _
  sub _ _ := Checked.raises_ok _
  mul _ _ := Checked.raises_ok _
  div a b hb := by
    have hb : b ≠ 0 := by
      rintro rfl
      exact hb (by simp)
    rw [div_rat hb]
    exact Checked.raises_ok _
  two := by simp

lemma executeOver_returns (code : MetricCode) (inputs : Inputs ℚ) :
    ∃ result, executeOver code inputs = .ok result := by
  cases h : executeOver code inputs with
  | error s => exact (executeOver_raises guarded_rat s h).elim
  | ok result => exact ⟨result, rfl⟩

/-- **The law of scale.**  The steps of a formula, which over decimals are `execute_formula`, return
in exact arithmetic, and with every amount of money multiplied by `k` they return the same state,
quality and warnings, the same ratio, and `k` times any other value. -/
theorem formula_scale :
    (∀ code inputs, executeFormula code inputs =
      (executeOver code inputs.over).map (Result.metric code)) ∧
    ∀ {k : ℚ}, 0 < k → ∀ (code : MetricCode) (inputs : Inputs ℚ),
      ∃ result scaled, executeOver code inputs = .ok result ∧
        executeOver code (scaleInputs k inputs) = .ok scaled ∧
        scaled.valueState = result.valueState ∧ scaled.qualityStatus = result.qualityStatus ∧
        scaled.warnings = result.warnings ∧
        (outputUnit code = "RATIO" → scaled.value = result.value) ∧
        (outputUnit code ≠ "RATIO" → scaled.value = result.value.map (k * ·)) := by
  refine ⟨executeFormula_eq, fun {k} hk code inputs => ?_⟩
  obtain ⟨result, hresult⟩ := executeOver_returns code inputs
  refine ⟨result, result.scale (scaleOf k code), hresult, ?_, rfl, rfl, rfl, ?_, ?_⟩
  · rw [executeOver_scale hk, hresult]
    rfl
  · intro hratio
    rw [scaleOf_ratio hratio]
    simp [Result.scale]
  · intro hamount
    rw [scaleOf_amount hamount]
    rfl

/-- An income of 12 on an average of 40, in thousands and in ones. -/
theorem formula_scale_thousand :
    ∃ result scaled,
      executeOver .roeParent
        [(.netIncomeParent, ⟨⟨"ONE", some "CNY"⟩, some (12 : ℚ)⟩),
          (.opening .equityParent, ⟨⟨"ONE", some "CNY"⟩, some 30⟩),
          (.closing .equityParent, ⟨⟨"ONE", some "CNY"⟩, some 50⟩)] = .ok result ∧
      executeOver .roeParent
        [(.netIncomeParent, ⟨⟨"ONE", some "CNY"⟩, some (1000 * 12 : ℚ)⟩),
          (.opening .equityParent, ⟨⟨"ONE", some "CNY"⟩, some (1000 * 30)⟩),
          (.closing .equityParent, ⟨⟨"ONE", some "CNY"⟩, some (1000 * 50)⟩)] = .ok scaled ∧
      scaled.value = result.value := by
  obtain ⟨result, scaled, hresult, hscaled, -, -, -, hratio, -⟩ :=
    formula_scale.2 (k := 1000) (by norm_num) .roeParent _
  exact ⟨result, scaled, hresult, hscaled, hratio rfl⟩

end StockResearch.Financials
