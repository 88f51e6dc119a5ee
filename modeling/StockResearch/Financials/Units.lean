import StockResearch.Core.DecimalExact
import StockResearch.Financials.Derivations
import StockResearch.Providers.FactBridges

/-!
# Units

`normalize_unit` multiplies a reported value by the scale of its unit, and `deaccumulate_quarter`
subtracts one cumulative value from another.  Both compute in the default context, which keeps 28
digits; a column of the type `NUMERIC(38,12)` holds 38.

* `numeric_units`: an admitted value is a whole number of units of `10 ^ -12`, below `10 ^ 38`.
* **`unit_arithmetic_exact_iff`**: both are exact on results with at most 28 significant digits, and
  on no others.
-/

namespace StockResearch.Financials

open PyTime PyDecimal

/-- `ReportedUnit` -/
inductive ReportedUnit where
  | one | thousand | million | billion | perShare | shares | percent | ratio
deriving DecidableEq, Repr

def ReportedUnit.value : ReportedUnit → String
  | one => "ONE"
  | thousand => "THOUSAND"
  | million => "MILLION"
  | billion => "BILLION"
  | perShare => "PER_SHARE"
  | shares => "SHARES"
  | percent => "PERCENT"
  | ratio => "RATIO"

def UnitType.value : UnitType → String
  | monetaryAmount => "MONETARY_AMOUNT"
  | perShare => "PER_SHARE"
  | shares => "SHARES"
  | ratio => "RATIO"

structure UnitNormalizationResult where
  originalValue : Decimal
  originalUnit : ReportedUnit
  normalizedValue : Decimal
  normalizedUnit : String
  scaleFactor : Decimal
deriving DecidableEq

/-- What `normalize_unit` raises. -/
inductive UnitError where
  | unitNormalizationBlocked (text : String)
  | signal (s : Signal)
deriving DecidableEq, Repr

/-- `_AMOUNT_SCALES` -/
def amountScale : ReportedUnit → Option Decimal
  | .one => some 1
  | .thousand => some 1000
  | .million => some 1000000
  | .billion => some 1000000000
  | _ => none

/-- The scale and the normalized unit of a reported unit, where a value of the given type is
expected. -/
def unitScale (unit : ReportedUnit) (expected : UnitType) : Option (Decimal × String) :=
  match expected with
  | .monetaryAmount => (amountScale unit).map fun scale => (scale, ReportedUnit.one.value)
  | .perShare => if unit = .perShare then some (1, ReportedUnit.perShare.value) else none
  | .shares => if unit = .shares then some (1, ReportedUnit.shares.value) else none
  | .ratio =>
      if unit = .percent then some (⟨false, 1, -2⟩, ReportedUnit.ratio.value)
      else if unit = .ratio then some (1, ReportedUnit.ratio.value)
      else none

/-- `normalize_unit` of a finite value in a known unit. -/
def normalizeUnit (value : Decimal) (unit : ReportedUnit) (expected : UnitType) :
    Except UnitError UnitNormalizationResult :=
  match unitScale unit expected with
  | none => .error (.unitNormalizationBlocked
      s!"incompatible reported unit {unit.value} for {expected.value}")
  | some (scale, normalizedUnit) => do
      let normalizedValue ← (value.mul defaultContext scale).mapError .signal
      return {
        originalValue := value
        originalUnit := unit
        normalizedValue
        normalizedUnit
        scaleFactor := scale }

/-! ## Admitted values -/

open Providers (validNumeric)

lemma dropZeros_number (k n : Nat) (e : Int) :
    ((Decimal.dropZeros k n e).1 : ℚ) * 10 ^ (Decimal.dropZeros k n e).2 = n * 10 ^ e := by
  induction k generalizing n e with
  | zero => rfl
  | succ k ih =>
      rw [Decimal.dropZeros]
      split
      case isTrue hzero =>
        obtain ⟨m, rfl⟩ : 10 ∣ n := Nat.dvd_of_mod_eq_zero hzero
        rw [ih, Nat.mul_div_cancel_left _ (by decide), zpow_add_one₀ (by norm_num)]
        push_cast
        ring
      case isFalse => rfl

/-- **An admitted value** is a whole number of units of `10 ^ -12`, below `10 ^ 38`. -/
lemma numeric_units {d : Decimal} (h : validNumeric d = true) :
    ∃ z : ℤ, d.toRat = z * 10 ^ (-12 : ℤ) ∧ |z| < 10 ^ 38 := by
  have hten : (10 : ℚ) ≠ 0 := by norm_num
  by_cases hzero : d.coefficient = 0
  · exact ⟨0, by simp [Decimal.toRat_eq_zero.mpr hzero], by norm_num⟩
  · have hnumber := dropZeros_number (-d.exponent).toNat d.coefficient d.exponent
    simp only [validNumeric, hzero, decide_false, Bool.false_or, Bool.and_eq_true,
      decide_eq_true_eq] at h
    generalize (Decimal.dropZeros (-d.exponent).toNat d.coefficient d.exponent).1 = n at *
    generalize (Decimal.dropZeros (-d.exponent).toNat d.coefficient d.exponent).2 = e at *
    obtain ⟨hfraction, hwhole⟩ := h
    obtain ⟨j, hj⟩ : ∃ j : Nat, e = -12 + j := ⟨(e + 12).toNat, by omega⟩
    have hnat : n * 10 ^ j < 10 ^ 38 := by
      calc n * 10 ^ j < 10 ^ Decimal.digits n * 10 ^ j :=
            Nat.mul_lt_mul_of_pos_right (Decimal.lt_pow_digits n) (by positivity)
        _ = 10 ^ (Decimal.digits n + j) := (pow_add ..).symm
        _ ≤ 10 ^ 38 := Nat.pow_le_pow_right (by decide) (by omega)
    have hlt : ((n * 10 ^ j : Nat) : ℤ) < 10 ^ 38 := by exact_mod_cast hnat
    have hsplit : (n : ℚ) * 10 ^ e = (n * 10 ^ j : Nat) * 10 ^ (-12 : ℤ) := by
      rw [hj, zpow_add₀ hten, zpow_natCast]
      push_cast
      ring
    rw [hsplit] at hnumber
    generalize n * 10 ^ j = m at *
    generalize (10 : ℚ) ^ (-12 : ℤ) = unit at *
    generalize (10 : ℤ) ^ 38 = bound at *
    refine ⟨if d.negative then -(m : ℤ) else m, ?_, ?_⟩
    · cases hsign : d.negative
      · simp [Decimal.toRat, Decimal.signed, hsign, hnumber]
      · simp [Decimal.toRat, Decimal.signed, hsign, hnumber]
    · cases d.negative
      · simpa using hlt
      · simpa using hlt

/-- A whole number of units of a power of ten, in its range of magnitudes. -/
lemma range_of_units {q : ℚ} {z k : ℤ} {n : Nat} (hq : q = z * 10 ^ k) (hz : |z| < 10 ^ n)
    (hne : q ≠ 0) : 10 ^ k ≤ |q| ∧ |q| < 10 ^ (n + k) := by
  have hunit : (0 : ℚ) < 10 ^ k := zpow_pos (by norm_num) k
  have hlower : (1 : ℚ) ≤ |(z : ℚ)| := by
    have hz : z ≠ 0 := by
      rintro rfl
      exact hne (by simpa using hq)
    exact_mod_cast Int.one_le_abs hz
  have hupper : |(z : ℚ)| < 10 ^ n := by exact_mod_cast hz
  rw [hq, abs_mul, abs_of_pos hunit, zpow_add₀ (by norm_num), zpow_natCast]
  exact ⟨le_mul_of_one_le_left hunit.le hlower, mul_lt_mul_of_pos_right hupper hunit⟩

/-! ## Scaling -/

/-- Every scale is a power of ten. -/
lemma toRat_unitScale {unit : ReportedUnit} {expected : UnitType} {scale : Decimal} {text : String}
    (h : unitScale unit expected = some (scale, text)) :
    ∃ k : ℤ, -2 ≤ k ∧ k ≤ 9 ∧ scale.toRat = 10 ^ k := by
  have hscale : scale ∈ [1, 1000, 1000000, 1000000000, ⟨false, 1, -2⟩] := by
    cases expected with
    | monetaryAmount =>
        obtain ⟨amount, hamount, hpair⟩ := Option.map_eq_some_iff.mp h
        cases hpair
        cases unit <;> cases hamount <;> decide
    | perShare | shares =>
        rw [unitScale] at h
        split at h
        · cases h
          decide
        · cases h
    | ratio =>
        rw [unitScale] at h
        split at h
        · cases h
          decide
        · split at h
          · cases h
            decide
          · cases h
  have hone : (1 : Decimal).toRat = 10 ^ (0 : ℤ) := by
    change ((1 : Int) : ℚ) * 10 ^ (0 : ℤ) = _
    norm_num
  have hthousand : (1000 : Decimal).toRat = 10 ^ (3 : ℤ) := by
    change ((1000 : Int) : ℚ) * 10 ^ (0 : ℤ) = _
    norm_num
  have hmillion : (1000000 : Decimal).toRat = 10 ^ (6 : ℤ) := by
    change ((1000000 : Int) : ℚ) * 10 ^ (0 : ℤ) = _
    norm_num
  have hbillion : (1000000000 : Decimal).toRat = 10 ^ (9 : ℤ) := by
    change ((1000000000 : Int) : ℚ) * 10 ^ (0 : ℤ) = _
    norm_num
  have hpercent : (⟨false, 1, -2⟩ : Decimal).toRat = 10 ^ (-2 : ℤ) := by
    simp [Decimal.toRat, Decimal.signed]
  simp only [List.mem_cons, List.not_mem_nil, or_false] at hscale
  rcases hscale with rfl | rfl | rfl | rfl | rfl
  · exact ⟨0, by decide, by decide, hone⟩
  · exact ⟨3, by decide, by decide, hthousand⟩
  · exact ⟨6, by decide, by decide, hmillion⟩
  · exact ⟨9, by decide, by decide, hbillion⟩
  · exact ⟨-2, by decide, by decide, hpercent⟩

/-- The scaled value of an admitted value. -/
lemma exists_scaled {value scale : Decimal} {unit : ReportedUnit} {expected : UnitType}
    {text : String} (hvalue : validNumeric value = true)
    (hscale : unitScale unit expected = some (scale, text)) :
    ∃ r, value.mul defaultContext scale = .ok r ∧
      (r.toRat = value.toRat * scale.toRat ↔ Terse 28 value.toRat) := by
  obtain ⟨z, hz, hbound⟩ := numeric_units hvalue
  obtain ⟨k, hlow, hhigh, hk⟩ := toRat_unitScale hscale
  have hproduct : value.toRat * scale.toRat = z * 10 ^ (-12 + k) := by
    rw [hz, hk, mul_assoc, ← zpow_add₀ (by norm_num)]
  obtain ⟨r, hr, hexact⟩ : ∃ r, value.mul defaultContext scale = .ok r ∧
      (r.toRat = value.toRat * scale.toRat ↔ Terse 28 (value.toRat * scale.toRat)) := by
    refine Decimal.mul_exact ?_ ?_ ?_ ?_ (range_of_units hproduct hbound)
    · decide
    · simp only [Context.etiny, defaultContext]
      omega
    · simp only [Context.etop, defaultContext]
      omega
    · simp only [Context.etiny, defaultContext]
      omega
  refine ⟨r, hr, hexact.trans ?_⟩
  rw [hk]
  exact terse_mul_pow k

/-! ## Differences -/

/-- The difference of two admitted values. -/
lemma exists_difference {a b : Decimal} (ha : validNumeric a = true) (hb : validNumeric b = true) :
    ∃ r, a.sub defaultContext b = .ok r ∧
      (r.toRat = a.toRat - b.toRat ↔ Terse 28 (a.toRat - b.toRat)) := by
  obtain ⟨x, hx, hxbound⟩ := numeric_units ha
  obtain ⟨y, hy, hybound⟩ := numeric_units hb
  have hdifference : a.toRat - b.toRat = (x - y : ℤ) * 10 ^ (-12 : ℤ) := by
    rw [hx, hy, ← sub_mul]
    push_cast
    rfl
  have hbound : |x - y| < 10 ^ 39 := by
    have hten : (10 : ℤ) ^ 39 = 10 * 10 ^ 38 := by ring
    have habs := abs_sub x y
    generalize (10 : ℤ) ^ 38 = bound at *
    omega
  refine Decimal.sub_exact ?_ ?_ ?_ ?_ (range_of_units hdifference hbound)
  · decide
  · decide
  · decide
  · decide

/-! ## Checks raise no signal -/

/-- A derivation that returns or is blocked. -/
def OnlyBlocks {α : Type} (x : Except CalculationError α) : Prop :=
  Checked.Raises (fun e => ∃ text, e = .calculationBlocked text) x

lemma onlyBlocks_blockIf {p : Prop} [Decidable p] {text : String} : OnlyBlocks (blockIf p text) :=
  Checked.raises_check ⟨text, rfl⟩

lemma onlyBlocks_requireVisible {value : FinancialValue} {cutoff : Instant} :
    OnlyBlocks (requireVisible value cutoff) :=
  Checked.raises_bind (Checked.raises_require ⟨_, rfl⟩) fun _ => onlyBlocks_blockIf

lemma onlyBlocks_requireCompatible {first : FinancialValue} {rest : List FinancialValue} :
    OnlyBlocks (requireCompatible first rest) := by
  refine Checked.raises_forM fun value => ?_
  refine Checked.raises_bind onlyBlocks_blockIf fun _ => ?_
  refine Checked.raises_bind onlyBlocks_blockIf fun _ => ?_
  refine Checked.raises_bind onlyBlocks_blockIf fun _ => ?_
  exact Checked.raises_bind onlyBlocks_blockIf fun _ => onlyBlocks_blockIf

lemma onlyBlocks_cumulativeStage {period : FinancialPeriod} :
    OnlyBlocks (cumulativeStage period) := by
  refine Checked.raises_ite (fun _ => Checked.raises_ok _) fun _ => ?_
  refine Checked.raises_ite (fun _ => Checked.raises_ok _) fun _ => ?_
  refine Checked.raises_ite (fun _ => Checked.raises_ok _) fun _ => ?_
  exact Checked.raises_ite (fun _ => Checked.raises_ok _) fun _ => Checked.raises_error ⟨_, rfl⟩

/-- The value of a quarter with a predecessor is the rounded difference. -/
lemma deaccumulatedValue_spec {stage : Nat} {current previous : FinancialValue} {cutoff : Instant}
    (hcurrent : validNumeric current.value = true) (hprevious : validNumeric previous.value = true) :
    OnlyBlocks (deaccumulatedValue stage current (some previous) cutoff) ∧
      ∀ pair, deaccumulatedValue stage current (some previous) cutoff = .ok pair →
        current.value.sub defaultContext previous.value = .ok pair.1 := by
  obtain ⟨r, hr, -⟩ := exists_difference hcurrent hprevious
  rw [deaccumulatedValue]
  split
  case isTrue =>
    refine ⟨Checked.raises_bind onlyBlocks_blockIf fun _ => Checked.raises_ok _, fun pair h => ?_⟩
    obtain ⟨hblocked, -⟩ := Checked.check_bind_ok.mp h
    exact absurd rfl hblocked
  case isFalse =>
    have hexactly : exactly (current.value.sub defaultContext previous.value) = .ok r := by
      rw [hr]
      rfl
    simp only [Checked.require, Checked.ok_bind, hexactly]
    constructor
    · refine Checked.raises_bind onlyBlocks_requireCompatible fun _ => ?_
      refine Checked.raises_bind onlyBlocks_requireVisible fun _ => ?_
      refine Checked.raises_bind onlyBlocks_blockIf fun _ => ?_
      refine Checked.raises_bind onlyBlocks_blockIf fun _ => ?_
      refine Checked.raises_bind onlyBlocks_cumulativeStage fun _ => ?_
      refine Checked.raises_bind onlyBlocks_blockIf fun _ => ?_
      exact Checked.raises_bind onlyBlocks_blockIf fun _ => Checked.raises_ok _
    · intro pair h
      obtain ⟨-, -, h⟩ := Checked.bind_ok.mp h
      obtain ⟨-, -, h⟩ := Checked.bind_ok.mp h
      obtain ⟨-, h⟩ := Checked.check_bind_ok.mp h
      obtain ⟨-, h⟩ := Checked.check_bind_ok.mp h
      obtain ⟨previousStage, -, h⟩ := Checked.bind_ok.mp h
      obtain ⟨-, h⟩ := Checked.check_bind_ok.mp h
      obtain ⟨-, h⟩ := Checked.check_bind_ok.mp h
      cases h
      exact hr

/-- A derived quarter with a predecessor. -/
lemma deaccumulateQuarter_value {current previous : FinancialValue} {cutoff : Instant}
    (hcurrent : validNumeric current.value = true) (hprevious : validNumeric previous.value = true) :
    OnlyBlocks (deaccumulateQuarter current (some previous) cutoff) ∧
      ∀ derived, deaccumulateQuarter current (some previous) cutoff = .ok derived →
        current.value.sub defaultContext previous.value = .ok derived.value := by
  have hspec : ∀ stage, _ := fun stage =>
    @deaccumulatedValue_spec stage _ _ cutoff hcurrent hprevious
  rw [deaccumulateQuarter]
  constructor
  · refine Checked.raises_bind onlyBlocks_blockIf fun _ => ?_
    refine Checked.raises_bind onlyBlocks_blockIf fun _ => ?_
    refine Checked.raises_bind onlyBlocks_requireVisible fun _ => ?_
    refine Checked.raises_bind onlyBlocks_cumulativeStage fun stage => ?_
    exact Checked.raises_bind (hspec stage).1 fun _ => Checked.raises_ok _
  · intro derived h
    obtain ⟨-, h⟩ := Checked.check_bind_ok.mp h
    obtain ⟨-, h⟩ := Checked.check_bind_ok.mp h
    obtain ⟨-, -, h⟩ := Checked.bind_ok.mp h
    obtain ⟨stage, -, h⟩ := Checked.bind_ok.mp h
    obtain ⟨pair, hpair, h⟩ := Checked.bind_ok.mp h
    cases h
    exact (hspec stage).2 pair hpair

/-! ## Exactly when both are exact -/

/-- **Normalization and de-accumulation of admitted values are exact on results with at most 28
significant digits, and on no others.**  Both return; a derivation may still be blocked by its own
checks. -/
theorem unit_arithmetic_exact_iff (value scale : Decimal) (unit : ReportedUnit)
    (expected : UnitType) (text : String) (current previous : FinancialValue)
    (cutoff : Instant) :
    (validNumeric value = true → unitScale unit expected = some (scale, text) →
      ∃ result, normalizeUnit value unit expected = .ok result ∧ result.scaleFactor = scale ∧
        (result.normalizedValue.toRat = value.toRat * scale.toRat ↔ Terse 28 value.toRat)) ∧
    (validNumeric current.value = true → validNumeric previous.value = true →
      OnlyBlocks (deaccumulateQuarter current (some previous) cutoff) ∧
        ∀ derived, deaccumulateQuarter current (some previous) cutoff = .ok derived →
          (derived.value.toRat = current.value.toRat - previous.value.toRat ↔
            Terse 28 (current.value.toRat - previous.value.toRat))) := by
  constructor
  · intro hvalue hscale
    obtain ⟨r, hr, hexact⟩ := exists_scaled hvalue hscale
    refine ⟨⟨value, unit, r, text, scale⟩, ?_, rfl, hexact⟩
    rw [normalizeUnit, hscale]
    dsimp only
    rw [hr]
    rfl
  · intro hcurrent hprevious
    obtain ⟨hblocks, hvalue⟩ := @deaccumulateQuarter_value _ _ cutoff hcurrent hprevious
    refine ⟨hblocks, fun derived hderived => ?_⟩
    obtain ⟨r, hr, hexact⟩ := exists_difference hcurrent hprevious
    have hr' : r = derived.value := Except.ok.inj (hr.symm.trans (hvalue derived hderived))
    rwa [hr'] at hexact

/-- The last moment of August 2024. -/
def endOfSummer : Instant :=
  ⟨⟨2024, 8, 31, validYear_2024, validMonth_8, validDay_2024_8_31⟩, 23, 59, 59, 999999, by decide,
    by decide, by decide, by decide⟩

/-- Revenue in yuan from the start of the year 2024. -/
def revenueSince (type : PeriodType) (quarter : Int) (last : Date) (value : Decimal) :
    FinancialValue where
  factId := 1
  securityId := 7
  concept := .revenue
  period :=
    { fiscalYear := 2024
      fiscalQuarter := some quarter
      fiscalPeriod := "YTD"
      periodType := type
      factNature := .duration
      periodStart := some ⟨2024, 1, 1, validYear_2024, validMonth_1, validDay_2024_1_1⟩
      periodEnd := last
      filingDate := none
      publishedAt := none
      durationDays := none
      isAnnual := false
      isCumulative := true
      isSingleQuarter := false
      isTtm := false
      accountingStandard := "CAS"
      sourceFormType := "REPORT" }
  value := value
  normalizedUnit := "ONE"
  currencyCode := some "CNY"
  accountingBasis := "CAS"
  sourcePublishedAt := some endOfSummer
  vocabulary := by decide

def firstQuarterRevenue : Decimal → FinancialValue :=
  revenueSince .quarter 1 ⟨2024, 3, 31, validYear_2024, validMonth_3, validDay_2024_3_31⟩

def halfYearRevenue : Decimal → FinancialValue :=
  revenueSince .halfYear 2 ⟨2024, 6, 30, validYear_2024, validMonth_6, validDay_2024_6_30⟩

/-- 12.5 million, and a quarter of 10.25 before a half of 30.5. -/
theorem unit_arithmetic_exact_millions :
    (∃ result, normalizeUnit ⟨false, 125, -1⟩ .million .monetaryAmount = .ok result ∧
      result.normalizedValue.toRat = 12500000) ∧
    ∃ derived, deaccumulateQuarter (halfYearRevenue ⟨false, 305, -1⟩)
        (some (firstQuarterRevenue ⟨false, 1025, -2⟩)) endOfSummer = .ok derived ∧
      derived.value.toRat = 2025 / 100 := by
  constructor
  · have hterse : Terse 28 (⟨false, 125, -1⟩ : Decimal).toRat := ⟨125, -1, by decide, rfl⟩
    have hvalue : validNumeric ⟨false, 125, -1⟩ = true := by decide +kernel
    have hscale : unitScale .million .monetaryAmount = some (1000000, "ONE") := rfl
    obtain ⟨result, hresult, -, hexact⟩ := (unit_arithmetic_exact_iff ⟨false, 125, -1⟩ 1000000
      .million .monetaryAmount "ONE" (halfYearRevenue 0) (firstQuarterRevenue 0) endOfSummer).1
      hvalue hscale
    exact ⟨result, hresult, (hexact.mpr hterse).trans (by decide +kernel)⟩
  · obtain ⟨derived, hderived⟩ : ∃ derived, deaccumulateQuarter (halfYearRevenue ⟨false, 305, -1⟩)
        (some (firstQuarterRevenue ⟨false, 1025, -2⟩)) endOfSummer = .ok derived :=
      Checked.exists_of_isOk (by decide +kernel)
    have hterse : Terse 28 ((halfYearRevenue ⟨false, 305, -1⟩).value.toRat -
        (firstQuarterRevenue ⟨false, 1025, -2⟩).value.toRat) :=
      ⟨2025, -2, by decide, by decide +kernel⟩
    have hexact := ((unit_arithmetic_exact_iff 0 0 .one .monetaryAmount "ONE"
      (halfYearRevenue ⟨false, 305, -1⟩) (firstQuarterRevenue ⟨false, 1025, -2⟩) endOfSummer).2
      (by decide +kernel) (by decide +kernel)).2 derived hderived
    exact ⟨derived, hderived, (hexact.mpr hterse).trans (by decide +kernel)⟩

/-- An admitted value with 38 digits. -/
def longAmount : Decimal := ⟨false, 10 ^ 37 + 1, -12⟩

/-- Both operations round admitted values, though a unit has the scale 1 and the quarter before has
no revenue. -/
theorem unit_arithmetic_rounds :
    validNumeric longAmount = true ∧
    (∃ result, normalizeUnit longAmount .one .monetaryAmount = .ok result ∧
      result.normalizedValue.toRat ≠ longAmount.toRat * result.scaleFactor.toRat) ∧
    ∃ derived, deaccumulateQuarter (halfYearRevenue longAmount) (some (firstQuarterRevenue 0))
        endOfSummer = .ok derived ∧
      derived.value.toRat ≠ (halfYearRevenue longAmount).value.toRat -
        (firstQuarterRevenue 0).value.toRat := by
  refine ⟨by decide +kernel, ⟨_, rfl, by decide +kernel⟩, ?_⟩
  obtain ⟨derived, hderived⟩ : ∃ derived, deaccumulateQuarter (halfYearRevenue longAmount)
      (some (firstQuarterRevenue 0)) endOfSummer = .ok derived :=
    Checked.exists_of_isOk (by decide +kernel)
  have hspec := (deaccumulateQuarter_value (by decide +kernel) (by decide +kernel)).2 derived hderived
  refine ⟨derived, hderived, ?_⟩
  have hvalue : derived.value = ⟨false, 10 ^ 27, -2⟩ :=
    Except.ok.inj (hspec.symm.trans (by decide +kernel))
  rw [hvalue]
  decide +kernel

end StockResearch.Financials
