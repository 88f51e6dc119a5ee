import StockResearch.Core.DecimalRange
import StockResearch.Core.Objects
import Mathlib.Algebra.Order.Field.Basic
import Mathlib.Data.Nat.Digits.Lemmas

/-!
# Exact decimals

A field of the type `ExactDecimal` is kept in a column of the type `NUMERIC(38,12)`.  Its validator
looks at the digits and the exponent of a decimal, of which a number has many.

* `dropZeros_eq`: dropping zeros behind the point keeps the number.
* `whole_iff`, `fraction_iff`: the two counts of digits, as facts about the number.
* **`validateNumeric3812_accepts_iff`**: what is accepted depends on the number alone, and is what
  the column represents.
-/

namespace StockResearch.DataAccess

open PyDecimal PyObject Checked

/-- `value.as_tuple().digits`, the last digit first.  A decimal is built without leading zeros. -/
def reversedDigits (coefficient : Nat) : List Nat :=
  if coefficient = 0 then [0] else Nat.digits 10 coefficient

/-- The loop that drops zeros behind the point, on digits of which the last one comes first. -/
def dropFractionZeros : List Nat → Int → List Nat × Int
  | [], exponent => ([], exponent)
  | digit :: digits, exponent =>
      if exponent < 0 ∧ digit = 0 then dropFractionZeros digits (exponent + 1)
      else (digit :: digits, exponent)

/-- `_validate_numeric_38_12` -/
def validateNumeric3812 (value : Decimal ⊕ Special) : Except String (Decimal ⊕ Special) := do
  match value with
  | .inr _ => .error "exact Decimal fields must be finite"
  | .inl d =>
      let digits := reversedDigits d.coefficient
      if digits.all (· = 0) then return value
      let (digits, exponent) := dropFractionZeros digits d.exponent
      let fractionalDigits := max (-exponent) 0
      let wholeDigits := max (digits.length + exponent) 0
      check (12 < fractionalDigits) "exact Decimal fields support at most 12 fractional digits"
      check (26 < wholeDigits) "exact Decimal fields support at most 26 whole digits"
      return value

/-- A finite decimal that the validator returns. -/
def Accepted (d : Decimal) : Prop := validateNumeric3812 (.inl d) = .ok (.inl d)

/-- What a column of the type `NUMERIC(precision,scale)` represents. -/
def InNumeric (precision scale : Nat) (q : ℚ) : Prop :=
  ∃ n : ℤ, |n| < 10 ^ precision ∧ q = n / 10 ^ scale

instance (d : Decimal) : Decidable (Accepted d) := inferInstanceAs (Decidable (_ = _))

/-! ## Dropping zeros -/

/-- The number of digits of which the last one comes first. -/
def numberOf (digits : List Nat) (exponent : Int) : ℚ :=
  (Nat.ofDigits 10 digits : Nat) * 10 ^ exponent

/-- What the loop has come to: the same number with as many digits before the point, and either no
digits behind the point or a last digit that is no zero. -/
lemma dropZeros_eq (digits : List Nat) (exponent : Int) :
    let (kept, e) := dropFractionZeros digits exponent
    numberOf kept e = numberOf digits exponent ∧ kept.length + e = digits.length + exponent ∧
      kept <:+ digits ∧ (0 ≤ e ∨ kept = [] ∨ ∃ digit rest, kept = digit :: rest ∧ digit ≠ 0) := by
  induction digits generalizing exponent with
  | nil => exact ⟨rfl, rfl, List.suffix_rfl, .inr (.inl rfl)⟩
  | cons digit digits ih =>
      rw [dropFractionZeros]
      split_ifs with hdrop
      · obtain ⟨hneg, rfl⟩ := hdrop
        obtain ⟨hnumber, hlength, hsuffix, hlast⟩ := ih (exponent + 1)
        refine ⟨?_, ?_, hsuffix.trans (List.suffix_cons 0 digits), hlast⟩
        · rw [hnumber, numberOf, numberOf, Nat.ofDigits_cons, zpow_add₀ (by norm_num), zpow_one]
          push_cast
          ring
        · rw [hlength, List.length_cons]
          push_cast
          ring
      · refine ⟨rfl, rfl, List.suffix_rfl, ?_⟩
        by_cases hdigit : digit = 0
        · exact .inl (not_lt.mp fun hneg => hdrop ⟨hneg, hdigit⟩)
        · exact .inr (.inr ⟨digit, digits, rfl, hdigit⟩)

/-! ## Counting digits -/

variable {d : Decimal}

/-- So many digits before the point. -/
lemma whole_iff (hzero : d.coefficient ≠ 0) (k : Nat) :
    (Nat.digits 10 d.coefficient).length + d.exponent ≤ k ↔ |d.toRat| < 10 ^ k := by
  have hten : (0 : ℚ) < 10 ^ d.exponent := zpow_pos (by norm_num) _
  have hone : 1 ≤ d.coefficient := Nat.one_le_iff_ne_zero.mpr hzero
  rw [Decimal.abs_toRat]
  by_cases hlarge : (k : Int) < d.exponent
  · -- The coefficient is at least one, so the number is too large.
    refine iff_of_false (by omega) (not_lt.mpr ?_)
    calc (10 : ℚ) ^ k = 10 ^ (k : Int) := (zpow_natCast 10 k).symm
      _ ≤ 10 ^ d.exponent := zpow_le_zpow_right₀ (by norm_num) hlarge.le
      _ ≤ d.coefficient * 10 ^ d.exponent := le_mul_of_one_le_left hten.le (by exact_mod_cast hone)
  · obtain ⟨m, hm⟩ : ∃ m : Nat, (k : Int) = m + d.exponent := ⟨(k - d.exponent).toNat, by omega⟩
    have hpow : (10 : ℚ) ^ k = 10 ^ m * 10 ^ d.exponent := by
      rw [← zpow_natCast 10 k, hm, zpow_add₀ (by norm_num), zpow_natCast]
    rw [hpow, mul_lt_mul_iff_left₀ hten, hm]
    have hdigits := Nat.digits_length_le_iff (b := 10) (by decide) (k := m) d.coefficient
    rw [add_le_add_iff_right, Nat.cast_le, hdigits]
    exact_mod_cast Iff.rfl

/-- So many digits behind the point, when the last one is no zero. -/
lemma fraction_iff {digits : List Nat} {e : Int} (hdigits : ∀ digit ∈ digits, digit < 10)
    (hlast : 0 ≤ e ∨ ∃ digit rest, digits = digit :: rest ∧ digit ≠ 0) (k : Nat) :
    -e ≤ k ↔ ∃ n : ℤ, numberOf digits e * 10 ^ k = n := by
  have hten : (10 : ℚ) ≠ 0 := by norm_num
  constructor
  · intro hle
    refine ⟨(Nat.ofDigits 10 digits : Nat) * 10 ^ (e + k).toNat, ?_⟩
    have hpow : (10 : ℚ) ^ (e + k).toNat = 10 ^ e * 10 ^ k := by
      rw [← zpow_natCast, Int.toNat_of_nonneg (by omega), zpow_add₀ hten, zpow_natCast]
    rw [Int.cast_mul, Int.cast_natCast, Int.cast_pow, Int.cast_ofNat, hpow, numberOf, mul_assoc]
  · rintro ⟨n, hn⟩
    by_contra hgt
    rcases hlast with hneg | ⟨digit, rest, rfl, hdigit⟩
    · omega
    · -- Otherwise the last digit would be a multiple of ten.
      obtain ⟨m, hm⟩ : ∃ m : Nat, e + k = -(m + 1) := ⟨(-(e + k) - 1).toNat, by omega⟩
      have hscale : numberOf (digit :: rest) e * 10 ^ k * 10 ^ (m + 1) =
          (Nat.ofDigits 10 (digit :: rest) : Nat) := by
        rw [numberOf, ← zpow_natCast 10 k, ← zpow_natCast 10 (m + 1), mul_assoc, mul_assoc,
          ← zpow_add₀ hten, ← zpow_add₀ hten]
        have hexponent : e + ((k : Int) + ((m + 1 : Nat) : Int)) = 0 := by
          push_cast
          omega
        rw [hexponent, zpow_zero, mul_one]
      have hcons : Nat.ofDigits 10 (digit :: rest) = digit + 10 * Nat.ofDigits 10 rest :=
        Nat.ofDigits_cons
      rw [hn] at hscale
      generalize Nat.ofDigits 10 (digit :: rest) = c at hscale hcons
      have hcast : n * 10 ^ m * 10 = c := by
        rw [mul_assoc, ← pow_succ]
        exact_mod_cast hscale
      have hlt := hdigits digit (List.mem_cons_self ..)
      omega

/-! ## What is accepted -/

/-- The decimals that are checked are those that are no zero. -/
lemma reversedDigits_of_ne_zero (hzero : d.coefficient ≠ 0) :
    reversedDigits d.coefficient = Nat.digits 10 d.coefficient ∧
      (reversedDigits d.coefficient).all (· = 0) = false := by
  rw [reversedDigits, if_neg hzero]
  refine ⟨rfl, ?_⟩
  have hne : Nat.digits 10 d.coefficient ≠ [] := Nat.digits_ne_nil_iff_ne_zero.mpr hzero
  have hlast := Nat.getLast_digit_ne_zero 10 hzero
  rw [List.all_eq_false]
  exact ⟨_, List.getLast_mem hne, by simpa using hlast⟩

lemma accepted_of_zero (hzero : d.coefficient = 0) : Accepted d := by
  unfold Accepted validateNumeric3812
  dsimp only
  rw [reversedDigits, if_pos hzero]
  rfl

/-- What the validator counts, of a decimal that is no zero. -/
lemma accepted_iff_counts (hzero : d.coefficient ≠ 0) :
    let (kept, e) := dropFractionZeros (Nat.digits 10 d.coefficient) d.exponent
    Accepted d ↔ -e ≤ 12 ∧ kept.length + e ≤ 26 := by
  obtain ⟨hdigits, hall⟩ := reversedDigits_of_ne_zero hzero
  rw [hdigits] at hall
  unfold Accepted validateNumeric3812
  dsimp only
  rw [hdigits, hall, if_neg Bool.false_ne_true]
  simp only [check_bind_ok, not_lt]
  constructor
  · rintro ⟨hfraction, hwhole, -⟩
    exact ⟨(le_max_left ..).trans hfraction, (le_max_left ..).trans hwhole⟩
  · rintro ⟨hfraction, hwhole⟩
    exact ⟨max_le hfraction (by decide), max_le hwhole (by decide), rfl⟩

/-- The sign plays no part in whether a multiple is an integer. -/
lemma exists_int_abs (q r : ℚ) : (∃ n : ℤ, |q| * r = n) ↔ ∃ n : ℤ, q * r = n := by
  rcases abs_choice q with h | h
  · rw [h]
  · rw [h]
    constructor
    · rintro ⟨n, hn⟩
      exact ⟨-n, by rw [Int.cast_neg, ← hn, neg_mul, neg_neg]⟩
    · rintro ⟨n, hn⟩
      exact ⟨-n, by rw [Int.cast_neg, ← hn, neg_mul]⟩

/-- The digits of a decimal that is no zero are accepted as its number demands. -/
lemma accepted_iff (d : Decimal) :
    Accepted d ↔ (∃ n : ℤ, d.toRat * 10 ^ 12 = n) ∧ |d.toRat| < 10 ^ 26 := by
  by_cases hzero : d.coefficient = 0
  · have hrat : d.toRat = 0 := by rw [← abs_eq_zero, Decimal.abs_toRat, hzero, Nat.cast_zero, zero_mul]
    refine iff_of_true (accepted_of_zero hzero) ⟨⟨0, ?_⟩, ?_⟩
    · rw [hrat, zero_mul, Int.cast_zero]
    · rw [hrat]
      norm_num
  · have hcounts := accepted_iff_counts hzero
    have hdropped := dropZeros_eq (Nat.digits 10 d.coefficient) d.exponent
    generalize dropFractionZeros (Nat.digits 10 d.coefficient) d.exponent = dropped at *
    obtain ⟨kept, e⟩ := dropped
    obtain ⟨hnumber, hlength, hsuffix, hlast⟩ := hdropped
    have habs : numberOf kept e = |d.toRat| := by
      rw [hnumber, numberOf, Nat.ofDigits_digits, Decimal.abs_toRat]
    have hne : kept ≠ [] := by
      rintro rfl
      rw [numberOf, Nat.ofDigits_nil, Nat.cast_zero, zero_mul, eq_comm, Decimal.abs_toRat,
        mul_eq_zero] at habs
      rcases habs with h | h
      · exact hzero (by exact_mod_cast h)
      · exact zpow_ne_zero _ (by norm_num) h
    have hsmall : ∀ digit ∈ kept, digit < 10 := fun digit hdigit =>
      Nat.digits_lt_base (by decide) (hsuffix.subset hdigit)
    have hfraction := fraction_iff hsmall (hlast.imp_right fun h => h.resolve_left hne) 12
    have hwhole := whole_iff hzero 26
    rw [habs, exists_int_abs] at hfraction
    rw [← hlength] at hwhole
    exact hcounts.trans (and_congr hfraction hwhole)

/-- **The validator accepts exactly the numbers that the column represents.**  It depends on the
number that a decimal denotes, however the decimal is written. -/
theorem validateNumeric3812_accepts_iff (d : Decimal) :
    (Accepted d ↔ (∃ n : ℤ, d.toRat * 10 ^ 12 = n) ∧ |d.toRat| < 10 ^ 26) ∧
      (Accepted d ↔ InNumeric 38 12 d.toRat) ∧
      ∀ e : Decimal, e.toRat = d.toRat → (Accepted e ↔ Accepted d) := by
  refine ⟨accepted_iff d, ?_, fun e heq => by rw [accepted_iff, accepted_iff, heq]⟩
  rw [accepted_iff]
  have hscale : (0 : ℚ) < 10 ^ 12 := by norm_num
  constructor
  · rintro ⟨⟨n, hn⟩, hlt⟩
    refine ⟨n, ?_, (eq_div_iff hscale.ne').mpr hn⟩
    have hcast : |(n : ℚ)| < 10 ^ 38 := by
      rw [← hn, abs_mul, abs_of_pos hscale]
      calc |d.toRat| * 10 ^ 12 < 10 ^ 26 * 10 ^ 12 := by gcongr
        _ = 10 ^ 38 := by norm_num
    exact_mod_cast hcast
  · rintro ⟨n, hlt, hn⟩
    refine ⟨⟨n, (eq_div_iff hscale.ne').mp hn⟩, ?_⟩
    have hcast : |(n : ℚ)| < 10 ^ 38 := by exact_mod_cast hlt
    rw [hn, abs_div, abs_of_pos hscale, div_lt_iff₀ hscale]
    calc |(n : ℚ)| < 10 ^ 38 := hcast
      _ = 10 ^ 26 * 10 ^ 12 := by norm_num

example : Accepted ⟨false, 1, 25⟩ ∧ ¬ Accepted ⟨false, 1, 26⟩ ∧ Accepted ⟨true, 1500, -14⟩ := by
  decide +kernel

end StockResearch.DataAccess
