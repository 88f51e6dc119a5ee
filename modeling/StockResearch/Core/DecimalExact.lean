import StockResearch.Core.DecimalRange

/-!
# When rounding changes nothing

`Terse p q` says that a number can be written with `p` significant digits.  A decimal whose exponent
is well inside the range of the context is rounded to itself exactly when it is terse for the
precision: what is cut off are zeros then.

* `halfEven_of_dvd`: cutting off zeros.
* **`fix_exact`**: rounding returns, and is exact on terse numbers only.
* `mul_exact`, `sub_exact`: the same for products and differences.
-/

namespace PyDecimal

/-- A number with so many significant digits at most. -/
def Terse (p : Nat) (q : ℚ) : Prop := ∃ m e : ℤ, |m| < 10 ^ p ∧ q = m * 10 ^ e

lemma terse_mul_pow {p : Nat} {q : ℚ} (k : ℤ) : Terse p (q * 10 ^ k) ↔ Terse p q := by
  have hten : (10 : ℚ) ≠ 0 := by norm_num
  constructor
  · rintro ⟨m, e, hm, hq⟩
    refine ⟨m, e - k, hm, ?_⟩
    rw [zpow_sub₀ hten, ← mul_div_assoc, ← hq, mul_div_assoc, div_self (zpow_ne_zero k hten),
      mul_one]
  · rintro ⟨m, e, hm, rfl⟩
    exact ⟨m, e + k, hm, by rw [zpow_add₀ hten, mul_assoc]⟩

namespace Decimal

variable {context : Context} {a b r : Decimal}

/-- The number of a decimal, up to its sign. -/
lemma toRat_eq_zero : a.toRat = 0 ↔ a.coefficient = 0 := by
  rw [← abs_eq_zero, abs_toRat, mul_eq_zero]
  simp [zpow_ne_zero]

/-- Cutting off zeros. -/
lemma halfEven_of_dvd {n k : Nat} (h : 10 ^ k ∣ n) : halfEven n k = n / 10 ^ k := by
  have hpow : 0 < 10 ^ k := by positivity
  have hzero : n % 10 ^ k = 0 := Nat.mod_eq_zero_of_dvd h
  rw [halfEven, hzero]
  refine if_neg ?_
  omega

/-- The decimal with `k` digits cut off, when they are zeros. -/
lemma toRat_cut {k : Nat} (h : 10 ^ k ∣ a.coefficient) :
    (⟨a.negative, a.coefficient / 10 ^ k, a.exponent + k⟩ : Decimal).toRat = a.toRat := by
  obtain ⟨n, hn⟩ := h
  have hpow : 0 < 10 ^ k := by positivity
  have hcast : (10 : ℚ) ^ (a.exponent + k) = 10 ^ k * 10 ^ a.exponent := by
    rw [zpow_add₀ (by norm_num), zpow_natCast, mul_comm]
  cases hsign : a.negative <;>
    simp [toRat, signed, hsign, hn, Nat.mul_div_cancel_left _ hpow, hcast] <;> ring

/-- What rounding returns has no more digits than the precision. -/
lemma terse_of_fix (hprec : 1 ≤ context.prec) (h : fix context a = .ok r) :
    Terse context.prec r.toRat := by
  have hterse : ∀ c : Decimal, digits c.coefficient ≤ context.prec → Terse context.prec c.toRat := by
    intro c hc
    refine ⟨c.signed, c.exponent, ?_, rfl⟩
    have hsigned : |c.signed| = c.coefficient := by
      cases hsign : c.negative <;> simp [signed, hsign]
    rw [hsigned]
    exact_mod_cast (digits_le_iff hprec).mp hc
  unfold fix at h
  split_ifs at h with hzero
  · cases h
    refine hterse _ ?_
    dsimp only
    rw [hzero, digits_zero]
    exact hprec
  · dsimp only at h
    split_ifs at h with hover hleast hfits hcarry hcarry
    · cases h
      exact hterse _ (by omega)
    · cases h
      exact hterse _ hfits
    · cases h
      refine hterse _ ?_
      rw [rescale, if_neg hleast] at hfits ⊢
      dsimp only at hfits ⊢
      have hdigits := digits_halfEven a.coefficient
        (max (digits a.coefficient + a.exponent - context.prec) context.etiny - a.exponent).toNat
      generalize halfEven a.coefficient _ = rounded at *
      have hten : 10 ≤ rounded := by
        by_contra hlt
        have hone := (digits_le_iff (n := rounded) (k := 1) Nat.one_pos).mpr (by omega)
        omega
      have hless := digits_div_ten hten
      omega

/-- The digits of a terse number beyond the precision are zeros. -/
lemma dvd_of_terse {p k : Nat} (hzero : a.coefficient ≠ 0) (hterse : Terse p a.toRat)
    (hdigits : p + k ≤ digits a.coefficient) : 10 ^ k ∣ a.coefficient := by
  have hten : (10 : ℚ) ≠ 0 := by norm_num
  obtain ⟨m, e, hm, hq⟩ := hterse
  have habs : (a.coefficient : ℚ) = |m| * 10 ^ (e - a.exponent) := by
    have h := abs_toRat a
    rw [hq, abs_mul, abs_of_pos (zpow_pos (by norm_num : (0 : ℚ) < 10) e)] at h
    rw [zpow_sub₀ hten, ← mul_div_assoc, eq_div_iff (zpow_ne_zero _ hten), ← h]
    push_cast
    rfl
  by_cases hk : (k : ℤ) ≤ e - a.exponent
  · obtain ⟨j, hj⟩ : ∃ j : Nat, e - a.exponent = k + j := ⟨(e - a.exponent - k).toNat, by omega⟩
    refine ⟨m.natAbs * 10 ^ j, ?_⟩
    rw [hj, zpow_add₀ hten, zpow_natCast, zpow_natCast] at habs
    have hnat : (a.coefficient : ℚ) = (10 ^ k * (m.natAbs * 10 ^ j) : Nat) := by
      rw [habs, Nat.cast_mul, Nat.cast_mul, Nat.cast_natAbs, Nat.cast_pow, Nat.cast_pow]
      push_cast
      ring
    exact_mod_cast hnat
  · -- Otherwise the coefficient would be too small for its digits.
    have hpk : 1 ≤ p + k := by
      rcases Nat.eq_zero_or_pos (p + k) with h | h
      · obtain ⟨rfl, rfl⟩ : p = 0 ∧ k = 0 := by omega
        have hm0 : |m| = 0 := by
          have := abs_nonneg m
          rw [pow_zero] at hm
          omega
        rw [hm0, Int.cast_zero, zero_mul] at habs
        exact absurd (by exact_mod_cast habs) hzero
      · exact h
    have hlt : a.coefficient < 10 ^ (p + k - 1) := by
      have hpow : (10 : ℚ) ^ (e - a.exponent) ≤ 10 ^ ((k : ℤ) - 1) :=
        zpow_le_zpow_right₀ (by norm_num) (by omega)
      have hmq : ((|m| : ℤ) : ℚ) < 10 ^ p := by exact_mod_cast hm
      have hbound : (a.coefficient : ℚ) < 10 ^ (p + k - 1) := by
        calc (a.coefficient : ℚ) = |m| * 10 ^ (e - a.exponent) := habs
          _ ≤ |m| * 10 ^ ((k : ℤ) - 1) :=
            mul_le_mul_of_nonneg_left hpow (by exact_mod_cast abs_nonneg m)
          _ < 10 ^ p * 10 ^ ((k : ℤ) - 1) :=
            mul_lt_mul_of_pos_right hmq (zpow_pos (by norm_num) _)
          _ = 10 ^ (p + k - 1) := by
            rw [← zpow_natCast, ← zpow_add₀ hten, ← zpow_natCast]
            congr 1
            omega
      exact_mod_cast hbound
    rcases Nat.eq_zero_or_pos (p + k - 1) with h | h
    · rw [h, pow_zero, Nat.lt_one_iff] at hlt
      exact absurd hlt hzero
    · have hle := (digits_le_iff h).mpr hlt
      omega

/-- **Rounding is exact on terse numbers**, where the exponent leaves room. -/
theorem fix_exact (hprec : 1 ≤ context.prec)
    (hroom : a.coefficient ≠ 0 → context.etiny + context.prec ≤ digits a.coefficient + a.exponent)
    (h : fix context a = .ok r) : r.toRat = a.toRat ↔ Terse context.prec a.toRat := by
  constructor
  · intro heq
    rw [← heq]
    exact terse_of_fix hprec h
  intro hterse
  unfold fix at h
  split_ifs at h with hzero
  · cases h
    rw [toRat_eq_zero.mpr hzero, toRat_eq_zero]
    exact hzero
  have hroom := hroom hzero
  dsimp only at h
  rw [max_eq_left (by omega)] at h
  split_ifs at h with hover hleast hfits hcarry hcarry
  · cases h
    rfl
  · -- The digits that are cut off are zeros.
    obtain ⟨k, hk⟩ : ∃ k : Nat, digits a.coefficient = context.prec + k :=
      ⟨digits a.coefficient - context.prec, by omega⟩
    have hdvd := dvd_of_terse hzero hterse hk.ge
    have hcut : ((digits a.coefficient : ℤ) + a.exponent - context.prec - a.exponent).toNat = k := by
      omega
    have hexponent : (digits a.coefficient : ℤ) + a.exponent - context.prec = a.exponent + k := by
      omega
    cases h
    rw [rescale, if_neg hleast, hcut, halfEven_of_dvd hdvd, hexponent]
    exact toRat_cut hdvd
  · obtain ⟨k, hk⟩ : ∃ k : Nat, digits a.coefficient = context.prec + k :=
      ⟨digits a.coefficient - context.prec, by omega⟩
    have hdvd := dvd_of_terse hzero hterse hk.ge
    have hcut : ((digits a.coefficient : ℤ) + a.exponent - context.prec - a.exponent).toNat = k := by
      omega
    rw [rescale, if_neg hleast, hcut, halfEven_of_dvd hdvd] at hfits
    refine absurd ?_ hfits
    rw [digits_le_iff hprec, Nat.div_lt_iff_lt_mul (by positivity), ← pow_add, ← hk]
    exact lt_pow_digits _

lemma digits_of_range {lo hi : ℤ} (hzero : a.coefficient ≠ 0) (hlo : 10 ^ lo ≤ |a.toRat|)
    (hhi : |a.toRat| < 10 ^ hi) :
    lo < digits a.coefficient + a.exponent ∧ digits a.coefficient + a.exponent ≤ hi := by
  have hten : (10 : ℚ) ≠ 0 := by norm_num
  have hone : (1 : ℚ) < 10 := by norm_num
  have hunit : (0 : ℚ) < 10 ^ a.exponent := zpow_pos (by norm_num) _
  have hdigits := one_le_digits a.coefficient
  rw [abs_toRat] at hlo hhi
  constructor
  · have hupper : (a.coefficient : ℚ) < 10 ^ digits a.coefficient := by
      exact_mod_cast lt_pow_digits a.coefficient
    have hlt : (10 : ℚ) ^ lo < 10 ^ ((digits a.coefficient : ℤ) + a.exponent) := by
      rw [zpow_add₀ hten, zpow_natCast]
      exact hlo.trans_lt (mul_lt_mul_of_pos_right hupper hunit)
    exact (zpow_lt_zpow_iff_right₀ hone).mp hlt
  · have hlower : (10 : ℚ) ^ (digits a.coefficient - 1) ≤ a.coefficient := by
      exact_mod_cast pow_le_of_digits hzero (by omega)
    have hlt : (10 : ℚ) ^ ((digits a.coefficient : ℤ) - 1 + a.exponent) < 10 ^ hi := by
      rw [zpow_add₀ hten]
      refine lt_of_le_of_lt (mul_le_mul_of_nonneg_right ?_ hunit.le) hhi
      rw [← zpow_natCast] at hlower
      exact (by push_cast [hdigits] at hlower; exact hlower)
    have hlt' := (zpow_lt_zpow_iff_right₀ hone).mp hlt
    omega

/-- **Rounding returns, and is exact on terse numbers**, in a range of magnitudes. -/
theorem fix_exact_of_range {lo hi : ℤ} (hprec : 1 ≤ context.prec)
    (hlow : context.etiny + context.prec ≤ lo) (hhigh : hi < context.etop)
    (htiny : context.etiny ≤ hi)
    (hrange : a.toRat ≠ 0 → 10 ^ lo ≤ |a.toRat| ∧ |a.toRat| < 10 ^ hi) :
    ∃ r, fix context a = .ok r ∧ (r.toRat = a.toRat ↔ Terse context.prec a.toRat) := by
  obtain ⟨r, hr⟩ : ∃ r, fix context a = .ok r := by
    by_cases hzero : a.coefficient = 0
    · exact ⟨_, by rw [fix, if_pos hzero]⟩
    · obtain ⟨hlo, hhi⟩ := hrange (mt toRat_eq_zero.mp hzero)
      obtain ⟨r, hr, -⟩ := fix_of_below (digits_of_range hzero hlo hhi).2 hprec (by omega) htiny
      exact ⟨r, hr⟩
  refine ⟨r, hr, fix_exact hprec (fun hzero => ?_) hr⟩
  obtain ⟨hlo, hhi⟩ := hrange (mt toRat_eq_zero.mp hzero)
  have hdigits := (digits_of_range hzero hlo hhi).1
  omega

/-! ## Products and differences -/

lemma toRat_product (a b : Decimal) :
    (⟨a.negative ^^ b.negative, a.coefficient * b.coefficient, a.exponent + b.exponent⟩ :
      Decimal).toRat = a.toRat * b.toRat := by
  have hpow : (10 : ℚ) ^ (a.exponent + b.exponent) = 10 ^ a.exponent * 10 ^ b.exponent :=
    zpow_add₀ (by norm_num) _ _
  cases ha : a.negative <;> cases hb : b.negative <;>
    simp [toRat, signed, ha, hb, hpow] <;> ring

/-- **A product returns, and is exact when it is terse.** -/
theorem mul_exact {lo hi : ℤ} (hprec : 1 ≤ context.prec)
    (hlow : context.etiny + context.prec ≤ lo) (hhigh : hi < context.etop)
    (htiny : context.etiny ≤ hi) (hrange : a.toRat * b.toRat ≠ 0 →
      10 ^ lo ≤ |a.toRat * b.toRat| ∧ |a.toRat * b.toRat| < 10 ^ hi) :
    ∃ r, a.mul context b = .ok r ∧
      (r.toRat = a.toRat * b.toRat ↔ Terse context.prec (a.toRat * b.toRat)) := by
  rw [← toRat_product] at hrange ⊢
  exact fix_exact_of_range hprec hlow hhigh htiny hrange

/-- **A difference returns, and is exact when it is terse.** -/
theorem sub_exact {lo hi : ℤ} (hprec : 1 ≤ context.prec)
    (hlow : context.etiny + context.prec ≤ lo) (hhigh : hi < context.etop)
    (htiny : context.etiny ≤ hi) (hrange : a.toRat - b.toRat ≠ 0 →
      10 ^ lo ≤ |a.toRat - b.toRat| ∧ |a.toRat - b.toRat| < 10 ^ hi) :
    ∃ r, a.sub context b = .ok r ∧
      (r.toRat = a.toRat - b.toRat ↔ Terse context.prec (a.toRat - b.toRat)) := by
  have hexponent : b.copyNegate.exponent = b.exponent := rfl
  have hdifference : ∀ negative : Bool,
      (a.inUnits (min a.exponent b.exponent) - b.inUnits (min a.exponent b.exponent) ≠ 0 →
        negative = (a.inUnits (min a.exponent b.exponent) -
          b.inUnits (min a.exponent b.exponent) < 0 : Bool)) →
      (⟨negative, (a.inUnits (min a.exponent b.exponent) -
        b.inUnits (min a.exponent b.exponent)).natAbs, min a.exponent b.exponent⟩ :
          Decimal).toRat = a.toRat - b.toRat := by
    intro negative hsign
    rw [toRat_inUnits (min_le_left a.exponent b.exponent),
      toRat_inUnits (min_le_right a.exponent b.exponent), ← sub_mul, toRat, signed_of_natAbs hsign]
    push_cast
    rfl
  unfold sub add
  simp only [inUnits_copyNegate, hexponent, ← sub_eq_add_neg]
  rw [← hdifference _ fun hn => if_neg hn] at hrange ⊢
  exact fix_exact_of_range hprec hlow hhigh htiny hrange

end Decimal

end PyDecimal
