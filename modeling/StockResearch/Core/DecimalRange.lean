import StockResearch.Core.Decimal
import Mathlib.Algebra.Order.Ring.Abs
import Mathlib.Tactic.Linarith
import Mathlib.Tactic.Ring

/-!
# Decimal arithmetic without signals

An operation raises only when its result is out of range.  `Below m a` says that `a` is below
`10 ^ m` in magnitude; it is read off the digits, and each operation adds a little to `m`, for the
rounding may take a coefficient to the next power of ten.

* `fix_of_below`, `div_of_below`, `add_of_below`, `quantize_of_below`: an operation on decimals that
  are small enough returns, and how large its result can be.
* `fix_ok_iff`: rounding returns exactly below a magnitude that the context determines.
* `le_iff_toRat`: decimals are compared by value.
-/

namespace PyDecimal

/-- The least magnitude that rounds out of the range of a context. -/
def Context.ceiling (context : Context) : ℚ :=
  (10 ^ context.prec - 1 / 2) * 10 ^ context.etop

namespace Decimal

lemma one_le_digits (n : Nat) : 1 ≤ digits n := Nat.length_toDigits_pos

lemma digits_zero : digits 0 = 1 := rfl

lemma digits_le_iff {n k : Nat} (hk : 0 < k) : digits n ≤ k ↔ n < 10 ^ k :=
  Nat.length_toDigits_le_iff (by decide) hk

lemma lt_pow_digits (n : Nat) : n < 10 ^ digits n :=
  (digits_le_iff (one_le_digits n)).mp le_rfl

/-- One digit less at the end. -/
lemma digits_div_ten {n : Nat} (h : 10 ≤ n) : digits (n / 10) + 1 = digits n := by
  have hpos : 0 < n / 10 := Nat.div_pos h (by decide)
  have hsplit := Nat.toDigits_append_toDigits (b := 10) (n := n / 10) (d := n % 10) (by decide) hpos
    (Nat.mod_lt _ (by decide))
  rw [Nat.div_add_mod] at hsplit
  unfold digits
  rw [← hsplit, List.length_append, Nat.toDigits_of_lt_base (Nat.mod_lt _ (by decide)),
    List.length_singleton]

lemma halfEven_le (n k : Nat) : halfEven n k ≤ n / 10 ^ k + 1 := by
  unfold halfEven
  dsimp only
  split_ifs <;> omega

/-- Rounding away `k` digits leaves the others, or one more. -/
lemma digits_halfEven (n k : Nat) : digits (halfEven n k) ≤ digits n - k + 1 := by
  rw [digits_le_iff (by omega : 0 < digits n - k + 1)]
  have hrounded := halfEven_le n k
  have hlt := lt_pow_digits n
  have hquotient : n / 10 ^ k < 10 ^ (digits n - k) := by
    rw [Nat.div_lt_iff_lt_mul (by positivity), ← pow_add]
    exact hlt.trans_le (Nat.pow_le_pow_right (by decide) (by omega))
  have hpow : 10 ^ (digits n - k + 1) = 10 * 10 ^ (digits n - k) := by ring
  have hpositive : 0 < 10 ^ (digits n - k) := by positivity
  omega

/-- Below `10 ^ m` in magnitude. -/
def Below (m : Int) (a : Decimal) : Prop := digits a.coefficient + a.exponent ≤ m

variable {context : Context} {a b : Decimal} {m : Int}

/-- A coefficient below a power of ten. -/
lemma below_of_lt {negative : Bool} {n : Nat} {e : Int} (h : n < 10 ^ (m - e).toNat)
    (he : e < m) : Below m ⟨negative, n, e⟩ := by
  have hdigits := (digits_le_iff (by omega)).mpr h
  unfold Below
  dsimp only
  omega

/-- **Rounding a small decimal returns.** -/
lemma fix_of_below (h : Below m a) (hprec : 1 ≤ context.prec) (htop : m + 1 ≤ context.etop)
    (htiny : context.etiny ≤ m) :
    ∃ r, fix context a = .ok r ∧ Below (m + 1) r ∧ r.negative = a.negative := by
  have hpositive := one_le_digits a.coefficient
  unfold Below at h
  unfold fix
  split_ifs with hzero
  · refine ⟨_, rfl, ?_, rfl⟩
    rw [hzero] at h
    have hone : digits 0 = 1 := rfl
    simp only [Below, hzero]
    omega
  · dsimp only
    have hover : ¬ context.etop < digits a.coefficient + a.exponent - context.prec := by omega
    rw [if_neg hover]
    by_cases hleast : max (digits a.coefficient + a.exponent - context.prec) context.etiny ≤
        a.exponent
    · rw [if_pos hleast]
      refine ⟨a, rfl, ?_, rfl⟩
      unfold Below
      omega
    · rw [if_neg hleast, rescale, if_neg hleast]
      dsimp only
      generalize hleast' : max (digits a.coefficient + a.exponent - context.prec) context.etiny =
        least at *
      have hdigits := digits_halfEven a.coefficient (least - a.exponent).toNat
      generalize halfEven a.coefficient (least - a.exponent).toNat = rounded at *
      have hbelow : digits rounded + least ≤ m + 1 := by omega
      by_cases hfits : digits rounded ≤ context.prec
      · rw [if_pos hfits, if_neg (by dsimp only; omega)]
        exact ⟨_, rfl, hbelow, rfl⟩
      · rw [if_neg hfits, if_neg (by dsimp only; omega)]
        have hten : 10 ≤ rounded := by
          by_contra hlt
          have hone := (digits_le_iff (n := rounded) (k := 1) Nat.one_pos).mpr (by omega)
          omega
        have hless := digits_div_ten hten
        refine ⟨_, rfl, ?_, rfl⟩
        simp only [Below]
        omega

lemma dropZeros_below {k n : Nat} {e : Int} (hn : 0 < n) :
    digits (dropZeros k n e).1 + (dropZeros k n e).2 = digits n + e := by
  induction k generalizing n e with
  | zero => rfl
  | succ k ih =>
      rw [dropZeros]
      split_ifs with hzero
      · have hten : 10 ≤ n := by omega
        have hless := digits_div_ten hten
        rw [ih (Nat.div_pos hten (by decide))]
        omega
      · rfl

/-- **A quotient of two numbers returns.** -/
lemma div_of_below {p q j : Nat} (hq : 0 < q) (h : p ≤ 10 ^ j * q) (hprec : 1 ≤ context.prec)
    (htop : (j : Int) + 2 ≤ context.etop) (htiny : context.etiny ≤ (j : Int) + 1) :
    ∃ r, div context (ofNat p) (ofNat q) = .ok r ∧ Below (j + 2) r ∧ r.negative = false := by
  have hpos := one_le_digits p
  have hdivisor : ¬ (ofNat q).coefficient = 0 := hq.ne'
  unfold div
  rw [if_neg hdivisor]
  by_cases hzero : (ofNat p).coefficient = 0
  · rw [if_pos hzero]
    have hsmall : Below (j + 1) ⟨false, 0, 0⟩ := by
      simp only [Below, digits_zero]
      omega
    obtain ⟨r, hr, hbelow, hsign⟩ := fix_of_below hsmall hprec (by omega) htiny
    refine ⟨r, hr, ?_, hsign⟩
    unfold Below at *
    omega
  · rw [if_neg hzero]
    have hdivisor := one_le_digits q
    have hdigits : digits p ≤ j + digits q := by
      rw [digits_le_iff (by omega), pow_add]
      exact h.trans_lt (Nat.mul_lt_mul_of_pos_left (lt_pow_digits q) (by positivity))
    dsimp only [ofNat]
    generalize hshift : (digits q - digits p + context.prec + 1 : Int) = shift
    -- The quotient is scaled by a power of ten and stays below the bound scaled in the same way.
    have hscaled : p * 10 ^ shift.toNat ≤
        q * 10 ^ (-shift).toNat * 10 ^ (j + shift).toNat := by
      have hpowers : j + shift.toNat = (-shift).toNat + (j + shift).toNat := by omega
      calc p * 10 ^ shift.toNat ≤ 10 ^ j * q * 10 ^ shift.toNat := Nat.mul_le_mul_right _ h
        _ = q * 10 ^ (j + shift.toNat) := by ring
        _ = q * 10 ^ (-shift).toNat * 10 ^ (j + shift).toNat := by rw [hpowers]; ring
    have hquotient := Nat.div_le_of_le_mul hscaled
    have hten : 10 ^ (j + 1 - (0 - 0 - shift)).toNat = 10 * 10 ^ (j + shift).toNat := by
      rw [show (j + 1 - (0 - 0 - shift) : Int).toNat = (j + shift).toNat + 1 by omega]
      ring
    have hone : 1 ≤ 10 ^ (j + shift).toNat := Nat.one_le_pow _ _ (by decide)
    have hfixed : ∀ c : Decimal, c.negative = false → Below (j + 1) c →
        ∃ r, fix context c = .ok r ∧ Below (j + 2) r ∧ r.negative = false := by
      intro c hsign hbelow
      obtain ⟨r, hr, hr', hsign'⟩ := fix_of_below hbelow hprec (by omega) htiny
      refine ⟨r, hr, ?_, hsign'.trans hsign⟩
      unfold Below at *
      omega
    by_cases hexact : p * 10 ^ shift.toNat % (q * 10 ^ (-shift).toNat) = 0
    · rw [if_neg (not_not_intro hexact)]
      have hnonzero : p ≠ 0 := hzero
      have hpositive : 0 < p * 10 ^ shift.toNat / (q * 10 ^ (-shift).toNat) := by
        refine Nat.div_pos (Nat.le_of_dvd ?_ (Nat.dvd_of_mod_eq_zero hexact)) ?_
        · positivity
        · positivity
      refine hfixed _ rfl ?_
      have hdropped := dropZeros_below (k := shift.toNat) (e := 0 - 0 - shift) hpositive
      have hlength := (digits_le_iff (n := p * 10 ^ shift.toNat / (q * 10 ^ (-shift).toNat))
        (k := (j + shift).toNat + 1) (by omega)).mpr (by rw [pow_succ]; omega)
      unfold Below
      dsimp only
      omega
    · rw [if_pos hexact]
      refine hfixed _ rfl (below_of_lt ?_ (by omega))
      rw [hten]
      split_ifs <;> omega

/-- **A sum returns.** -/
lemma add_of_below (ha : Below m a) (hb : Below m b) (hprec : 1 ≤ context.prec)
    (htop : m + 2 ≤ context.etop) (htiny : context.etiny ≤ m + 1) :
    ∃ r, add context a b = .ok r ∧ Below (m + 2) r := by
  have hpa := one_le_digits a.coefficient
  have hpb := one_le_digits b.coefficient
  unfold Below at ha hb
  have hunits : ∀ c : Decimal, digits c.coefficient + c.exponent ≤ m →
      min a.exponent b.exponent ≤ c.exponent →
      (c.inUnits (min a.exponent b.exponent)).natAbs < 10 ^ (m - min a.exponent b.exponent).toNat := by
    intro c hc he
    have hlt := lt_pow_digits c.coefficient
    have hsigned : c.signed.natAbs = c.coefficient := by
      cases hsign : c.negative <;> simp [signed, hsign]
    rw [inUnits, Int.natAbs_mul, hsigned, Int.natAbs_pow]
    calc c.coefficient * 10 ^ (c.exponent - min a.exponent b.exponent).toNat
        < 10 ^ digits c.coefficient * 10 ^ (c.exponent - min a.exponent b.exponent).toNat :=
          Nat.mul_lt_mul_of_pos_right hlt (by positivity)
      _ = 10 ^ (digits c.coefficient + (c.exponent - min a.exponent b.exponent).toNat) :=
          (pow_add ..).symm
      _ ≤ 10 ^ (m - min a.exponent b.exponent).toNat :=
          Nat.pow_le_pow_right (by decide) (by omega)
  have hua := hunits a ha (min_le_left _ _)
  have hub := hunits b hb (min_le_right _ _)
  unfold add
  dsimp only
  generalize a.inUnits (min a.exponent b.exponent) = x at *
  generalize b.inUnits (min a.exponent b.exponent) = y at *
  have hten : 10 ^ (m + 1 - min a.exponent b.exponent).toNat =
      10 * 10 ^ (m - min a.exponent b.exponent).toNat := by
    rw [show (m + 1 - min a.exponent b.exponent).toNat =
      (m - min a.exponent b.exponent).toNat + 1 by omega]
    ring
  have hsum := Int.natAbs_add_le x y
  have hlt : (x + y).natAbs < 10 ^ (m + 1 - min a.exponent b.exponent).toNat := by
    rw [hten]
    omega
  obtain ⟨r, hr, hbelow, -⟩ := fix_of_below (below_of_lt hlt (by omega)) hprec (by omega) htiny
  refine ⟨r, hr, ?_⟩
  unfold Below at *
  omega

/-- **A small decimal can be quantized.** -/
lemma quantize_of_below {e : Int} (h : Below m a) (he : context.etiny ≤ e ∧ e ≤ context.emax)
    (hdigits : m - e + 1 ≤ context.prec) (hm : m + 1 ≤ context.emax) (hme : e ≤ m) :
    ∃ r, quantize context a e = .ok r := by
  have hfix : ∀ c : Decimal, c.exponent = e →
      (c.coefficient ≠ 0 → digits c.coefficient ≤ context.prec) →
      ¬ context.etop < digits c.coefficient + e - context.prec →
      ∃ r, fix context c = .ok r := by
    intro c hc hfits hover
    unfold fix
    split_ifs with hzero
    · exact ⟨_, rfl⟩
    · have hfits := hfits hzero
      dsimp only
      rw [hc, if_neg hover, if_pos (by omega)]
      exact ⟨_, rfl⟩
  have hpositive := one_le_digits a.coefficient
  have hetop : context.etop = context.emax - context.prec + 1 := rfl
  unfold Below at h
  unfold quantize
  rw [if_neg (not_not_intro he)]
  by_cases hzero : a.coefficient = 0
  · rw [if_pos hzero]
    refine hfix _ rfl (fun h => absurd rfl h) ?_
    have hone : digits (⟨a.negative, 0, e⟩ : Decimal).coefficient = 1 := digits_zero
    omega
  · have hsmall : ¬ (context.emax < a.adjusted ∨ (context.prec : Int) < a.adjusted - e + 1) := by
      unfold adjusted
      omega
    have hexponent : (a.rescale e).exponent = e := by
      unfold rescale
      split_ifs <;> rfl
    have hrescale : digits (a.rescale e).coefficient + e ≤ m + 1 := by
      unfold rescale
      split_ifs with hle
      · have hlt : a.coefficient * 10 ^ (a.exponent - e).toNat <
            10 ^ (digits a.coefficient + (a.exponent - e).toNat) := by
          rw [pow_add]
          exact Nat.mul_lt_mul_of_pos_right (lt_pow_digits _) (by positivity)
        have hdigits := (digits_le_iff (by omega)).mpr hlt
        dsimp only
        omega
      · have hdigits := digits_halfEven a.coefficient (e - a.exponent).toNat
        dsimp only
        omega
    have hfits : ¬ (context.emax < (a.rescale e).adjusted ∨
        context.prec < digits (a.rescale e).coefficient) := by
      unfold adjusted
      omega
    rw [if_neg hzero, if_neg hsmall]
    dsimp only
    rw [if_neg hfits]
    exact hfix _ hexponent (fun _ => by omega) (by omega)

lemma abs_toRat (a : Decimal) : |a.toRat| = a.coefficient * 10 ^ a.exponent := by
  have hpow : (0 : ℚ) < 10 ^ a.exponent := zpow_pos (by norm_num) _
  have hsigned : |(a.signed : ℚ)| = a.coefficient := by
    cases hsign : a.negative <;> simp [signed, hsign]
  rw [toRat, abs_mul, hsigned, abs_of_pos hpow]

/-- Rounding reaches a power of ten from half a unit below it. -/
lemma halfEven_lt_iff {n k p : Nat} (hp : 1 ≤ p) :
    halfEven n k < 10 ^ p ↔ 2 * n < (2 * 10 ^ p - 1) * 10 ^ k := by
  have hpow : 0 < 10 ^ k := by positivity
  obtain ⟨half, hhalf⟩ : ∃ half, 10 ^ p = 2 * half := by
    obtain ⟨q, rfl⟩ : ∃ q, p = q + 1 := ⟨p - 1, by omega⟩
    exact ⟨5 * 10 ^ q, by ring⟩
  have hpositive : 0 < 10 ^ p := by positivity
  have hmod := Nat.mod_lt n hpow
  have hsplit := Nat.div_add_mod n (10 ^ k)
  unfold halfEven
  dsimp only
  generalize n / 10 ^ k = q at *
  generalize n % 10 ^ k = r at *
  generalize 10 ^ p = t at *
  generalize 10 ^ k = u at *
  subst hsplit
  obtain hlt | heq | hgt : q + 1 < t ∨ q + 1 = t ∨ t ≤ q := by omega
  · have hleft : (if u < 2 * r ∨ 2 * r = u ∧ q % 2 = 1 then q + 1 else q) < t := by
      split_ifs <;> omega
    have hright : 2 * (u * q + r) < (2 * t - 1) * u := by
      obtain ⟨s, rfl⟩ : ∃ s, t = q + 2 + s := ⟨t - q - 2, by omega⟩
      have : 2 * (q + 2 + s) - 1 = 2 * q + 3 + 2 * s := by omega
      rw [this]
      nlinarith
    exact iff_of_true hleft hright
  · subst heq
    have hodd : q % 2 = 1 := by omega
    have : 2 * (q + 1) - 1 = 2 * q + 1 := by omega
    rw [this]
    have hright : 2 * (u * q + r) < (2 * q + 1) * u ↔ 2 * r < u := by
      constructor <;> intro h <;> nlinarith
    rw [hright]
    split_ifs with hround <;> omega
  · have hright : (2 * t - 1) * u ≤ 2 * (u * q + r) := by
      have : (2 * t - 1) * u ≤ (2 * q) * u := Nat.mul_le_mul_right _ (by omega)
      nlinarith
    constructor
    · intro h
      split_ifs at h <;> omega
    · intro h
      omega

lemma pow_le_of_digits {n k : Nat} (hn : n ≠ 0) (h : k < digits n) : 10 ^ k ≤ n := by
  rcases Nat.eq_zero_or_pos k with rfl | hk
  · rw [pow_zero]
    exact Nat.pos_of_ne_zero hn
  · exact not_lt.mp fun hlt => absurd ((digits_le_iff hk).mpr hlt) (by omega)

/-- Rounding returns when the last digit that it keeps is in range, and is not carried out of it. -/
lemma fix_ok_iff_carry (hprec : 1 ≤ context.prec) (htiny : context.etiny ≤ context.etop)
    (hzero : a.coefficient ≠ 0) :
    (∃ r, fix context a = .ok r) ↔
      digits a.coefficient + a.exponent - context.prec ≤ context.etop ∧
      (digits a.coefficient + a.exponent - context.prec = context.etop →
        a.exponent < context.etop →
          halfEven a.coefficient (context.etop - a.exponent).toNat < 10 ^ context.prec) := by
  unfold fix
  rw [if_neg hzero]
  dsimp only
  by_cases hover : context.etop < digits a.coefficient + a.exponent - context.prec
  · rw [if_pos hover]
    exact iff_of_false (by simp) fun h => absurd h.1 hover.not_ge
  rw [if_neg hover]
  generalize hleast : max (digits a.coefficient + a.exponent - context.prec) context.etiny = least
  by_cases hkept : least ≤ a.exponent
  · rw [if_pos hkept]
    exact iff_of_true ⟨_, rfl⟩ ⟨not_lt.mp hover, fun heq hlt => by omega⟩
  rw [if_neg hkept, rescale, if_neg hkept]
  dsimp only
  have hdigits := digits_halfEven a.coefficient (least - a.exponent).toNat
  by_cases hfits : digits (halfEven a.coefficient (least - a.exponent).toNat) ≤ context.prec
  · rw [if_pos hfits, if_neg (by dsimp only; omega)]
    refine iff_of_true ⟨_, rfl⟩ ⟨not_lt.mp hover, fun heq _ => ?_⟩
    rw [show context.etop = least by omega]
    exact (digits_le_iff (by omega)).mp hfits
  · rw [if_neg hfits]
    by_cases hcarry : context.etop < least + 1
    · rw [if_pos hcarry]
      refine iff_of_false (by simp) fun h => hfits ?_
      have heq : least = context.etop := by omega
      rw [heq, digits_le_iff (by omega)]
      exact h.2 (by omega) (by omega)
    · rw [if_neg hcarry]
      exact iff_of_true ⟨_, rfl⟩ ⟨not_lt.mp hover, fun heq _ => by omega⟩

/-- **Rounding returns exactly below the ceiling of the context.** -/
lemma fix_ok_iff (hprec : 1 ≤ context.prec) (htiny : context.etiny ≤ context.etop) :
    (∃ r, fix context a = .ok r) ↔ |a.toRat| < context.ceiling := by
  have hten : (10 : ℚ) ≠ 0 := by norm_num
  have hone : (1 : ℚ) ≤ 10 := by norm_num
  have htop : (0 : ℚ) < 10 ^ context.etop := zpow_pos (by norm_num) _
  have hunit : (0 : ℚ) < 10 ^ a.exponent := zpow_pos (by norm_num) _
  have hceiling : context.ceiling = 10 ^ (context.prec + context.etop) - 10 ^ context.etop / 2 := by
    rw [Context.ceiling, zpow_add₀ hten, zpow_natCast]
    ring
  by_cases hzero : a.coefficient = 0
  · have hpowers : (1 : ℚ) ≤ 10 ^ context.prec := one_le_pow₀ hone
    rw [abs_toRat, hzero, Nat.cast_zero, zero_mul]
    refine iff_of_true ?_ (mul_pos (by linarith) htop)
    unfold fix
    rw [if_pos hzero]
    exact ⟨_, rfl⟩
  rw [fix_ok_iff_carry hprec htiny hzero, abs_toRat]
  have hupper : (a.coefficient : ℚ) + 1 ≤ 10 ^ digits a.coefficient := by
    exact_mod_cast lt_pow_digits a.coefficient
  have hdigits := one_le_digits a.coefficient
  have hpower : (10 : ℚ) ^ (digits a.coefficient + a.exponent) =
      10 ^ digits a.coefficient * 10 ^ a.exponent := by
    rw [zpow_add₀ hten, zpow_natCast]
  rcases lt_trichotomy (digits a.coefficient + a.exponent - context.prec) context.etop with
    hlast | hlast | hlast
  · refine iff_of_true ⟨hlast.le, fun heq => absurd heq hlast.ne⟩ ?_
    have hstep : (10 : ℚ) ^ (digits a.coefficient + a.exponent) ≤
        10 ^ (context.prec + context.etop - 1) := zpow_le_zpow_right₀ hone (by omega)
    have hlower : (10 : ℚ) ^ context.etop ≤ 10 ^ (context.prec + context.etop - 1) :=
      zpow_le_zpow_right₀ hone (by omega)
    have hten' : (10 : ℚ) ^ (context.prec + context.etop) =
        10 * 10 ^ (context.prec + context.etop - 1) := by
      rw [← zpow_one_add₀ hten]
      congr 1
      ring
    rw [hpower] at hstep
    rw [hceiling, hten']
    nlinarith
  · by_cases hkept : context.etop ≤ a.exponent
    · refine iff_of_true ⟨hlast.le, fun _ hlt => absurd hkept hlt.not_ge⟩ ?_
      have hstep : (10 : ℚ) ^ context.etop ≤ 10 ^ a.exponent := zpow_le_zpow_right₀ hone hkept
      rw [hceiling, show context.prec + context.etop = digits a.coefficient + a.exponent by omega,
        hpower]
      nlinarith
    · -- The carry is compared in units of the last digit of `a`.
      have hscale : (10 : ℚ) ^ context.etop =
          10 ^ (context.etop - a.exponent).toNat * 10 ^ a.exponent := by
        rw [← zpow_natCast, ← zpow_add₀ hten]
        congr 1
        omega
      have hcast : ((2 * 10 ^ context.prec - 1 : Nat) : ℚ) = 2 * 10 ^ context.prec - 1 := by
        have hle : 1 ≤ 2 * 10 ^ context.prec := by
          have := Nat.one_le_pow context.prec 10 (by decide)
          omega
        push_cast [hle]
        rfl
      rw [Context.ceiling, hscale, ← mul_assoc, mul_lt_mul_iff_of_pos_right hunit]
      have hcarry : halfEven a.coefficient (context.etop - a.exponent).toNat < 10 ^ context.prec ↔
          (a.coefficient : ℚ) < (10 ^ context.prec - 1 / 2) *
            10 ^ (context.etop - a.exponent).toNat := by
        rw [halfEven_lt_iff hprec, ← Nat.cast_lt (α := ℚ), Nat.cast_mul, Nat.cast_mul, hcast,
          Nat.cast_pow]
        simp only [Nat.cast_ofNat]
        constructor <;> intro h <;> linarith
      rw [← hcarry]
      exact ⟨fun h => h.2 hlast (by omega), fun h => ⟨hlast.le, fun _ _ => h⟩⟩
  · refine iff_of_false (fun h => absurd h.1 hlast.not_ge) (not_lt.mpr ?_)
    have hlarge := pow_le_of_digits hzero (Nat.sub_lt hdigits Nat.one_pos)
    calc context.ceiling ≤ (10 : ℚ) ^ (context.prec + context.etop) := by
          rw [hceiling]
          linarith
      _ ≤ 10 ^ (((digits a.coefficient - 1 : Nat) : Int) + a.exponent) :=
          zpow_le_zpow_right₀ hone (by omega)
      _ = (10 ^ (digits a.coefficient - 1) : Nat) * 10 ^ a.exponent := by
          rw [zpow_add₀ hten, zpow_natCast, Nat.cast_pow, Nat.cast_ofNat]
      _ ≤ a.coefficient * 10 ^ a.exponent :=
          mul_le_mul_of_nonneg_right (by exact_mod_cast hlarge) hunit.le

/-- **A decimal can be negated exactly below the ceiling of the context.** -/
lemma neg_ok_iff (hprec : 1 ≤ context.prec) (htiny : context.etiny ≤ context.etop) :
    (∃ r, neg context a = .ok r) ↔ |a.toRat| < context.ceiling := by
  unfold neg
  rw [fix_ok_iff hprec htiny, abs_toRat, abs_toRat]
  split_ifs <;> rfl

/-- **Decimals are compared by value.** -/
lemma le_iff_toRat {a b : Decimal} : a ≤ b ↔ a.toRat ≤ b.toRat := by
  have hpow : (0 : ℚ) < 10 ^ min a.exponent b.exponent := zpow_pos (by norm_num) _
  rw [toRat_inUnits (min_le_left a.exponent b.exponent),
    toRat_inUnits (min_le_right a.exponent b.exponent), mul_le_mul_iff_of_pos_right hpow,
    Int.cast_le]
  rfl

end Decimal

end PyDecimal
