import Mathlib.Algebra.Order.Ring.Rat
import Mathlib.Tactic.Common
import Mathlib.Tactic.NormNum

/-!
# Decimal arithmetic

A finite `Decimal` is a sign, a coefficient and an exponent.  An operation computes its exact result
and lets the context round it to `prec` digits, half to even; a result whose exponent leaves the
range of the context raises.  Zeros keep their sign and their exponent, as in Python, so two
decimals can be equal as numbers without being the same decimal: comparison is by value.
-/

namespace PyDecimal

/-- A finite `Decimal`. -/
structure Decimal where
  negative : Bool
  coefficient : Nat
  exponent : Int
deriving DecidableEq, Repr

/-- The trapped signals. -/
inductive Signal where
  | overflow | divisionByZero | invalidOperation
deriving DecidableEq, Repr

/-- The part of a context that arithmetic reads; rounding is `ROUND_HALF_EVEN`. -/
structure Context where
  prec : Nat
  emin : Int
  emax : Int

/-- `DefaultContext` -/
def defaultContext : Context := ⟨28, -999999, 999999⟩

namespace Context

/-- The least exponent of a subnormal number. -/
def etiny (context : Context) : Int := context.emin - context.prec + 1

/-- The greatest exponent of a full coefficient. -/
def etop (context : Context) : Int := context.emax - context.prec + 1

end Context

namespace Decimal

instance (n : Nat) : OfNat Decimal n := ⟨⟨false, n, 0⟩⟩

/-- `Decimal(n)` -/
def ofNat (n : Nat) : Decimal := ⟨false, n, 0⟩

/-- The number of digits of the coefficient. -/
def digits (n : Nat) : Nat := (Nat.toDigits 10 n).length

/-- The exponent of the leading digit. -/
def adjusted (a : Decimal) : Int := a.exponent + digits a.coefficient - 1

/-- The coefficient with its sign. -/
def signed (a : Decimal) : Int := if a.negative then -a.coefficient else a.coefficient

/-- The coefficient with its sign, counted in units of `10 ^ e`, for `e` at most the exponent. -/
def inUnits (a : Decimal) (e : Int) : Int := a.signed * 10 ^ (a.exponent - e).toNat

/-- The number that a decimal denotes. -/
def toRat (a : Decimal) : ℚ := a.signed * 10 ^ a.exponent

/-- `n / 10 ** k`, half to even. -/
def halfEven (n k : Nat) : Nat :=
  let q := n / 10 ^ k
  let r := n % 10 ^ k
  if 10 ^ k < 2 * r ∨ 2 * r = 10 ^ k ∧ q % 2 = 1 then q + 1 else q

def rescale (a : Decimal) (e : Int) : Decimal :=
  if e ≤ a.exponent then ⟨a.negative, a.coefficient * 10 ^ (a.exponent - e).toNat, e⟩
  else ⟨a.negative, halfEven a.coefficient (e - a.exponent).toNat, e⟩

def fix (context : Context) (a : Decimal) : Except Signal Decimal :=
  if a.coefficient = 0 then
    .ok { a with exponent := min (max a.exponent context.etiny) context.emax }
  else
    let least := digits a.coefficient + a.exponent - context.prec
    if context.etop < least then .error .overflow
    else
      let least := max least context.etiny
      if least ≤ a.exponent then .ok a
      else
        let rounded := a.rescale least
        -- Rounding up may take one digit more than the precision has.
        let rounded := if digits rounded.coefficient ≤ context.prec then rounded
          else ⟨rounded.negative, rounded.coefficient / 10, rounded.exponent + 1⟩
        if context.etop < rounded.exponent then .error .overflow else .ok rounded

/-- A decimal from a coefficient with its sign. -/
def ofSigned (n e : Int) : Decimal := ⟨n < 0, n.natAbs, e⟩

/-- `a + b`; the sum is negative zero only if both are negative. -/
def add (context : Context) (a b : Decimal) : Except Signal Decimal :=
  let e := min a.exponent b.exponent
  let n := a.inUnits e + b.inUnits e
  fix context ⟨if n = 0 then a.negative && b.negative && a.coefficient = 0 else n < 0, n.natAbs, e⟩

/-- `a.copy_negate()` -/
def copyNegate (a : Decimal) : Decimal := { a with negative := !a.negative }

/-- `a - b` -/
def sub (context : Context) (a b : Decimal) : Except Signal Decimal := add context a b.copyNegate

/-- `-a` -/
def neg (context : Context) (a : Decimal) : Except Signal Decimal :=
  fix context (if a.coefficient = 0 then { a with negative := false } else a.copyNegate)

/-- `abs(a)` -/
def abs (context : Context) (a : Decimal) : Except Signal Decimal :=
  fix context { a with negative := false }

/-- `a * b` -/
def mul (context : Context) (a b : Decimal) : Except Signal Decimal :=
  fix context ⟨a.negative ^^ b.negative, a.coefficient * b.coefficient, a.exponent + b.exponent⟩

/-- Drop zeros from the end of a coefficient, so many at most. -/
def dropZeros : Nat → Nat → Int → Nat × Int
  | 0, n, e => (n, e)
  | k + 1, n, e => if n % 10 = 0 then dropZeros k (n / 10) (e + 1) else (n, e)

/-- `a / b` -/
def div (context : Context) (a b : Decimal) : Except Signal Decimal :=
  if b.coefficient = 0 then
    .error (if a.coefficient = 0 then .invalidOperation else .divisionByZero)
  else if a.coefficient = 0 then
    fix context ⟨a.negative ^^ b.negative, 0, a.exponent - b.exponent⟩
  else
    let shift : Int := digits b.coefficient - digits a.coefficient + context.prec + 1
    let ideal := a.exponent - b.exponent
    let m := a.coefficient * 10 ^ shift.toNat
    let n := b.coefficient * 10 ^ (-shift).toNat
    let q := m / n
    -- An inexact quotient must not look like a tie.
    let (q, e) := if m % n ≠ 0 then (if q % 5 = 0 then q + 1 else q, ideal - shift)
      else dropZeros shift.toNat q (ideal - shift)
    fix context ⟨a.negative ^^ b.negative, q, e⟩

/-- `a.quantize(Decimal((0, (1,), e)))` -/
def quantize (context : Context) (a : Decimal) (e : Int) : Except Signal Decimal :=
  if ¬ (context.etiny ≤ e ∧ e ≤ context.emax) then .error .invalidOperation
  else if a.coefficient = 0 then fix context ⟨a.negative, 0, e⟩
  else if context.emax < a.adjusted ∨ (context.prec : Int) < a.adjusted - e + 1 then
    .error .invalidOperation
  else
    let rescaled := a.rescale e
    if context.emax < rescaled.adjusted ∨ context.prec < digits rescaled.coefficient then
      .error .invalidOperation
    else fix context rescaled

/-- `a <= b` -/
instance : LE Decimal where
  le a b := a.inUnits (min a.exponent b.exponent) ≤ b.inUnits (min a.exponent b.exponent)

instance (a b : Decimal) : Decidable (a ≤ b) := inferInstanceAs (Decidable (_ ≤ (_ : Int)))

/-- `a == b`: the same number, whatever the exponents. -/
def equal (a b : Decimal) : Bool := decide (a ≤ b) && decide (b ≤ a)

@[simp] lemma equal_self (a : Decimal) : a.equal a = true := by
  have hle : a ≤ a := Int.le_refl _
  simp [equal, hle]

/-- `str(a)` -/
def str (a : Decimal) : String :=
  let ds := Nat.toDigits 10 a.coefficient
  let leftDigits : Int := a.exponent + ds.length
  let dotPlace : Int := if a.exponent ≤ 0 ∧ -6 < leftDigits then leftDigits else 1
  let body :=
    if dotPlace ≤ 0 then '0' :: '.' :: List.replicate (-dotPlace).toNat '0' ++ ds
    else if ds.length ≤ dotPlace then ds ++ List.replicate (dotPlace - ds.length).toNat '0'
    else ds.take dotPlace.toNat ++ '.' :: ds.drop dotPlace.toNat
  let power := leftDigits - dotPlace
  let suffix :=
    if power = 0 then []
    else 'E' :: (if 0 < power then '+' else '-') :: Nat.toDigits 10 power.natAbs
  String.ofList ((if a.negative then ['-'] else []) ++ body ++ suffix)

example : (⟨true, 1250, -2⟩ : Decimal).str = "-12.50" ∧ (⟨false, 5, -9⟩ : Decimal).str = "5E-9" ∧
    (⟨false, 12, 3⟩ : Decimal).str = "1.2E+4" := by decide +kernel

/-! ## Exact operations -/

/-- Writing a decimal with a smaller exponent does not change the number. -/
lemma toRat_rescale {a : Decimal} {e : Int} (h : e ≤ a.exponent) :
    (a.rescale e).toRat = a.toRat := by
  have hexponent : ((a.exponent - e).toNat : Int) = a.exponent - e := Int.toNat_of_nonneg (by omega)
  have hpow : (10 : ℚ) ^ (a.exponent - e).toNat * 10 ^ e = 10 ^ a.exponent := by
    rw [← zpow_natCast, hexponent, ← zpow_add₀ (by norm_num), sub_add_cancel]
  rw [rescale, if_pos h, toRat, toRat, ← hpow]
  cases hsign : a.negative <;> simp [signed, hsign, mul_assoc]

/-- A decimal with few enough digits and an exponent in range is left as it is. -/
lemma fix_of_fits {context : Context} {a r : Decimal}
    (hdigits : a.coefficient ≠ 0 → digits a.coefficient ≤ context.prec)
    (htiny : context.etiny ≤ a.exponent) (hmax : a.exponent ≤ context.emax)
    (h : fix context a = .ok r) : r = a := by
  unfold fix at h
  dsimp only at h
  split_ifs at h with hzero hover hleast
  · cases h
    obtain ⟨negative, coefficient, exponent⟩ := a
    simp only [Decimal.mk.injEq, true_and]
    dsimp only at htiny hmax
    omega
  · cases h
    rfl
  all_goals
    have := hdigits hzero
    exact absurd (by omega) hleast

/-- A decimal counted in units of a smaller power of ten. -/
lemma toRat_inUnits {a : Decimal} {e : Int} (h : e ≤ a.exponent) :
    a.toRat = a.inUnits e * 10 ^ e := by
  have hexponent : ((a.exponent - e).toNat : Int) = a.exponent - e := Int.toNat_of_nonneg (by omega)
  have hpow : (10 : ℚ) ^ (a.exponent - e).toNat * 10 ^ e = 10 ^ a.exponent := by
    rw [← zpow_natCast, hexponent, ← zpow_add₀ (by norm_num), sub_add_cancel]
  rw [toRat, inUnits, Int.cast_mul, mul_assoc, ← hpow]
  push_cast
  rfl

/-- The difference needs no more digits than the context has, and no exponent out of its range. -/
def SubExact (context : Context) (a b : Decimal) : Prop :=
  digits (a.inUnits (min a.exponent b.exponent) - b.inUnits (min a.exponent b.exponent)).natAbs ≤
      context.prec ∧
    context.etiny ≤ min a.exponent b.exponent ∧ min a.exponent b.exponent ≤ context.emax

lemma inUnits_copyNegate (b : Decimal) (e : Int) : b.copyNegate.inUnits e = -b.inUnits e := by
  cases hb : b.negative <;> simp [inUnits, copyNegate, signed, hb]

lemma signed_of_natAbs {n e : Int} {negative : Bool}
    (hzero : n ≠ 0 → negative = (n < 0 : Bool)) :
    (⟨negative, n.natAbs, e⟩ : Decimal).signed = n := by
  by_cases hn : n = 0
  · subst hn
    simp [signed]
  · rw [hzero hn]
    by_cases hlt : n < 0
    · simp only [signed, hlt, decide_true, if_true]
      omega
    · simp only [signed, hlt, decide_false, Bool.false_eq_true, if_false]
      omega

/-- An exact difference. -/
lemma toRat_sub {context : Context} {a b r : Decimal} (hexact : SubExact context a b)
    (h : a.sub context b = .ok r) : r.toRat = a.toRat - b.toRat := by
  obtain ⟨hdigits, htiny, hmax⟩ := hexact
  have hexponent : b.copyNegate.exponent = b.exponent := rfl
  unfold sub add at h
  simp only [inUnits_copyNegate, hexponent, ← sub_eq_add_neg] at h
  have hr := fix_of_fits (fun _ => hdigits) htiny hmax h
  rw [toRat_inUnits (min_le_left a.exponent b.exponent),
    toRat_inUnits (min_le_right a.exponent b.exponent), ← sub_mul, hr, toRat, signed_of_natAbs]
  · push_cast
    rfl
  · intro hn
    simp [hn]

/-- `quantize` returns a decimal with the exponent it is asked for. -/
lemma exponent_quantize {context : Context} {a r : Decimal} {e : Int}
    (h : a.quantize context e = .ok r) : r.exponent = e := by
  unfold quantize at h
  dsimp only at h
  split_ifs at h with hrange hzero hlarge hdigits
  · rw [fix_of_fits (fun h => absurd rfl h) hrange.1 hrange.2 h]
  · push Not at hdigits
    have hexponent : (a.rescale e).exponent = e := by
      unfold rescale
      split_ifs <;> rfl
    rw [fix_of_fits (fun _ => hdigits.2) (by omega) (by omega) h, hexponent]

end Decimal

end PyDecimal
