import StockResearch.Core.Decimal
import StockResearch.Core.Unicode
import Mathlib.Algebra.Order.Field.Basic
import Mathlib.Tactic.FieldSimp
import Mathlib.Tactic.Ring

/-!
# Numbers as they are written

`Decimal(text)` for a text that states a finite number: white space around it and underscores count
for nothing, and any decimal digit of Unicode counts as one.  Which characters are digits stays a
parameter.

* `NumberText` is what such a text says, digit by digit, and `NumberText.value` the number.
* **`NumberText.toRat_decimal`**: the decimal made of it is that number.
* `readNumber_digits`: a text of ASCII digits is the number that `int` reads.
-/

namespace PyDecimal

open PyText

/-- The number that digits denote, the leading one first. -/
def ofDigits (ds : List Nat) : Nat := ds.foldl (fun n d => 10 * n + d) 0

/-- A number as it is written. -/
structure NumberText where
  negative : Bool
  whole : List Nat
  fraction : List Nat
  exponent : Int

namespace NumberText

/-- The number that is written. -/
def value (t : NumberText) : ℚ :=
  (if t.negative then -1 else 1) *
    (ofDigits t.whole + ofDigits t.fraction / 10 ^ t.fraction.length) * 10 ^ t.exponent

/-- Its digits as one coefficient. -/
def decimal (t : NumberText) : Decimal :=
  ⟨t.negative, ofDigits (t.whole ++ t.fraction), t.exponent - t.fraction.length⟩

end NumberText

/-! ## Reading -/

section Reading

variable (digit : Char → Option Nat)

/-- An optional sign. -/
def readSign : Text → Bool × Text
  | '-' :: cs => (true, cs)
  | '+' :: cs => (false, cs)
  | cs => (false, cs)

/-- The digits at the start. -/
def leadingDigits : Text → List Nat × Text
  | [] => ([], [])
  | c :: cs =>
      match digit c with
      | some d => (d :: (leadingDigits cs).1, (leadingDigits cs).2)
      | none => ([], c :: cs)

/-- A point with digits behind it, if there is one. -/
def readFraction : Text → List Nat × Text
  | '.' :: cs => leadingDigits digit cs
  | cs => ([], cs)

/-- What follows the digits: nothing, or an exponent. -/
def readExponent : Text → Option Int
  | [] => some 0
  | c :: cs =>
      if c = 'e' ∨ c = 'E' then
        let (negative, cs) := readSign cs
        match leadingDigits digit cs with
        | (d :: ds, []) => some (if negative then -ofDigits (d :: ds) else ofDigits (d :: ds))
        | _ => none
      else none

/-- A text that states a finite number. -/
def readNumber (text : Text) : Option NumberText :=
  let (negative, cs) := readSign ((strip text).filter (· ≠ '_'))
  let (whole, cs) := leadingDigits digit cs
  let (fraction, cs) := readFraction digit cs
  if whole = [] ∧ fraction = [] then none
  else (readExponent digit cs).map fun exponent => ⟨negative, whole, fraction, exponent⟩

/-- `Decimal(text)`, if it is finite: beyond the limits of the implementation nothing is read. -/
def finiteDecimal (text : Text) : Option Decimal :=
  (readNumber digit text).bind fun t =>
    if t.decimal.adjusted ≤ 999999999999999999 ∧ -1999999999999999997 ≤ t.decimal.exponent then
      some t.decimal
    else none

end Reading

/-! ## What is read -/

lemma foldl_digits (ds : List Nat) (n : Nat) :
    ds.foldl (fun n d => 10 * n + d) n = n * 10 ^ ds.length + ofDigits ds := by
  induction ds generalizing n with
  | nil => simp [ofDigits]
  | cons d ds ih =>
      rw [ofDigits, List.foldl_cons, List.foldl_cons, ih, ih (10 * 0 + d), List.length_cons]
      ring

lemma ofDigits_append (ds es : List Nat) :
    ofDigits (ds ++ es) = ofDigits ds * 10 ^ es.length + ofDigits es := by
  rw [ofDigits, List.foldl_append, foldl_digits]
  rfl

/-- **The decimal made of a number is that number.** -/
theorem NumberText.toRat_decimal (t : NumberText) : t.decimal.toRat = t.value := by
  have hpow : (10 : ℚ) ^ (t.exponent - t.fraction.length) =
      10 ^ t.exponent / 10 ^ t.fraction.length := by
    rw [zpow_sub₀ (by norm_num), zpow_natCast]
  have hcoefficient : (t.decimal.signed : ℚ) = (if t.negative then -1 else 1) *
      (ofDigits t.whole * 10 ^ t.fraction.length + ofDigits t.fraction) := by
    cases hsign : t.negative <;> simp [decimal, Decimal.signed, hsign, ofDigits_append]
  have hne : (10 : ℚ) ^ t.fraction.length ≠ 0 := by positivity
  rw [Decimal.toRat, hcoefficient, value]
  change _ * (10 : ℚ) ^ (t.exponent - t.fraction.length) = _
  rw [hpow]
  field_simp

lemma finiteDecimal_ok {digit : Char → Option Nat} {text : Text} {d : Decimal}
    (h : finiteDecimal digit text = some d) :
    ∃ t, readNumber digit text = some t ∧ d.toRat = t.value := by
  rw [finiteDecimal, Option.bind_eq_some_iff] at h
  obtain ⟨t, ht, h⟩ := h
  split_ifs at h
  cases h
  exact ⟨t, ht, t.toRat_decimal⟩

def asciiValue (c : Char) : Nat := c.toNat - '0'.toNat

lemma leadingDigits_ascii {digit : Char → Option Nat}
    (hdigit : ∀ c, c.isDigit → digit c = some (asciiValue c)) {cs : Text}
    (h : ∀ c ∈ cs, c.isDigit) : leadingDigits digit cs = (cs.map asciiValue, []) := by
  induction cs with
  | nil => rfl
  | cons c cs ih =>
      have hc := hdigit c (h c List.mem_cons_self)
      have hrest := ih fun d hd => h d (List.mem_cons_of_mem _ hd)
      rw [leadingDigits, hc, hrest, List.map_cons]

lemma strip_of_not_isSpace {cs : Text} (h : ∀ c ∈ cs, isSpace c = false) : strip cs = cs := by
  have hdrop : ∀ ds : Text, (∀ c ∈ ds, isSpace c = false) → ds.dropWhile isSpace = ds := by
    intro ds hds
    cases ds with
    | nil => rfl
    | cons d ds => exact List.dropWhile_cons_of_neg (by simp [hds d List.mem_cons_self])
  rw [strip, hdrop cs h, hdrop cs.reverse fun c hc => h c (List.mem_reverse.mp hc),
    List.reverse_reverse]

lemma isDigit_range {c : Char} (h : c.isDigit = true) : 48 ≤ c.toNat ∧ c.toNat ≤ 57 := by
  simp only [Char.isDigit, ge_iff_le, Bool.and_eq_true, decide_eq_true_eq] at h
  exact ⟨UInt32.le_iff_toNat_le.mp h.1, UInt32.le_iff_toNat_le.mp h.2⟩

lemma isSpace_of_isDigit {c : Char} (h : c.isDigit = true) : isSpace c = false := by
  have hrange := isDigit_range h
  unfold isSpace
  simp only [Bool.or_eq_false_iff, Bool.and_eq_false_iff, decide_eq_false_iff_not,
    beq_eq_false_iff_ne, ne_eq]
  omega

/-- **A text of ASCII digits is the number that `int` reads.** -/
lemma readNumber_digits {digit : Char → Option Nat}
    (hdigit : ∀ c, c.isDigit → digit c = some (asciiValue c)) {cs : Text} (hne : cs ≠ [])
    (h : ∀ c ∈ cs, c.isDigit) :
    ∃ t, readNumber digit cs = some t ∧ t.value = (Nat.ofDigitChars 10 cs 0 : Nat) := by
  have hstrip : strip cs = cs := strip_of_not_isSpace fun c hc => isSpace_of_isDigit (h c hc)
  have hfilter : cs.filter (· ≠ '_') = cs := by
    refine List.filter_eq_self.mpr fun c hc => ?_
    have hc := h c hc
    rw [decide_eq_true_eq]
    rintro rfl
    exact absurd hc (by decide)
  have hsign : readSign cs = (false, cs) := by
    unfold readSign
    split
    · exact absurd (h '-' List.mem_cons_self) (by decide)
    · exact absurd (h '+' List.mem_cons_self) (by decide)
    · rfl
  have hwhole : cs.map asciiValue ≠ [] := by simpa using hne
  refine ⟨⟨false, cs.map asciiValue, [], 0⟩, ?_, ?_⟩
  · unfold readNumber
    rw [hstrip, hfilter, hsign]
    dsimp only
    rw [leadingDigits_ascii hdigit h]
    simp [readFraction, readExponent, hne]
  · have hvalue : ofDigits (cs.map asciiValue) = Nat.ofDigitChars 10 cs 0 := by
      rw [ofDigits, List.foldl_map]
      rfl
    have hnone : ofDigits [] = 0 := rfl
    simp [NumberText.value, hvalue, hnone]

example : (finiteDecimal asciiFolding.decimal " -1_250.50E-2".toList).map
    (fun d => (d.signed, d.exponent)) = some (-125050, -4) := by decide +kernel

end PyDecimal
