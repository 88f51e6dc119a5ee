import StockResearch.Core.Canonical
import Mathlib.Data.String.Basic
import Mathlib.Order.Basic

/-!
# UUIDs and their text

A UUID is 128 bits.  Its text is the usual one, groups of 8, 4, 4, 4 and 12 lower-case hexadecimal
digits between hyphens.  It determines the UUID (`Uuid.chars_inj`), and texts are ordered as the
UUIDs are (`Uuid.str_le_str`).
-/

/-- A 128-bit identifier. -/
structure Uuid where
  bits : BitVec 128
deriving DecidableEq, Repr

namespace Uuid

instance (n : Nat) : OfNat Uuid n := ⟨⟨BitVec.ofNat 128 n⟩⟩

/-- The last `width` hexadecimal digits of a number, most significant first. -/
def hexDigits : Nat → Nat → List Char
  | 0, _ => []
  | width + 1, n => hexDigits width (n / 16) ++ [PyJson.hexDigit (n % 16)]

@[simp] lemma length_hexDigits (width n : Nat) : (hexDigits width n).length = width := by
  induction width generalizing n with
  | zero => rfl
  | succ width ih => simp [hexDigits, ih]

lemma hexDigit_inj {m n : Nat} (hm : m < 16) (hn : n < 16)
    (h : PyJson.hexDigit m = PyJson.hexDigit n) : m = n := by
  have hvalue := PyJson.hexValue_hexDigit m hm
  rw [h, PyJson.hexValue_hexDigit n hn] at hvalue
  exact (Option.some.inj hvalue).symm

lemma hexDigits_inj {width m n : Nat} (hm : m < 16 ^ width) (hn : n < 16 ^ width)
    (h : hexDigits width m = hexDigits width n) : m = n := by
  induction width generalizing m n with
  | zero =>
      rw [pow_zero] at hm hn
      omega
  | succ width ih =>
      rw [pow_succ] at hm hn
      obtain ⟨hhigh, hlow⟩ := List.append_inj h (by simp)
      have hdiv := ih (by omega) (by omega) hhigh
      have hmod := hexDigit_inj (Nat.mod_lt m (by decide)) (Nat.mod_lt n (by decide))
        (List.head_eq_of_cons_eq hlow)
      omega

/-- The five groups of the text, as numbers. -/
def chars (u : Uuid) : List Char :=
  let n := u.bits.toNat
  hexDigits 8 (n / 2 ^ 96) ++ '-' :: (hexDigits 4 (n / 2 ^ 80 % 2 ^ 16) ++ '-' ::
    (hexDigits 4 (n / 2 ^ 64 % 2 ^ 16) ++ '-' :: (hexDigits 4 (n / 2 ^ 48 % 2 ^ 16) ++ '-' ::
      hexDigits 12 (n % 2 ^ 48))))

/-- `str(uuid)`. -/
def str (u : Uuid) : String := String.ofList u.chars

theorem chars_inj {u v : Uuid} (h : u.chars = v.chars) : u = v := by
  have hu := u.bits.isLt
  have hv := v.bits.isLt
  simp only [chars] at h
  obtain ⟨h₁, h⟩ := List.append_inj h (by simp)
  obtain ⟨h₂, h⟩ := List.append_inj (List.tail_eq_of_cons_eq h) (by simp)
  obtain ⟨h₃, h⟩ := List.append_inj (List.tail_eq_of_cons_eq h) (by simp)
  obtain ⟨h₄, h⟩ := List.append_inj (List.tail_eq_of_cons_eq h) (by simp)
  have e₁ : u.bits.toNat / 2 ^ 96 = v.bits.toNat / 2 ^ 96 :=
    hexDigits_inj (by omega) (by omega) h₁
  have e₂ : u.bits.toNat / 2 ^ 80 % 2 ^ 16 = v.bits.toNat / 2 ^ 80 % 2 ^ 16 :=
    hexDigits_inj (by omega) (by omega) h₂
  have e₃ : u.bits.toNat / 2 ^ 64 % 2 ^ 16 = v.bits.toNat / 2 ^ 64 % 2 ^ 16 :=
    hexDigits_inj (by omega) (by omega) h₃
  have e₄ : u.bits.toNat / 2 ^ 48 % 2 ^ 16 = v.bits.toNat / 2 ^ 48 % 2 ^ 16 :=
    hexDigits_inj (by omega) (by omega) h₄
  have e₅ : u.bits.toNat % 2 ^ 48 = v.bits.toNat % 2 ^ 48 :=
    hexDigits_inj (by omega) (by omega) (List.tail_eq_of_cons_eq h)
  have hbits : u.bits.toNat = v.bits.toNat := by omega
  cases u
  cases v
  rw [Uuid.mk.injEq]
  exact BitVec.eq_of_toNat_eq hbits

theorem str_inj {u v : Uuid} : u.str = v.str ↔ u = v :=
  ⟨fun h => chars_inj (String.ofList_injective h), fun h => by rw [h]⟩

/-! ## Reading -/

/-- A number read after another, most significant digit first. -/
def readHex (n : Nat) (t : List Char) : Nat :=
  t.foldl (fun n c => 16 * n + (PyJson.hexValue c).getD 0) n

lemma readHex_append (n : Nat) (s t : List Char) : readHex n (s ++ t) = readHex (readHex n s) t :=
  List.foldl_append

lemma readHex_hexDigits {width m : Nat} (h : m < 16 ^ width) (n : Nat) :
    readHex n (hexDigits width m) = n * 16 ^ width + m := by
  induction width generalizing m with
  | zero =>
      rw [pow_zero] at h
      simp [readHex, hexDigits]
      omega
  | succ width ih =>
      rw [pow_succ] at h
      have hdigit : (PyJson.hexValue (PyJson.hexDigit (m % 16))).getD 0 = m % 16 := by
        rw [PyJson.hexValue_hexDigit _ (Nat.mod_lt _ (by decide)), Option.getD_some]
      rw [hexDigits, readHex_append, ih (by omega), pow_succ]
      simp only [readHex, List.foldl_cons, List.foldl_nil, hdigit]
      have hmul : n * (16 ^ width * 16) = 16 * (n * 16 ^ width) := by
        rw [← Nat.mul_assoc, Nat.mul_comm]
      omega

lemma mem_hexDigits {width m : Nat} {c : Char} (h : c ∈ hexDigits width m) :
    ∃ i : Fin 16, c = PyJson.hexDigit i := by
  induction width generalizing m with
  | zero => simp [hexDigits] at h
  | succ width ih =>
      rw [hexDigits, List.mem_append, List.mem_singleton] at h
      rcases h with h | rfl
      · exact ih h
      · exact ⟨⟨m % 16, Nat.mod_lt _ (by decide)⟩, rfl⟩

/-- A character of the text of a UUID. -/
lemma mem_chars {u : Uuid} {c : Char} (h : c ∈ u.chars) :
    c = '-' ∨ ∃ i : Fin 16, c = PyJson.hexDigit i := by
  simp only [chars, List.mem_append, List.mem_cons] at h
  rcases h with h | rfl | h | rfl | h | rfl | h | rfl | h
  · exact .inr (mem_hexDigits h)
  · exact .inl rfl
  · exact .inr (mem_hexDigits h)
  · exact .inl rfl
  · exact .inr (mem_hexDigits h)
  · exact .inl rfl
  · exact .inr (mem_hexDigits h)
  · exact .inl rfl
  · exact .inr (mem_hexDigits h)

/-- The UUID with the given text. -/
def ofChars? (t : List Char) : Option Uuid :=
  let u : Uuid := ⟨BitVec.ofNat 128 (readHex 0 (t.filter (· != '-')))⟩
  if u.chars = t then some u else none

lemma readHex_chars (u : Uuid) : readHex 0 (u.chars.filter (· != '-')) = u.bits.toNat := by
  have hlt := u.bits.isLt
  have hplain : ∀ i : Fin 16, (PyJson.hexDigit i != '-') = true := by decide
  have hdigits : ∀ width m, (hexDigits width m).filter (· != '-') = hexDigits width m := by
    intro width m
    refine List.filter_eq_self.mpr fun c hc => ?_
    obtain ⟨i, rfl⟩ := mem_hexDigits hc
    exact hplain i
  have hhyphen : ∀ rest : List Char, ('-' :: rest).filter (· != '-') = rest.filter (· != '-') :=
    fun rest => List.filter_cons_of_neg (by simp)
  simp only [chars, List.filter_append, hdigits, hhyphen, readHex_append]
  rw [readHex_hexDigits (by omega), readHex_hexDigits (by omega), readHex_hexDigits (by omega),
    readHex_hexDigits (by omega), readHex_hexDigits (by omega)]
  omega

theorem ofChars?_chars (u : Uuid) : ofChars? u.chars = some u := by
  have hsame : (⟨BitVec.ofNat 128 (readHex 0 (u.chars.filter (· != '-')))⟩ : Uuid) = u := by
    rw [readHex_chars, BitVec.ofNat_toNat, BitVec.setWidth_eq]
  rw [ofChars?, hsame]
  exact if_pos rfl

lemma chars_of_ofChars? {t : List Char} {u : Uuid} (h : ofChars? t = some u) : u.chars = t := by
  unfold ofChars? at h
  dsimp only at h
  split at h
  · next hchars =>
    obtain rfl := Option.some.inj h
    exact hchars
  · cases h

/-! ## Order -/

/-- `UUID` columns are compared bit by bit. -/
instance : LinearOrder Uuid :=
  LinearOrder.lift' (fun u => u.bits.toNat) fun u v h => by
    cases u
    cases v
    rw [Uuid.mk.injEq]
    exact BitVec.eq_of_toNat_eq h

lemma lt_iff {u v : Uuid} : u < v ↔ u.bits.toNat < v.bits.toNat := Iff.rfl

lemma append_lt_append {as bs cs ds : List Char} (hlength : as.length = bs.length)
    (h : as < bs ∨ as = bs ∧ cs < ds) : as ++ cs < bs ++ ds := by
  rcases h with h | ⟨rfl, h⟩
  · induction as generalizing bs with
    | nil =>
        cases bs with
        | nil => exact absurd h (lt_irrefl _)
        | cons b bs => simp at hlength
    | cons a as ih =>
        cases bs with
        | nil => simp at hlength
        | cons b bs =>
            rw [List.cons_append, List.cons_append, List.cons_lt_cons_iff]
            rcases List.cons_lt_cons_iff.mp h with hab | ⟨rfl, hrest⟩
            · exact .inl hab
            · exact .inr ⟨rfl, ih (by simpa using hlength) hrest⟩
  · exact List.append_left_lt h

lemma hexDigit_lt {m n : Nat} (hn : n < 16) (h : m < n) :
    PyJson.hexDigit m < PyJson.hexDigit n := by
  have hall : ∀ n : Fin 16, ∀ m : Fin 16, m < n → PyJson.hexDigit m < PyJson.hexDigit n := by
    decide
  exact hall ⟨n, hn⟩ ⟨m, h.trans hn⟩ h

lemma hexDigits_lt {width m n : Nat} (hn : n < 16 ^ width) (h : m < n) :
    hexDigits width m < hexDigits width n := by
  induction width generalizing m n with
  | zero =>
      rw [pow_zero] at hn
      omega
  | succ width ih =>
      rw [pow_succ] at hn
      refine append_lt_append (by simp) ?_
      rcases Nat.lt_or_ge (m / 16) (n / 16) with hhigh | hhigh
      · exact .inl (ih (by omega) hhigh)
      · have heq : m / 16 = n / 16 := by omega
        refine .inr ⟨by rw [heq], ?_⟩
        rw [List.cons_lt_cons_iff]
        exact .inl (hexDigit_lt (Nat.mod_lt n (by decide)) (by omega))

/-- Two texts that start with hexadecimal groups of one width. -/
lemma hexDigits_append_lt {width m n : Nat} {cs ds : List Char} (hn : n < 16 ^ width)
    (h : m < n ∨ m = n ∧ cs < ds) : hexDigits width m ++ cs < hexDigits width n ++ ds := by
  refine append_lt_append (by simp) ?_
  rcases h with h | ⟨rfl, h⟩
  · exact .inl (hexDigits_lt hn h)
  · exact .inr ⟨rfl, h⟩

/-- The quotients decide, or the remainders do. -/
lemma div_lt_or_mod_lt {m n : Nat} (b : Nat) (h : m < n) :
    m / b < n / b ∨ m / b = n / b ∧ m % b < n % b := by
  rcases Nat.lt_or_ge (m / b) (n / b) with hdiv | hdiv
  · exact .inl hdiv
  · have heq : m / b = n / b := le_antisymm (Nat.div_le_div_right h.le) hdiv
    refine .inr ⟨heq, ?_⟩
    have hm := Nat.div_add_mod m b
    have hn := Nat.div_add_mod n b
    rw [heq] at hm
    omega

/-- One group of the text, before the rest of it. -/
lemma group_lt {m n b : Nat} {cs ds : List Char} (h : m % (b * 2 ^ 16) < n % (b * 2 ^ 16))
    (hrest : m % b < n % b → cs < ds) :
    hexDigits 4 (m / b % 2 ^ 16) ++ '-' :: cs < hexDigits 4 (n / b % 2 ^ 16) ++ '-' :: ds := by
  refine hexDigits_append_lt (Nat.mod_lt _ (by decide)) ?_
  · rw [← Nat.mod_mul_right_div_self, ← Nat.mod_mul_right_div_self]
    refine (div_lt_or_mod_lt b h).imp id ?_
    rintro ⟨heq, hlt⟩
    rw [Nat.mod_mod_of_dvd _ (Nat.dvd_mul_right _ _), Nat.mod_mod_of_dvd _ (Nat.dvd_mul_right _ _)] at hlt
    exact ⟨heq, List.cons_lt_cons_iff.mpr (.inr ⟨rfl, hrest hlt⟩)⟩

lemma chars_lt {u v : Uuid} (h : u < v) : u.chars < v.chars := by
  have hv := v.bits.isLt
  rw [lt_iff] at h
  refine hexDigits_append_lt (Nat.div_lt_of_lt_mul hv) ((div_lt_or_mod_lt _ h).imp id ?_)
  rintro ⟨heq, h⟩
  refine ⟨heq, List.cons_lt_cons_iff.mpr (.inr ⟨rfl, ?_⟩)⟩
  refine group_lt h fun h => group_lt h fun h => group_lt h fun h => ?_
  exact hexDigits_lt (Nat.mod_lt _ (by decide)) h

/-- The texts of UUIDs are ordered as the UUIDs are. -/
theorem str_le_str {u v : Uuid} : u.str ≤ v.str ↔ u ≤ v := by
  have hmono : StrictMono Uuid.str := by
    intro u v h
    rw [String.lt_iff]
    simpa [str] using chars_lt h
  exact hmono.le_iff_le

end Uuid
