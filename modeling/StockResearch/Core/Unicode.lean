import Mathlib.Data.List.Flatten
import Mathlib.Data.List.Infix
import Mathlib.Tactic.Common

/-!
# Texts as Python handles them

A text is a sequence of Unicode scalar values.  Whitespace is the fixed set of `str.isspace`;
`split`, `strip` and joining with blanks are defined by it.

Compatibility normalization, upper-casing, general categories and the alphanumeric property come
from the Unicode character database, which stays a parameter.  Of its content only one thing is
ever used: a single ASCII digit is a letter or digit, is not a control character, and is unchanged
by normalization and upper-casing.  Of `Folding` nothing is used.
-/

namespace PyText

/-- A `str`. -/
abbrev Text := List Char

instance : LawfulBEq Text := inferInstance

/-- `c.isspace()` -/
def isSpace (c : Char) : Bool :=
  let n := c.toNat
  (9 ≤ n && n ≤ 13) || (28 ≤ n && n ≤ 32) || n == 0x85 || n == 0xa0 || n == 0x1680 ||
    (0x2000 ≤ n && n ≤ 0x200a) || n == 0x2028 || n == 0x2029 || n == 0x202f || n == 0x205f ||
    n == 0x3000

/-- `text.strip()` -/
def strip (t : Text) : Text := ((t.dropWhile isSpace).reverse.dropWhile isSpace).reverse

/-- `text.split()` -/
def split (t : Text) : List Text := (t.splitOnP isSpace).filter fun w => !w.isEmpty

/-- `"".join(text.split())` -/
def squeeze (t : Text) : Text := (split t).flatten

/-- `" ".join(text.split())` -/
def collapse (t : Text) : Text := [' '].intercalate (split t)

/-- `text.replace(old, new)` after so many characters that a match has taken. -/
def replaceAfter (old new : Text) : Nat → Text → Text
  | _, [] => []
  | k + 1, _ :: cs => replaceAfter old new k cs
  | 0, c :: cs =>
      if old.isPrefixOf (c :: cs) then new ++ replaceAfter old new (old.length - 1) cs
      else c :: replaceAfter old new 0 cs

/-- `text.replace(old, new)` -/
def replace (old new : String) (t : Text) : Text := replaceAfter old.toList new.toList 0 t

/-- Replacing a character replaces it wherever it stands. -/
lemma replaceAfter_singleton (c : Char) (new t : Text) :
    replaceAfter [c] new 0 t = t.flatMap fun d => if d = c then new else [d] := by
  induction t with
  | nil => rfl
  | cons d t ih =>
      by_cases h : d = c
      · subst h
        simp [replaceAfter, ih]
      · have hne : ¬ c = d := fun heq => h heq.symm
        simp [replaceAfter, List.isPrefixOf, h, hne, ih]

/-- A character of a text in which something was replaced. -/
lemma mem_replaceAfter {old new : Text} {k : Nat} {t : Text} {c : Char}
    (h : c ∈ replaceAfter old new k t) : c ∈ new ∨ c ∈ t := by
  induction t generalizing k with
  | nil => simp [replaceAfter] at h
  | cons d t ih =>
      cases k with
      | succ k => exact (ih h).imp id (List.mem_cons_of_mem d)
      | zero =>
          rw [replaceAfter] at h
          split at h
          · rcases List.mem_append.mp h with h | h
            · exact .inl h
            · exact (ih h).imp id (List.mem_cons_of_mem d)
          · rcases List.mem_cons.mp h with rfl | h
            · exact .inr List.mem_cons_self
            · exact (ih h).imp id (List.mem_cons_of_mem d)

/-- How a text in which something was replaced begins. -/
lemma head?_replaceAfter {old new : Text} {t : Text} {c : Char} (hnew : new ≠ [])
    (hc : new.head? ≠ some c) (h : (replaceAfter old new 0 t).head? = some c) :
    t.head? = some c := by
  cases t with
  | nil => exact h
  | cons d t =>
      rw [replaceAfter] at h
      split at h
      · obtain ⟨e, new, rfl⟩ := List.exists_cons_of_ne_nil hnew
        exact absurd h hc
      · exact h

/-- A text is tested character by character, not over the whole type of characters. -/
lemma forall_of_all {p : Char → Prop} [DecidablePred p] {t : Text}
    (h : t.all (fun c => decide (p c)) = true) : ∀ c ∈ t, p c :=
  fun c hc => of_decide_eq_true (List.all_eq_true.mp h c hc)

/-- What the Unicode character database says about texts and characters. -/
structure Unicode where
  /-- `unicodedata.normalize("NFKC", text)` -/
  nfkc : Text → Text
  /-- `text.upper()` -/
  upper : Text → Text
  /-- `unicodedata.category(c).startswith("C")` -/
  isOther : Char → Bool
  /-- `c.isalnum()` -/
  isAlnum : Char → Bool
  digit : ∀ c ∈ "0123456789".toList,
    nfkc [c] = [c] ∧ upper [c] = [c] ∧ isOther c = false ∧ isAlnum c = true

/-- The character database on ASCII texts. -/
def ascii : Unicode where
  nfkc t := t
  upper t := t.map Char.toUpper
  isOther c := c.toNat < 32 || c.toNat == 127
  isAlnum c := c.isAlphanum
  digit := forall_of_all (by decide)

/-- What it says about folding and about decimal digits. -/
structure Folding where
  /-- `unicodedata.normalize("NFKC", text)` -/
  nfkc : Text → Text
  /-- `text.casefold()` -/
  casefold : Text → Text
  /-- The value of a character that is a decimal digit. -/
  decimal : Char → Option Nat

def asciiFolding : Folding where
  nfkc t := t
  casefold t := t.map Char.toLower
  decimal c := if c.isDigit then some (c.toNat - '0'.toNat) else none

/-- `" ".join(unicodedata.normalize("NFKC", text).casefold().split())` -/
def Folding.normalize (folding : Folding) (t : Text) : Text :=
  collapse (folding.casefold (folding.nfkc t))

/-- `int(text)`, when `text.isdecimal()`. -/
def Folding.decimalValue (folding : Folding) (t : Text) : Option Nat :=
  if t = [] then none
  else t.foldlM (fun n c => (folding.decimal c).map fun d => 10 * n + d) 0

end PyText
