import StockResearch.Core.Checked
import StockResearch.Core.Unicode

/-!
# Normal forms of security identity input

`normalize_free_text`, `normalize_symbol`, `normalize_exchange_alias`, `normalize_company_name` and
`normalize_external_identifier`: what a query, a stored symbol and a stored name are compared by.
Each either returns a normal form or raises `InvalidSecurityQuery`.
-/

namespace StockResearch.Securities

open PyText Checked

/-- What is raised: `InvalidSecurityQuery`, which `resolve` turns into a result, or a pydantic
`ValidationError`, which nothing catches. -/
inductive Failure where
  | invalidQuery (message : String)
  | validation (message : String)
deriving DecidableEq, Repr

def maxSecurityQueryLength : Nat := 256

def maxExchangeAliasLength : Nat := 32

def nfkcChecked (u : Unicode) (value : Text) : Except Failure Text :=
  if maxSecurityQueryLength < value.length then
    .error (.invalidQuery "query exceeds 256 characters")
  else if maxSecurityQueryLength < (u.nfkc value).length then
    .error (.invalidQuery "normalized query exceeds 256 characters")
  else if (u.nfkc value).any u.isOther then
    .error (.invalidQuery "query contains a control or invisible character")
  else .ok (u.nfkc value)

def requireMeaningful (u : Unicode) (value : Text) : Except Failure Text :=
  if value.any u.isAlnum then .ok value
  else .error (.invalidQuery "query must contain a letter or number")

/-- `[A-Z0-9]` -/
def isUpperOrDigit (c : Char) : Bool := c.isUpper || c.isDigit

/-- `[A-Z0-9]+(?:[.:-][A-Z0-9]+)*` -/
def isSymbolText (t : Text) : Bool :=
  (t.splitOnP fun c => c == '.' || c == ':' || c == '-').all fun part =>
    !part.isEmpty && part.all isUpperOrDigit

def normalizeFreeText (u : Unicode) (value : Text) : Except Failure Text := do
  let checked ← nfkcChecked u value
  requireMeaningful u (u.upper (collapse (strip checked)))

def normalizeSymbol (u : Unicode) (value : Text) : Except Failure Text := do
  let checked ← nfkcChecked u value
  let normalized ← requireMeaningful u (u.upper (squeeze checked))
  check (¬ isSymbolText normalized)
    (.invalidQuery "symbol contains unsupported characters or separators")
  pure normalized

/-- `normalized[1:]` after a leading dot. -/
def dropDot : Text → Text
  | '.' :: t => t
  | t => t

def normalizeExchangeAlias (u : Unicode) (value : Text) : Except Failure Text := do
  let checked ← nfkcChecked u value
  let normalized ← requireMeaningful u (squeeze (dropDot (u.upper (strip checked))))
  check (maxExchangeAliasLength < normalized.length)
    (.invalidQuery "exchange alias exceeds 32 characters")
  check (¬ normalized.all isUpperOrDigit)
    (.invalidQuery "exchange alias contains unsupported characters")
  pure normalized

/-- `[,.;。、]` -/
def isSeparator (c : Char) : Bool :=
  c == ',' || c == '.' || c == ';' || c == '\u3002' || c == '\u3001'

/-- `_COMPANY_SEPARATOR_PATTERN.sub(" ", text)`, up to the number of blanks, which `collapse`
evens out. -/
def blankSeparators (t : Text) : Text := t.map fun c => if isSeparator c then ' ' else c

def normalizeCompanyName (u : Unicode) (value : Text) : Except Failure Text := do
  let checked ← nfkcChecked u value
  requireMeaningful u (u.upper (collapse (blankSeparators (strip checked))))

/-- `normalize_external_identifier` with the scheme `SEC_CIK`, the only one there is. -/
def normalizeExternalIdentifier (u : Unicode) (value : Text) : Except Failure Text := do
  let checked ← nfkcChecked u value
  let normalized := squeeze checked
  check (normalized = [] ∨ ¬ normalized.all Char.isDigit)
    (.invalidQuery "SEC CIK must contain only digits")
  check (10 < normalized.length) (.invalidQuery "SEC CIK exceeds 10 digits")
  pure (normalized.leftpad 10 '0')

/-! ## What a normalizer raises, and how long a text it accepts -/

/-- Nothing but `InvalidSecurityQuery` is raised. -/
def RaisesInvalid {α : Type} (x : Except Failure α) : Prop :=
  ∀ e, x = .error e → ∃ message, e = .invalidQuery message

section

variable {α β : Type} {u : Unicode} {value form : Text}

lemma raisesInvalid_pure (a : α) : RaisesInvalid (pure a : Except Failure α) := by
  intro e he
  cases he

lemma raisesInvalid_error (message : String) :
    RaisesInvalid (.error (.invalidQuery message) : Except Failure α) := by
  intro e he
  cases he
  exact ⟨message, rfl⟩

lemma raisesInvalid_check {p : Prop} [Decidable p] {message : String} :
    RaisesInvalid (check p (Failure.invalidQuery message)) := by
  unfold check
  split_ifs
  · exact raisesInvalid_error message
  · exact raisesInvalid_pure ()

lemma RaisesInvalid.bind {x : Except Failure α} {f : α → Except Failure β} (hx : RaisesInvalid x)
    (hf : ∀ a, RaisesInvalid (f a)) : RaisesInvalid (x >>= f) := by
  cases x with
  | error e =>
      obtain ⟨message, rfl⟩ := hx e rfl
      exact raisesInvalid_error message
  | ok a => exact hf a

lemma raisesInvalid_nfkcChecked : RaisesInvalid (nfkcChecked u value) := by
  unfold nfkcChecked
  split_ifs
  · exact raisesInvalid_error _
  · exact raisesInvalid_error _
  · exact raisesInvalid_error _
  · exact raisesInvalid_pure _

lemma raisesInvalid_requireMeaningful : RaisesInvalid (requireMeaningful u value) := by
  unfold requireMeaningful
  split_ifs
  · exact raisesInvalid_pure _
  · exact raisesInvalid_error _

lemma raisesInvalid_normalizeFreeText : RaisesInvalid (normalizeFreeText u value) :=
  raisesInvalid_nfkcChecked.bind fun _ => raisesInvalid_requireMeaningful

lemma raisesInvalid_normalizeSymbol : RaisesInvalid (normalizeSymbol u value) :=
  raisesInvalid_nfkcChecked.bind fun _ => raisesInvalid_requireMeaningful.bind fun _ =>
    raisesInvalid_check.bind fun _ => raisesInvalid_pure _

lemma raisesInvalid_normalizeExchangeAlias : RaisesInvalid (normalizeExchangeAlias u value) :=
  raisesInvalid_nfkcChecked.bind fun _ => raisesInvalid_requireMeaningful.bind fun _ =>
    raisesInvalid_check.bind fun _ => raisesInvalid_check.bind fun _ => raisesInvalid_pure _

lemma raisesInvalid_normalizeCompanyName : RaisesInvalid (normalizeCompanyName u value) :=
  raisesInvalid_nfkcChecked.bind fun _ => raisesInvalid_requireMeaningful

lemma raisesInvalid_normalizeExternalIdentifier :
    RaisesInvalid (normalizeExternalIdentifier u value) :=
  raisesInvalid_nfkcChecked.bind fun _ =>
    raisesInvalid_check.bind fun _ => raisesInvalid_check.bind fun _ => raisesInvalid_pure _

lemma length_le_of_nfkcChecked (h : nfkcChecked u value = .ok form) :
    value.length ≤ maxSecurityQueryLength := by
  unfold nfkcChecked at h
  split_ifs at h with hlong
  exact Nat.not_lt.mp hlong

lemma length_le_of_normalizeSymbol (h : normalizeSymbol u value = .ok form) :
    value.length ≤ maxSecurityQueryLength := by
  obtain ⟨_, hchecked, -⟩ := bind_ok.mp h
  exact length_le_of_nfkcChecked hchecked

lemma length_le_of_normalizeCompanyName (h : normalizeCompanyName u value = .ok form) :
    value.length ≤ maxSecurityQueryLength := by
  obtain ⟨_, hchecked, -⟩ := bind_ok.mp h
  exact length_le_of_nfkcChecked hchecked

end

end StockResearch.Securities
