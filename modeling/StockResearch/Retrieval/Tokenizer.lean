import StockResearch.Core.Checked
import StockResearch.Core.Regex
import StockResearch.Core.Unicode

/-!
# The lexical tokenizer

`VersionedTokenizer` cuts a normalized text into runs of CJK characters and into words, codes and
numbers.  A CJK run gives its overlapping pairs of characters, and itself when it is short; any
other segment gives itself unless it is a stopword.  A text with a control character, or with a
token or a position out of bounds, is refused as a whole.
-/

namespace StockResearch.Retrieval

open PyText Checked

/-- What the retrieval code raises. -/
inductive Raised where
  /-- `ValueError` -/
  | value (message : String)
  /-- The validation error of a schema. -/
  | validation (schema : String)
  | signal
deriving DecidableEq, Repr

structure LexicalToken where
  value : Text
  position : Nat
  value_bounds : 1 ≤ value.length ∧ value.length ≤ 64
  position_le : position ≤ 4095
deriving DecidableEq

/-- `LexicalToken(value=value, position=position)` -/
def lexicalToken (value : Text) (position : Nat) : Except Raised LexicalToken :=
  if h : (1 ≤ value.length ∧ value.length ≤ 64) ∧ position ≤ 4095 then
    .ok ⟨value, position, h.1, h.2⟩
  else .error (.validation "LexicalToken")

structure TokenizedQuery where
  originalQuery : Text
  normalizedQuery : Text
  tokens : List LexicalToken
  original_bounds : 1 ≤ originalQuery.length ∧ originalQuery.length ≤ 256
  normalized_bounds : 1 ≤ normalizedQuery.length ∧ normalizedQuery.length ≤ 256
  tokens_bounds : 1 ≤ tokens.length ∧ tokens.length ≤ 64

/-- `"\u3400" <= c <= "\u9fff"` -/
def isCjkChar (c : Char) : Bool := 0x3400 ≤ c.toNat && c.toNat ≤ 0x9fff

/-- `unicodedata.category(c) == "Cc"` -/
def isControl (c : Char) : Bool := c.toNat ≤ 0x1f || (0x7f ≤ c.toNat && c.toNat ≤ 0x9f)

def stopwords : List Text :=
  ["a", "an", "and", "for", "in", "of", "the", "to"].map String.toList

def isLatin (c : Char) : Bool := ('a' ≤ c && c ≤ 'z') || ('A' ≤ c && c ≤ 'Z')

def isLatinOrDigit (c : Char) : Bool := isLatin c || ('0' ≤ c && c ≤ '9')

/-- `[\u3400-\u9fff]+|(?:[A-Za-z]+:)?[A-Za-z0-9]+(?:[.%-][A-Za-z0-9]+)*%?` -/
def segment : Regex :=
  .alt (.rep 1 none (.char isCjkChar))
    (.seq (.rep 0 (some 1) (.seq (.rep 1 none (.char isLatin)) (.text ":")))
      (.seq (.rep 1 none (.char isLatinOrDigit))
        (.seq (.rep 0 none (.seq (.oneOf ".%-") (.rep 1 none (.char isLatinOrDigit))))
          (.rep 0 (some 1) (.text "%")))))

def isCjk (value : Text) : Bool := !value.isEmpty && value.all isCjkChar

/-- The tokens of one segment. -/
def segmentValues (value : Text) : List Text :=
  if isCjk value then
    if value.length = 1 then [value]
    else (if value.length ≤ 32 then [value] else []) ++
      (List.range (value.length - 1)).map fun index => (value.drop index).take 2
  else if value ∈ stopwords then [] else [value]

/-- `VersionedTokenizer.tokenize` -/
def tokenize (folding : Folding) (value : Text) (query : Bool) :
    Except Raised (List LexicalToken) := do
  check (value.any fun c => isControl c && !(c == '\n' || c == '\t'))
    (.value "unsafe control character in tokenizer input")
  let normalized := strip (folding.casefold (folding.nfkc value))
  check (query ∧ 256 < normalized.length) (.value "query exceeds 256 characters")
  let values := (segment.finditer normalized).flatMap segmentValues
  check (query ∧ values = []) (.value "tokenized query is empty")
  check (query ∧ 64 < values.length) (.value "tokenized query exceeds 64 tokens")
  values.zipIdx.mapM fun (token, index) => lexicalToken token index

/-- `VersionedTokenizer.tokenize_query` -/
def tokenizeQuery (folding : Folding) (value : Text) : Except Raised TokenizedQuery := do
  let normalized := folding.normalize value
  let tokens ← tokenize folding value true
  if h : (1 ≤ value.length ∧ value.length ≤ 256) ∧
      (1 ≤ normalized.length ∧ normalized.length ≤ 256) ∧ 1 ≤ tokens.length ∧ tokens.length ≤ 64 then
    return ⟨value, normalized, tokens, h.1, h.2.1, h.2.2⟩
  else throw (.validation "TokenizedQuery")

lemma lexicalToken_ok {value : Text} {position : Nat} {token : LexicalToken}
    (h : lexicalToken value position = .ok token) :
    token.value = value ∧ token.position = position := by
  unfold lexicalToken at h
  split_ifs at h
  cases h
  exact ⟨rfl, rfl⟩

/-- A token stands at the position it carries. -/
theorem tokenize_positions {folding : Folding} {value : Text} {query : Bool}
    {tokens : List LexicalToken} (h : tokenize folding value query = .ok tokens) :
    tokens.map (·.position) = List.range tokens.length := by
  simp only [tokenize, check_bind_ok] at h
  obtain ⟨-, -, -, -, htokens⟩ := h
  have hrelated := forall₂_mapM (fun x y => lexicalToken_ok) htokens
  have hlength := hrelated.length_eq
  have hpositions := map_eq_of_forall₂ hrelated fun _ _ hxy => hxy.2.symm
  rw [← hpositions, ← hlength, List.length_zipIdx, List.zipIdx_map_snd, List.range_eq_range']

end StockResearch.Retrieval
