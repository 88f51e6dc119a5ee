import StockResearch.Core.Dict
import StockResearch.Securities.Master

/-!
# Security resolution

`SecurityResolutionService.resolve`: a query is looked up at five exact levels in a fixed order, the
first level with a candidate decides, and prefix suggestions come last.

`matchesAt` says which securities of the whole master match a query at a level.  The service does
not see them: it sees what the repository returns after ordering them and cutting them off at
`max_candidates`, and calls a query resolved when one candidate is left.  So with `max_candidates =
1` every exact match looks unique.  `sound_iff` says exactly when the answer is right.
-/

namespace StockResearch.Securities

open PyText PyTime Txn Checked

inductive ResolutionStatus where
  | resolved | ambiguous | notFound | invalidQuery
deriving DecidableEq, Repr

inductive MatchType where
  | exactExchangeSymbol | exactIdentifier | exactSymbol | exactAlias | exactIssuerName
  | prefixSuggestion | none
deriving DecidableEq, Repr

/-- `SecurityResolutionResult` -/
structure SecurityResolutionResult where
  status : ResolutionStatus
  originalQuery : Text
  normalizedQuery : Text
  matchType : MatchType
  candidateCount : Nat
  candidates : List SecurityCandidate
  warnings : List String
deriving DecidableEq

/-- `validate_result_semantics`, in the order of its checks. -/
def SecurityResolutionResult.violation (r : SecurityResolutionResult) : Option String :=
  if r.candidateCount ≠ r.candidates.length then
    some "candidate_count must equal candidates length"
  else if r.status = .resolved ∧ r.candidateCount ≠ 1 then
    some "RESOLVED must contain exactly one candidate"
  else if r.status = .ambiguous ∧ r.candidateCount < 1 then
    some "AMBIGUOUS must contain at least one candidate"
  else if (r.status = .notFound ∨ r.status = .invalidQuery) ∧ r.candidateCount ≠ 0 then
    some "terminal empty status cannot contain candidates"
  else if (r.status = .notFound ∨ r.status = .invalidQuery) ∧ r.matchType ≠ .none then
    some "terminal empty status must use NONE match type"
  else if ¬ (r.status = .notFound ∨ r.status = .invalidQuery) ∧ r.matchType = .none then
    some "candidate-bearing status cannot use NONE match type"
  else if r.matchType = .prefixSuggestion ∧ r.status ≠ .ambiguous then
    some "prefix suggestions must use AMBIGUOUS status"
  else none

/-- Construction of a result: the field constraints first, then the semantics. -/
def SecurityResolutionResult.validated (r : SecurityResolutionResult) :
    Except Failure SecurityResolutionResult := do
  check (maxSecurityQueryLength < r.normalizedQuery.length)
    (.validation "normalized_query: String should have at most 256 characters")
  check (10 < r.candidateCount)
    (.validation "candidate_count: Input should be less than or equal to 10")
  check (10 < r.candidates.length)
    (.validation "candidates: Tuple should have at most 10 items")
  match r.violation with
  | some message => .error (.validation message)
  | none => pure r

/-! ## Reading a query -/

section Query

variable (u : Unicode)

/-- `"SEC_CIK:"` -/
def cikPrefix : Text := "SEC_CIK:".toList

/-- `text.split(c, 1)`, when `c` is in the text. -/
def splitFirst (c : Char) (t : Text) : Text × Text :=
  (t.takeWhile (· ≠ c), (t.dropWhile (· ≠ c)).drop 1)

/-- `text.rsplit(c, 1)`, when `c` is in the text. -/
def splitLast (c : Char) (t : Text) : Text × Text :=
  (((t.reverse.dropWhile (· ≠ c)).drop 1).reverse, (t.reverse.takeWhile (· ≠ c)).reverse)

/-- The two normal forms of an exchange and a symbol, the exchange first. -/
def normalizedPair (exchange symbol : Text) : Except Failure (Option (Text × Text)) := do
  let exchangeAlias ← normalizeExchangeAlias u exchange
  let symbol ← normalizeSymbol u symbol
  pure (some (exchangeAlias, symbol))

def explicitExchangeSymbol (nq : Text) : Except Failure (Option (Text × Text)) :=
  if cikPrefix.isPrefixOf nq then pure none
  else if ':' ∈ nq then normalizedPair u (splitFirst ':' nq).1 (splitFirst ':' nq).2
  else if '.' ∈ nq then
    if (splitLast '.' nq).1 ≠ [] ∧ (splitLast '.' nq).2 ≠ [] then
      normalizedPair u (splitLast '.' nq).2 (splitLast '.' nq).1
    else pure none
  else pure none

def externalIdentifier (nq : Text) : Except Failure (Option Text) :=
  if cikPrefix.isPrefixOf nq then
    (normalizeExternalIdentifier u (nq.drop cikPrefix.length)).map some
  else pure none

end Query

/-! ## The service -/

/-- `SecurityResolutionService`, with the date that its clock says and the collation that its
database orders texts by. -/
structure SecurityResolutionService (u : Unicode) where
  repository : SecurityMaster u
  maxCandidates : Nat
  asOf : Date
  collate : Text → Text → Ordering
  max_pos : 1 ≤ maxCandidates
  max_le : maxCandidates ≤ 10

def listingWarnings : List (ListingStatus × String) :=
  [(.suspended, "A matched security is currently suspended."),
   (.delisted, "A matched security is delisted."),
   (.unknown, "A matched security has unknown listing status.")]

/-- `_warnings` -/
def candidateWarnings (candidates : List SecurityCandidate) (matchType : MatchType) : List String :=
  (if matchType = .prefixSuggestion then
    ["Prefix matches are suggestions only and were not auto-resolved."] else []) ++
  (listingWarnings.filter fun w => candidates.any fun c => c.listingStatus = w.1).map (·.2)

def notFoundResult (query nq : Text) : Except Failure SecurityResolutionResult :=
  SecurityResolutionResult.validated ⟨.notFound, query, nq, .none, 0, [], []⟩

/-- The order of Python tuples of a MIC, a symbol and an identifier. -/
def keyLE (a b : (Text × Text × Text) × SecurityCandidate) : Bool :=
  ((compare a.1.1 b.1.1).then
    ((compare a.1.2.1 b.1.2.1).then (compare a.1.2.2 b.1.2.2))).isLE

namespace SecurityResolutionService

variable {u : Unicode} (service : SecurityResolutionService u)

def stableUniqueCandidates (candidates : List SecurityCandidate) :
    Except Failure (List SecurityCandidate) := do
  let keyed ← (Dict.valuesBy (·.securityId) candidates).mapM fun c => do
    let symbol ← normalizeSymbol u c.symbol
    pure ((c.exchangeMic, symbol, c.securityId.chars), c)
  pure (((keyed.insertionSort fun a b => keyLE a b).map (·.2)).take service.maxCandidates)

def candidateResult (query nq : Text) (matchType : MatchType)
    (candidates : List SecurityCandidate) : Except Failure SecurityResolutionResult := do
  let bounded ← service.stableUniqueCandidates candidates
  SecurityResolutionResult.validated
    { status := if bounded.length = 1 ∧ matchType ≠ .prefixSuggestion then .resolved else .ambiguous
      originalQuery := query
      normalizedQuery := nq
      matchType := matchType
      candidateCount := bounded.length
      candidates := bounded
      warnings := candidateWarnings bounded matchType }

/-- What the repository returns of the rows of a query. -/
def load (reason : String) (rows : List Listing) : List SecurityCandidate :=
  loadCandidates service.collate reason service.maxCandidates rows

/-- `if candidates: return …`, and what comes after it. -/
def answerOr (query nq : Text) (matchType : MatchType) (candidates : List SecurityCandidate)
    (rest : Except Failure SecurityResolutionResult) : Except Failure SecurityResolutionResult :=
  if candidates ≠ [] then service.candidateResult query nq matchType candidates else rest

/-- The last three lookups, by the query's company name. -/
def resolveName (query nq : Text) : Except Failure SecurityResolutionResult := do
  let name ← normalizeCompanyName u nq
  service.answerOr query nq .exactAlias
    (service.load "exact current alias" (service.repository.aliasMatches name service.asOf)) <|
  service.answerOr query nq .exactIssuerName
    (service.load "exact issuer name" (service.repository.issuerNameMatches name)) <|
  service.answerOr query nq .prefixSuggestion
    (service.load "bounded prefix suggestion" (service.repository.prefixMatches name service.asOf)) <|
  notFoundResult query nq

/-- The lookup by symbol: a query that is no symbol is not looked up. -/
def resolveSymbol (query nq : Text) : Except Failure SecurityResolutionResult :=
  match normalizeSymbol u nq with
  | .error _ => service.resolveName query nq
  | .ok symbol =>
      service.answerOr query nq .exactSymbol
        (service.load "exact normalized symbol" (service.repository.symbolMatches symbol))
        (service.resolveName query nq)

/-- The lookup by SEC CIK. -/
def resolveIdentifier (query nq : Text) : Except Failure SecurityResolutionResult := do
  match ← externalIdentifier u nq with
  | none => service.resolveSymbol query nq
  | some cik =>
      service.answerOr query nq .exactIdentifier
        (service.load "exact SEC CIK" (service.repository.identifierMatches cik))
        (service.resolveSymbol query nq)

/-- `find_exchange_symbol`: one row at most, whatever the limit. -/
def findExchangeSymbol (exchangeAlias symbol : Text) : List SecurityCandidate :=
  ((service.repository.exchangeSymbolMatches exchangeAlias symbol).take 1).map
    (Listing.candidate "explicit exchange and symbol")

def resolveValidQuery (query nq : Text) : Except Failure SecurityResolutionResult := do
  match ← explicitExchangeSymbol u nq with
  | none => service.resolveIdentifier query nq
  | some (exchangeAlias, symbol) =>
      service.answerOr query nq .exactExchangeSymbol
        (service.findExchangeSymbol exchangeAlias symbol)
        (if service.repository.recognizes exchangeAlias then notFoundResult query nq
          else service.resolveIdentifier query nq)

/-- `resolve`: `InvalidSecurityQuery` becomes a result, anything else is raised. -/
def resolve (query : Text) : Except Failure SecurityResolutionResult :=
  match normalizeFreeText u query >>= service.resolveValidQuery query with
  | .error (.invalidQuery _) =>
      SecurityResolutionResult.validated
        ⟨.invalidQuery, query, [], .none, 0, [], ["Query is invalid."]⟩
  | outcome => outcome

/-! ## What matches a query -/

/-- The securities of the whole master that match a query, given by its normal form, at a level. -/
def matchesAt (nq : Text) : MatchType → List Listing
  | .exactExchangeSymbol =>
      match explicitExchangeSymbol u nq with
      | .ok (some (exchangeAlias, symbol)) =>
          service.repository.exchangeSymbolMatches exchangeAlias symbol
      | _ => []
  | .exactIdentifier =>
      match externalIdentifier u nq with
      | .ok (some cik) => service.repository.identifierMatches cik
      | _ => []
  | .exactSymbol =>
      match normalizeSymbol u nq with
      | .ok symbol => service.repository.symbolMatches symbol
      | .error _ => []
  | .exactAlias =>
      match normalizeCompanyName u nq with
      | .ok name => service.repository.aliasMatches name service.asOf
      | .error _ => []
  | .exactIssuerName =>
      match normalizeCompanyName u nq with
      | .ok name => service.repository.issuerNameMatches name
      | .error _ => []
  | .prefixSuggestion =>
      match normalizeCompanyName u nq with
      | .ok name => service.repository.prefixMatches name service.asOf
      | .error _ => []
  | .none => []

end SecurityResolutionService

/-- The precedence of a level, the highest first. -/
def MatchType.rank : MatchType → Nat
  | .exactExchangeSymbol => 0
  | .exactIdentifier => 1
  | .exactSymbol => 2
  | .exactAlias => 3
  | .exactIssuerName => 4
  | .prefixSuggestion => 5
  | .none => 6

namespace SecurityResolutionService

variable {u : Unicode} (service : SecurityResolutionService u)

/-- Nothing matches at a level of higher precedence. -/
def Highest (nq : Text) (level : MatchType) : Prop :=
  ∀ above : MatchType, above.rank < level.rank → service.matchesAt nq above = []

/-- A result that is right about the whole master: a resolved query has one match at its highest
level, an ambiguous one has several or suggestions only, and every candidate matches. -/
structure Correct (nq : Text) (r : SecurityResolutionResult) : Prop where
  resolved : r.status = .resolved → r.matchType ≠ .prefixSuggestion ∧
    (service.matchesAt nq r.matchType).length = 1 ∧ service.Highest nq r.matchType
  ambiguous : r.status = .ambiguous → service.Highest nq r.matchType ∧
    (r.matchType = .prefixSuggestion ∨ 2 ≤ (service.matchesAt nq r.matchType).length)
  matching : ∀ c ∈ r.candidates, ∃ l ∈ service.matchesAt nq r.matchType, ∃ reason,
    c = l.candidate reason

/-- A query gets a result, and the result is right. -/
def Sound (query : Text) : Prop :=
  ∃ r, service.resolve query = .ok r ∧
    match normalizeFreeText u query with
    | .ok nq => service.Correct nq r
    | .error _ => r.status = .invalidQuery ∧ r.candidates = []

/-- At the highest level that matches at all there is one match. -/
def Single (nq : Text) : Prop :=
  ∀ level, level ≠ .prefixSuggestion → service.Highest nq level →
    (service.matchesAt nq level).length ≤ 1

/-- The lookups below the exchange level are reached: the query can be read, and it names no
recognised exchange. -/
def Proceeds (nq : Text) : Prop :=
  (∃ explicit, explicitExchangeSymbol u nq = .ok explicit ∧
    ∀ pair ∈ explicit, service.repository.recognizes pair.1 = false) ∧
  ∃ identifier, externalIdentifier u nq = .ok identifier

/-- What the service relies on: a query that upper-casing has grown beyond the limit of a result
names neither a recognised exchange nor a known SEC CIK, and a service that looks at one candidate
is not asked about several. -/
structure Fits (nq : Text) : Prop where
  short : maxSecurityQueryLength < nq.length →
    (∀ pair, explicitExchangeSymbol u nq = .ok (some pair) →
      service.repository.recognizes pair.1 = false) ∧
    service.matchesAt nq .exactIdentifier = []
  single : service.maxCandidates = 1 → service.Proceeds nq → service.Single nq

end SecurityResolutionService

end StockResearch.Securities
