import StockResearch.Securities.AliasRoundTrip

/-!
# Asking for a company by its name

Before a query is looked up as a name it is read as an exchange and a symbol, if it has a colon or a
dot, and as an SEC CIK, if it has that prefix.  The lookup by symbol catches what its normalizer
raises; these two readings do not, so a name with the wrong punctuation is an invalid query.

**What returns.**  `Readable` says that both readings go through.  Every answer of the cascade is
bounded by `answers_resolveValidQuery`, and a readable query gets one (`returns_resolveValidQuery`).

* **`nameServed_iff`**: for which names and contents `resolve` does what it should with a name.
* `reddys_invalid`: a stored issuer whose own name is refused.
-/

namespace StockResearch.Securities

open PyText PyTime Txn Checked

namespace SecurityResolutionService

variable {u : Unicode}

/-- The query can be read as an exchange and a symbol or is neither, and likewise as an SEC CIK. -/
def Readable (u : Unicode) (nq : Text) : Prop :=
  (∃ explicit, explicitExchangeSymbol u nq = .ok explicit) ∧
    ∃ identifier, externalIdentifier u nq = .ok identifier

/-- The query is a well-formed exchange and symbol that names a recognised exchange. -/
def NamesExchange (service : SecurityResolutionService u) (nq : Text) : Prop :=
  ∃ pair, explicitExchangeSymbol u nq = .ok (some pair) ∧
    service.repository.recognizes pair.1 = true

/-- A current alias or an issuer has this normalized name. -/
def StoresName (service : SecurityResolutionService u) (name : Text) : Prop :=
  (∃ a ∈ service.repository.securityAliases.rows,
    a.isCurrent service.asOf = true ∧ a.normalizedAlias = name) ∨
  ∃ i ∈ service.repository.issuers.rows,
    i.normalizedLegalName = name ∨ i.normalizedDisplayName = name

/-- The level at which a name matches: as an alias if it is one, else as the name of an issuer. -/
def nameLevel (service : SecurityResolutionService u) (name : Text) : MatchType :=
  if service.repository.aliasMatches name service.asOf ≠ [] then .exactAlias else .exactIssuerName

def nameMatches (service : SecurityResolutionService u) (name : Text) : List SecurityCandidate :=
  if service.repository.aliasMatches name service.asOf ≠ [] then
    service.load "exact current alias" (service.repository.aliasMatches name service.asOf)
  else service.load "exact issuer name" (service.repository.issuerNameMatches name)

/-- A query with the normal form `nq` and the company name `name` gets a result that is not
`INVALID_QUERY`.  The result is the matches of the name, if there are any and unless something of
higher precedence matches or the query names an exchange. -/
def NameServed (service : SecurityResolutionService u) (query nq name : Text) : Prop :=
  ∃ r, service.resolve query = .ok r ∧ r.status ≠ .invalidQuery ∧
    (service.HigherMatch query ∨ service.NamesExchange nq ∨
      (service.nameMatches name ≠ [] → r.matchType = service.nameLevel name ∧
        r.candidates.Perm (service.nameMatches name)))

/-- Two names have the same matches. -/
def SameMatches (service : SecurityResolutionService u) (name name' : Text) : Prop :=
  service.nameLevel name' = service.nameLevel name ∧
    (service.nameMatches name').Perm (service.nameMatches name)

variable {service : SecurityResolutionService u} {query nq name : Text}
  {r : SecurityResolutionResult}

/-! ## What an answer is -/

/-- An outcome that returns is an answer to a query that fits into it. -/
def Answers (nq : Text) (outcome : Except Failure SecurityResolutionResult) : Prop :=
  ∀ r, outcome = .ok r → nq.length ≤ maxSecurityQueryLength ∧ r.status ≠ .invalidQuery

lemma answers_validated (hstatus : r.status ≠ .invalidQuery) :
    Answers r.normalizedQuery r.validated := by
  intro r' h
  unfold SecurityResolutionResult.validated at h
  obtain ⟨hshort, h⟩ := unit_bind_ok.mp h
  obtain ⟨-, h⟩ := unit_bind_ok.mp h
  obtain ⟨-, h⟩ := unit_bind_ok.mp h
  refine ⟨Nat.not_lt.mp (check_ok.mp hshort), ?_⟩
  split at h
  · cases h
  · cases h
    exact hstatus

lemma answers_notFoundResult : Answers nq (notFoundResult query nq) :=
  answers_validated (r := ⟨.notFound, query, nq, .none, 0, [], []⟩) (by simp)

lemma answers_candidateResult {level : MatchType} {candidates : List SecurityCandidate} :
    Answers nq (service.candidateResult query nq level candidates) := by
  intro r h
  obtain ⟨bounded, -, h⟩ := bind_ok.mp h
  refine answers_validated ?_ r h
  dsimp only
  split_ifs <;> simp

lemma answers_answerOr {level : MatchType} {candidates : List SecurityCandidate}
    {rest : Except Failure SecurityResolutionResult} (hrest : Answers nq rest) :
    Answers nq (service.answerOr query nq level candidates rest) := by
  unfold answerOr
  split_ifs
  · exact answers_candidateResult
  · exact hrest

lemma answers_resolveName : Answers nq (service.resolveName query nq) := by
  intro r h
  obtain ⟨name, -, h⟩ := bind_ok.mp h
  exact answers_answerOr (answers_answerOr (answers_answerOr answers_notFoundResult)) r h

lemma answers_resolveSymbol : Answers nq (service.resolveSymbol query nq) := by
  unfold resolveSymbol
  split
  · exact answers_resolveName
  · exact answers_answerOr answers_resolveName

lemma answers_resolveIdentifier : Answers nq (service.resolveIdentifier query nq) := by
  intro r h
  obtain ⟨identifier, -, h⟩ := bind_ok.mp h
  cases identifier with
  | none => exact answers_resolveSymbol r h
  | some cik => exact answers_answerOr answers_resolveSymbol r h

lemma answers_resolveValidQuery : Answers nq (service.resolveValidQuery query nq) := by
  intro r h
  obtain ⟨explicit, -, h⟩ := bind_ok.mp h
  cases explicit with
  | none => exact answers_resolveIdentifier r h
  | some pair =>
      refine answers_answerOr ?_ r h
      split_ifs
      · exact answers_notFoundResult
      · exact answers_resolveIdentifier

/-- A query that gets an answer is readable. -/
lemma readable_of_ok (h : service.resolveValidQuery query nq = .ok r) : Readable u nq := by
  obtain ⟨explicit, hexplicit, h⟩ := bind_ok.mp h
  refine ⟨⟨explicit, hexplicit⟩, ?_⟩
  cases explicit with
  | none =>
      obtain ⟨identifier, hidentifier, -⟩ := bind_ok.mp h
      exact ⟨identifier, hidentifier⟩
  | some pair => exact ⟨none, externalIdentifier_eq_none (by rw [hexplicit]; simp)⟩

/-- `resolve` passes the answers of the cascade on, and nothing else that is not
`INVALID_QUERY`. -/
lemma resolve_ok_iff (hnq : normalizeFreeText u query = .ok nq) :
    service.resolve query = .ok r ∧ r.status ≠ .invalidQuery ↔
      service.resolveValidQuery query nq = .ok r := by
  simp only [resolve, hnq, bind, Except.bind]
  cases hresult : service.resolveValidQuery query nq with
  | ok r' =>
      simp only [Except.ok.injEq, and_iff_left_iff_imp]
      rintro rfl
      exact (answers_resolveValidQuery r' hresult).2
  | error e =>
      cases e with
      | validation message => simp
      | invalidQuery message =>
          dsimp only
          rw [validated_eq _ (by simp) (by simp [SecurityResolutionResult.violation]) rfl]
          simp only [List.length_nil, Nat.zero_le, if_true, Except.ok.injEq, reduceCtorEq, iff_false]
          rintro ⟨rfl, hstatus⟩
          exact hstatus rfl

/-! ## What gets an answer -/

/-- One lookup returns if it finds something or what comes after it returns. -/
lemma returns_answerOr {level : MatchType} {rows : List Listing} {reason : String}
    {rest : Except Failure SecurityResolutionResult} (hrows : service.Rows nq level rows)
    (hlevel : level ≠ .none) (hlen : nq.length ≤ maxSecurityQueryLength)
    (hrest : rows = [] → ∃ r, rest = .ok r) :
    ∃ r, service.answerOr query nq level (service.load reason rows) rest = .ok r := by
  unfold answerOr
  by_cases hempty : rows = []
  · rw [if_neg (by simpa using load_eq_nil.mpr hempty)]
    exact hrest hempty
  · have hne : service.load reason rows ≠ [] := mt load_eq_nil.mp hempty
    have hresult := candidateResult_of_loaded query nq level (hrows.loaded reason) hne hlevel
    rw [if_pos hlen] at hresult
    obtain ⟨r, hr, -⟩ := hresult
    exact ⟨r, by rw [if_pos hne, hr]⟩

lemma returns_notFoundResult (hlen : nq.length ≤ maxSecurityQueryLength) :
    ∃ r, notFoundResult query nq = .ok r := by
  unfold notFoundResult
  rw [validated_eq _ (by simp) (by simp [SecurityResolutionResult.violation]) rfl, if_pos hlen]
  exact ⟨_, rfl⟩

section Levels

variable (hlen : nq.length ≤ maxSecurityQueryLength)

include hlen

lemma returns_resolveName (hname : normalizeCompanyName u nq = .ok name) :
    ∃ r, service.resolveName query nq = .ok r := by
  have halias : service.Rows nq .exactAlias
      (service.repository.aliasMatches name service.asOf) :=
    rows_filter (by simp [matchesAt, hname, SecurityMaster.aliasMatches])
  have hissuer : service.Rows nq .exactIssuerName (service.repository.issuerNameMatches name) :=
    rows_filter (by simp [matchesAt, hname, SecurityMaster.issuerNameMatches])
  have hprefix : service.Rows nq .prefixSuggestion
      (service.repository.prefixMatches name service.asOf) :=
    rows_filter (by simp [matchesAt, hname, SecurityMaster.prefixMatches])
  simp only [resolveName, hname, bind, Except.bind]
  exact returns_answerOr halias (by decide) hlen fun _ =>
    returns_answerOr hissuer (by decide) hlen fun _ =>
      returns_answerOr hprefix (by decide) hlen fun _ => returns_notFoundResult hlen

lemma returns_resolveSymbol
    (h : service.matchesAt nq .exactSymbol ≠ [] ∨ ∃ name, normalizeCompanyName u nq = .ok name) :
    ∃ r, service.resolveSymbol query nq = .ok r := by
  cases hsymbol : normalizeSymbol u nq with
  | error e =>
      simp only [resolveSymbol, hsymbol]
      rcases h with h | ⟨name, hname⟩
      · exact absurd (by simp [matchesAt, hsymbol]) h
      · exact returns_resolveName hlen hname
  | ok symbol =>
      have hrows : service.Rows nq .exactSymbol (service.repository.symbolMatches symbol) :=
        rows_filter (by simp [matchesAt, hsymbol, SecurityMaster.symbolMatches])
      simp only [resolveSymbol, hsymbol]
      refine returns_answerOr hrows (by decide) hlen fun hempty => ?_
      rcases h with h | ⟨name, hname⟩
      · exact absurd (by rw [hrows.eq, hempty]) h
      · exact returns_resolveName hlen hname

lemma returns_resolveIdentifier (hread : ∃ identifier, externalIdentifier u nq = .ok identifier)
    (h : service.matchesAt nq .exactIdentifier ≠ [] ∨ service.matchesAt nq .exactSymbol ≠ [] ∨
      ∃ name, normalizeCompanyName u nq = .ok name) :
    ∃ r, service.resolveIdentifier query nq = .ok r := by
  obtain ⟨identifier, hid⟩ := hread
  cases identifier with
  | none =>
      simp only [resolveIdentifier, hid, bind, Except.bind]
      rcases h with h | h
      · exact absurd (by simp [matchesAt, hid]) h
      · exact returns_resolveSymbol hlen h
  | some cik =>
      have hrows : service.Rows nq _ _ := rows_identifier hid
      simp only [resolveIdentifier, hid, bind, Except.bind]
      refine returns_answerOr hrows (by decide) hlen fun hempty => ?_
      rcases h with h | h
      · exact absurd (by rw [hrows.eq, hempty]) h
      · exact returns_resolveSymbol hlen h

/-- A query that can be read gets an answer, unless it is to be looked up by a name and has none. -/
lemma returns_resolveValidQuery (hread : Readable u nq)
    (h : (∃ level : MatchType, level.rank < MatchType.exactAlias.rank ∧
        service.matchesAt nq level ≠ []) ∨
      service.NamesExchange nq ∨ ∃ name, normalizeCompanyName u nq = .ok name) :
    ∃ r, service.resolveValidQuery query nq = .ok r := by
  obtain ⟨⟨explicit, hex⟩, hid⟩ := hread
  -- below the exchange level, a match or a name is left
  have hlower : service.matchesAt nq .exactExchangeSymbol = [] → ¬ service.NamesExchange nq →
      ∃ r, service.resolveIdentifier query nq = .ok r := by
    intro hempty hunnamed
    refine returns_resolveIdentifier hlen hid ?_
    rcases h with ⟨level, hrank, hmatch⟩ | hnamed | hname
    · cases level with
      | exactExchangeSymbol => exact absurd hempty hmatch
      | exactIdentifier => exact Or.inl hmatch
      | exactSymbol => exact Or.inr (Or.inl hmatch)
      | _ => simp [MatchType.rank] at hrank
    · exact absurd hnamed hunnamed
    · exact Or.inr (Or.inr hname)
  cases explicit with
  | none =>
      simp only [resolveValidQuery, hex, bind, Except.bind]
      refine hlower (by simp [matchesAt, hex]) ?_
      rintro ⟨pair, hpair, -⟩
      rw [hex] at hpair
      cases hpair
  | some pair =>
      obtain ⟨exchangeAlias, symbol⟩ := pair
      have hrows : service.Rows nq .exactExchangeSymbol
          (service.repository.exchangeSymbolMatches exchangeAlias symbol) :=
        rows_filter (by simp [matchesAt, hex, SecurityMaster.exchangeSymbolMatches])
      simp only [resolveValidQuery, hex, bind, Except.bind]
      rw [findExchangeSymbol_eq]
      refine returns_answerOr hrows (by decide) hlen fun hempty => ?_
      split_ifs with hrec
      · exact returns_notFoundResult hlen
      · refine hlower (by rw [hrows.eq, hempty]) ?_
        rintro ⟨pair, hpair, hrecognized⟩
        rw [hex] at hpair
        cases hpair
        exact hrec hrecognized

end Levels

/-! ## What a name gets -/

/-- What an answer from a nonempty list of loaded candidates says. -/
lemma candidateResult_matches {level : MatchType} {rows : List Listing} {reason : String}
    (hrows : service.Rows nq level rows) (hlevel : level ≠ .none)
    (hne : service.load reason rows ≠ [])
    (h : service.candidateResult query nq level (service.load reason rows) = .ok r) :
    r.matchType = level ∧ r.candidates.Perm (service.load reason rows) := by
  have hlen := (answers_candidateResult r h).1
  have hresult := candidateResult_of_loaded query nq level (hrows.loaded reason) hne hlevel
  rw [if_pos hlen] at hresult
  obtain ⟨r', hr', hmatch, hperm, -⟩ := hresult
  rw [h] at hr'
  cases hr'
  exact ⟨hmatch, hperm⟩

lemma notFoundResult_matchType (h : notFoundResult query nq = .ok r) : r.matchType = .none := by
  have hlen := (answers_notFoundResult r h).1
  unfold notFoundResult at h
  rw [validated_eq _ (by simp) (by simp [SecurityResolutionResult.violation]) rfl, if_pos hlen] at h
  cases h
  rfl

/-- **What the lookups by a name answer**: its matches, or something else if there are none. -/
lemma resolveName_ok (hname : normalizeCompanyName u nq = .ok name)
    (h : service.resolveName query nq = .ok r) :
    (service.nameMatches name ≠ [] → r.matchType = service.nameLevel name ∧
        r.candidates.Perm (service.nameMatches name)) ∧
      (service.nameMatches name = [] → r.matchType ≠ .exactAlias ∧ r.matchType ≠ .exactIssuerName) := by
  have halias : service.Rows nq .exactAlias
      (service.repository.aliasMatches name service.asOf) :=
    rows_filter (by simp [matchesAt, hname, SecurityMaster.aliasMatches])
  have hissuer : service.Rows nq .exactIssuerName (service.repository.issuerNameMatches name) :=
    rows_filter (by simp [matchesAt, hname, SecurityMaster.issuerNameMatches])
  have hprefix : service.Rows nq .prefixSuggestion
      (service.repository.prefixMatches name service.asOf) :=
    rows_filter (by simp [matchesAt, hname, SecurityMaster.prefixMatches])
  simp only [resolveName, hname, bind, Except.bind] at h
  unfold nameMatches nameLevel
  by_cases hnoalias : service.repository.aliasMatches name service.asOf = []
  · rw [if_neg (not_not.mpr hnoalias), if_neg (not_not.mpr hnoalias)]
    rw [answerOr, if_neg (by simpa using load_eq_nil.mpr hnoalias)] at h
    by_cases hnoissuer : service.load "exact issuer name"
        (service.repository.issuerNameMatches name) = []
    · refine ⟨fun hne => absurd hnoissuer hne, fun _ => ?_⟩
      rw [answerOr, if_neg (not_not.mpr hnoissuer), answerOr] at h
      split_ifs at h with hsuggest
      · rw [(candidateResult_matches hprefix (by decide) hsuggest h).1]
        decide
      · rw [notFoundResult_matchType h]
        decide
    · refine ⟨fun _ => ?_, fun hnil => absurd hnil hnoissuer⟩
      rw [answerOr, if_pos hnoissuer] at h
      exact candidateResult_matches hissuer (by decide) hnoissuer h
  · have hne : service.load "exact current alias"
        (service.repository.aliasMatches name service.asOf) ≠ [] := mt load_eq_nil.mp hnoalias
    rw [if_pos hnoalias, if_pos hnoalias]
    rw [answerOr, if_pos hne] at h
    refine ⟨fun _ => ?_, fun hnil => absurd hnil hne⟩
    exact candidateResult_matches halias (by decide) hne h

lemma nameLevel_exact (service : SecurityResolutionService u) (name : Text) :
    service.nameLevel name = .exactAlias ∨ service.nameLevel name = .exactIssuerName := by
  unfold nameLevel
  split_ifs
  · exact Or.inl rfl
  · exact Or.inr rfl

/-- **When a name is served.**  The query must be readable and at most 256 characters long, and,
unless something of higher precedence decides, the name of its normal form must have the matches of
its name. -/
theorem nameServed_iff (service : SecurityResolutionService u) {query nq name : Text}
    (hnq : normalizeFreeText u query = .ok nq) (_hname : normalizeCompanyName u query = .ok name) :
    service.NameServed query nq name ↔
      Readable u nq ∧ nq.length ≤ maxSecurityQueryLength ∧
        (service.HigherMatch query ∨ service.NamesExchange nq ∨
          ∃ name', normalizeCompanyName u nq = .ok name' ∧
            (service.nameMatches name ≠ [] → service.SameMatches name name')) := by
  have hhigher : service.HigherMatch query ↔ ∃ level : MatchType,
      level.rank < MatchType.exactAlias.rank ∧ service.matchesAt nq level ≠ [] := by
    unfold HigherMatch
    rw [hnq]
    simp
  -- below the other levels, the answer is that of the lookups by name
  have hfall : ¬ service.HigherMatch query → ¬ service.NamesExchange nq → Readable u nq →
      service.resolveValidQuery query nq = service.resolveName query nq := by
    rintro hnot hunnamed ⟨⟨explicit, hex⟩, hid⟩
    refine resolveValidQuery_eq_resolveName ⟨⟨explicit, hex, fun pair hpair => ?_⟩, hid⟩ ?_
    · by_contra hrec
      cases hpair
      exact hunnamed ⟨pair, hex, by simpa using hrec⟩
    · intro level hlevel
      by_contra hne
      exact hnot (hhigher.mpr ⟨level, hlevel, hne⟩)
  constructor
  · rintro ⟨r, hr, hstatus, hserved⟩
    have hresult := (resolve_ok_iff hnq).mp ⟨hr, hstatus⟩
    have hread := readable_of_ok hresult
    refine ⟨hread, (answers_resolveValidQuery r hresult).1, ?_⟩
    by_cases hnot : service.HigherMatch query
    · exact Or.inl hnot
    by_cases hunnamed : service.NamesExchange nq
    · exact Or.inr (Or.inl hunnamed)
    rw [hfall hnot hunnamed hread] at hresult
    obtain ⟨name', hname', -⟩ := bind_ok.mp hresult
    obtain ⟨hfound, hother⟩ := resolveName_ok hname' hresult
    refine Or.inr (Or.inr ⟨name', hname', fun hne => ?_⟩)
    have hserved := (hserved.resolve_left hnot).resolve_left hunnamed
    obtain ⟨hlevel, hperm⟩ := hserved hne
    have hne' : service.nameMatches name' ≠ [] := by
      intro hnil
      rcases service.nameLevel_exact name with h | h
      · exact (hother hnil).1 (hlevel.trans h)
      · exact (hother hnil).2 (hlevel.trans h)
    obtain ⟨hlevel', hperm'⟩ := hfound hne'
    exact ⟨hlevel'.symm.trans hlevel, hperm'.symm.trans hperm⟩
  · rintro ⟨hread, hlen, hcases⟩
    obtain ⟨r, hresult⟩ : ∃ r, service.resolveValidQuery query nq = .ok r := by
      refine returns_resolveValidQuery hlen hread ?_
      rcases hcases with h | h | ⟨name', hname', -⟩
      · exact Or.inl (hhigher.mp h)
      · exact Or.inr (Or.inl h)
      · exact Or.inr (Or.inr ⟨name', hname'⟩)
    obtain ⟨hr, hstatus⟩ := (resolve_ok_iff hnq).mpr hresult
    refine ⟨r, hr, hstatus, ?_⟩
    by_cases hnot : service.HigherMatch query
    · exact Or.inl hnot
    by_cases hunnamed : service.NamesExchange nq
    · exact Or.inr (Or.inl hunnamed)
    obtain ⟨name', hname', hsame⟩ := (hcases.resolve_left hnot).resolve_left hunnamed
    rw [hfall hnot hunnamed hread] at hresult
    refine Or.inr (Or.inr fun hne => ?_)
    obtain ⟨hlevel, hperm⟩ := hsame hne
    have hne' : service.nameMatches name' ≠ [] := by
      intro hnil
      rw [hnil] at hperm
      exact hne hperm.nil_eq.symm
    obtain ⟨hlevel', hperm'⟩ := (resolveName_ok hname' hresult).1 hne'
    exact ⟨hlevel'.trans hlevel, hperm'.trans hperm⟩

end SecurityResolutionService

/-! ## Two names -/

/-- A name without a dot or a colon is served. -/
theorem nameServed_shortName :
    dottedService.NameServed "Berkshire Class B".toList "BERKSHIRE CLASS B".toList
      "BERKSHIRE CLASS B".toList := by
  refine (SecurityResolutionService.nameServed_iff dottedService (by decide +kernel)
    (by decide +kernel)).mpr ⟨⟨⟨none, by decide +kernel⟩, none, by decide +kernel⟩,
      by decide +kernel, Or.inr (Or.inr ⟨"BERKSHIRE CLASS B".toList, by decide +kernel, ?_⟩)⟩
  exact fun _ => ⟨rfl, List.Perm.refl _⟩

/-- A master with one issuer, whose legal name has a dot and an apostrophe. -/
def reddys : SecurityMaster ascii where
  markets := dotted.markets
  exchanges := dotted.exchanges
  exchangeAliases := dotted.exchangeAliases
  issuers := ⟨[⟨4, "Dr. Reddy's".toList, "DR REDDY'S".toList, "Dr. Reddy's".toList,
    "DR REDDY'S".toList⟩], by decide, by decide⟩
  issuerIdentifiers := ∅
  securities := ⟨[⟨5, 4, 2, "RDY".toList, "RDY".toList, "Dr. Reddy's".toList, "USD".toList,
    .active⟩], by decide, by decide⟩
  securityAliases := ∅
  hasAliasedExchange := dotted.hasAliasedExchange
  hasMarket := dotted.hasMarket
  hasIssuer := by decide
  hasExchange := by decide
  hasSecurity := by decide
  validMic := dotted.validMic
  validCurrency := by decide
  validSymbol := by decide +kernel
  validLegalName := by decide +kernel
  validDisplayName := by decide +kernel
  validAlias := dualListing.validAlias

def reddysService : SecurityResolutionService ascii where
  repository := reddys
  maxCandidates := 10
  asOf := ⟨2024, 1, 2, validYear_2024, validMonth_1, validDay_2024_1_2⟩
  collate := compare
  max_pos := dottedService.max_pos
  max_le := dottedService.max_le

/-- **An issuer whose own name is refused.**  What follows the dot is read as an exchange, and the
apostrophe makes it an invalid one. -/
theorem reddys_invalid :
    normalizeFreeText ascii "Dr. Reddy's".toList = .ok "DR. REDDY'S".toList ∧
      normalizeCompanyName ascii "Dr. Reddy's".toList = .ok "DR REDDY'S".toList ∧
      reddysService.StoresName "DR REDDY'S".toList ∧
      reddysService.nameMatches "DR REDDY'S".toList ≠ [] ∧
      reddysService.resolve "Dr. Reddy's".toList = .ok ⟨.invalidQuery, "Dr. Reddy's".toList, [],
        .none, 0, [], ["Query is invalid."]⟩ := by
  refine ⟨by decide +kernel, by decide +kernel, Or.inr ⟨_, List.mem_singleton_self _, Or.inl rfl⟩,
    by decide +kernel, by decide +kernel⟩

end StockResearch.Securities
