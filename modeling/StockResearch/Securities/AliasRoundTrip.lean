import StockResearch.Securities.ResolutionLaw

/-!
# Looking a stored alias up by its own text

An alias is stored under one of two normal forms, by its type.  The lookup reads the text with a
third one first and then always takes the company name's.  `roundTrips_iff` says for which alias
texts that leads back to the alias, whatever else the master holds: the text must be readable as a
query, must not name a recognised exchange, and the company name of its normal form must be the
stored form.  A symbol-like alias with a dot never qualifies, for the company name turns the dot into
a blank (`not_roundTrips_dotted`).
-/

namespace StockResearch.Securities

open PyText PyTime Txn Checked

namespace SecurityResolutionService

variable {u : Unicode}

/-- A match above the alias level: of a symbol on a named exchange, of an SEC CIK, of a symbol. -/
def HigherMatch (service : SecurityResolutionService u) (query : Text) : Prop :=
  ∃ nq, normalizeFreeText u query = .ok nq ∧
    ∃ level : MatchType, level.rank < MatchType.exactAlias.rank ∧ service.matchesAt nq level ≠ []

/-- A current alias with at most as many owners as candidates are shown leads back to its security,
unless something of higher precedence matches. -/
def RoundTrips (service : SecurityResolutionService u) (a : SecurityAlias) : Prop :=
  a.isCurrent service.asOf = true →
  (service.repository.aliasMatches a.normalizedAlias service.asOf).length ≤ service.maxCandidates →
  ¬ service.HigherMatch a.aliasText →
  ∃ r, service.resolve a.aliasText = .ok r ∧ ∃ c ∈ r.candidates, c.securityId = a.securityId

/-- The masters have the same markets, exchanges and exchange aliases. -/
structure SameExchanges (service service' : SecurityResolutionService u) : Prop where
  markets : service'.repository.markets = service.repository.markets
  exchanges : service'.repository.exchanges = service.repository.exchanges
  exchangeAliases : service'.repository.exchangeAliases = service.repository.exchangeAliases

/-- The lookup reads the text of an alias back as the form that it is stored under. -/
def ReadBack (service : SecurityResolutionService u) (a : SecurityAlias) : Prop :=
  ∃ nq, normalizeFreeText u a.aliasText = .ok nq ∧ service.Proceeds nq ∧
    normalizeCompanyName u nq = .ok a.normalizedAlias

variable {service service' : SecurityResolutionService u} {query nq : Text}

lemma SameExchanges.recognizes (h : service.SameExchanges service') (exchangeAlias : Text) :
    service'.repository.recognizes exchangeAlias = service.repository.recognizes exchangeAlias := by
  simp only [SecurityMaster.recognizes, h.exchangeAliases]

lemma SameExchanges.proceeds (h : service.SameExchanges service') :
    service'.Proceeds nq ↔ service.Proceeds nq := by
  simp only [Proceeds, h.recognizes]

/-! ## What reads back is found -/

/-- With no match above it, a query that proceeds is decided by its name. -/
lemma resolveValidQuery_eq_resolveName (hproceeds : service.Proceeds nq)
    (hhigh : service.Highest nq .exactAlias) :
    service.resolveValidQuery query nq = service.resolveName query nq := by
  obtain ⟨⟨explicit, hex, hun⟩, identifier, hid⟩ := hproceeds
  have hsymbol : service.resolveSymbol query nq = service.resolveName query nq := by
    have hempty := hhigh .exactSymbol (by decide)
    cases hs : normalizeSymbol u nq with
    | error e => simp only [resolveSymbol, hs]
    | ok symbol =>
        simp only [matchesAt, hs] at hempty
        simp only [resolveSymbol, hs, answerOr]
        rw [if_neg (by simpa using load_eq_nil.mpr hempty)]
  have hidentifier : service.resolveIdentifier query nq = service.resolveName query nq := by
    have hempty := hhigh .exactIdentifier (by decide)
    cases identifier with
    | none => simp only [resolveIdentifier, hid, bind, Except.bind, hsymbol]
    | some cik =>
        simp only [matchesAt, hid] at hempty
        simp only [resolveIdentifier, hid, bind, Except.bind, answerOr, hsymbol]
        rw [if_neg (by simpa using load_eq_nil.mpr hempty)]
  have hempty := hhigh .exactExchangeSymbol (by decide)
  cases explicit with
  | none => simp only [resolveValidQuery, hex, bind, Except.bind, hidentifier]
  | some pair =>
      obtain ⟨exchangeAlias, symbol⟩ := pair
      simp only [matchesAt, hex] at hempty
      simp only [resolveValidQuery, hex, bind, Except.bind, answerOr, findExchangeSymbol, hempty,
        hun _ rfl, hidentifier]
      simp

/-- The securities of an alias are the owners of its stored form. -/
lemma exists_owner {a : SecurityAlias} (ha : a ∈ service.repository.securityAliases.rows)
    (hcurrent : a.isCurrent service.asOf = true) :
    ∃ l ∈ service.repository.aliasMatches a.normalizedAlias service.asOf,
      l.security.id = a.securityId := by
  obtain ⟨s, hs, hid⟩ := service.repository.hasSecurity a ha
  obtain ⟨l, hl, rfl⟩ := SecurityMaster.exists_listing hs
  refine ⟨l, List.mem_filter.mpr ⟨hl, List.any_eq_true.mpr ⟨a, ha, ?_⟩⟩, hid⟩
  simp [hid, hcurrent]

lemma roundTrips_of_readBack {a : SecurityAlias}
    (ha : a ∈ service.repository.securityAliases.rows) (h : service.ReadBack a) :
    service.RoundTrips a := by
  obtain ⟨nq, hnq, hproceeds, hname⟩ := h
  intro hcurrent howners hnothing
  have hhigh : service.Highest nq .exactAlias := by
    intro level hlevel
    by_contra hne
    exact hnothing ⟨nq, hnq, level, hlevel, hne⟩
  obtain ⟨l, hl, hid⟩ := exists_owner ha hcurrent
  have hrows : service.Rows nq .exactAlias
      (service.repository.aliasMatches a.normalizedAlias service.asOf) :=
    rows_filter (by simp [matchesAt, hname, SecurityMaster.aliasMatches])
  have hne : service.load "exact current alias"
      (service.repository.aliasMatches a.normalizedAlias service.asOf) ≠ [] :=
    mt load_eq_nil.mp (List.ne_nil_of_mem hl)
  have hresult := candidateResult_of_loaded a.aliasText nq .exactAlias
    (hrows.loaded "exact current alias") hne (by decide)
  rw [if_pos (length_le_of_normalizeCompanyName hname)] at hresult
  obtain ⟨r, hr, -, hperm, -⟩ := hresult
  refine ⟨r, ?_, l.candidate "exact current alias",
    hperm.mem_iff.mpr (mem_loadCandidates hl howners), hid⟩
  simp only [resolve, hnq, bind, Except.bind, resolveValidQuery_eq_resolveName hproceeds hhigh,
    resolveName, hname, answerOr]
  rw [if_pos hne, hr]

end SecurityResolutionService

/-! ## A master in which nothing else helps -/

section Shadow

variable {u : Unicode}

def digits : Text := "0123456789".toList

lemma nfkcChecked_digit {c : Char} (hc : c ∈ digits) : nfkcChecked u [c] = .ok [c] := by
  obtain ⟨hnfkc, -, hother, -⟩ := u.digit c hc
  simp [nfkcChecked, hnfkc, hother, maxSecurityQueryLength]

lemma requireMeaningful_digit {c : Char} (hc : c ∈ digits) : requireMeaningful u [c] = .ok [c] := by
  simp [requireMeaningful, (u.digit c hc).2.2.2]

lemma normalizeSymbol_digit {c : Char} (hc : c ∈ digits) : normalizeSymbol u [c] = .ok [c] := by
  have hsqueeze : ∀ c ∈ digits, squeeze [c] = [c] ∧ isSymbolText [c] = true :=
    forall_of_all (by decide)
  simp [normalizeSymbol, nfkcChecked_digit hc, hsqueeze c hc, (u.digit c hc).2.1,
    requireMeaningful_digit hc, check, bind, Except.bind, pure, Except.pure]

lemma normalizeCompanyName_digit {c : Char} (hc : c ∈ digits) :
    normalizeCompanyName u [c] = .ok [c] := by
  have hblank : ∀ c ∈ digits, collapse (blankSeparators (strip [c])) = [c] :=
    forall_of_all (by decide)
  simp [normalizeCompanyName, nfkcChecked_digit hc, hblank c hc, (u.digit c hc).2.1,
    requireMeaningful_digit hc, bind, Except.bind]

/-- Two digits that are neither of two texts. -/
lemma exists_digits (x y : Text) : ∃ c ∈ digits, ∃ d ∈ digits, c ≠ d ∧
    [c] ≠ x ∧ [c] ≠ y ∧ [d] ≠ x ∧ [d] ≠ y := by
  have hone : ∀ c d : Char, c ≠ d → ∀ t : Text, [c] = t → [d] ≠ t := by
    rintro c d hcd _ rfl heq
    exact hcd (List.head_eq_of_cons_eq heq).symm
  have hfree : ∀ c d e : Char, c ≠ d → c ≠ e → d ≠ e →
      ([c] ≠ x ∧ [c] ≠ y) ∨ ([d] ≠ x ∧ [d] ≠ y) ∨ ([e] ≠ x ∧ [e] ≠ y) := by
    intro c d e hcd hce hde
    have := hone c d hcd
    have := hone c e hce
    have := hone d e hde
    grind
  -- one digit is free among the first three, another among the next three
  rcases hfree '0' '1' '2' (by decide) (by decide) (by decide) with h | h | h <;>
    rcases hfree '3' '4' '5' (by decide) (by decide) (by decide) with h' | h' | h' <;>
    exact ⟨_, by decide, _, by decide, by decide, h.1, h.2, h'.1, h'.2⟩

/-- Two digits that a query reads as neither of. -/
lemma exists_symbols (u : Unicode) (text : Text) : ∃ c ∈ digits, ∃ d ∈ digits, c ≠ d ∧
    ∀ nq, normalizeFreeText u text = .ok nq →
      (∀ pair, explicitExchangeSymbol u nq = .ok (some pair) → [c] ≠ pair.2 ∧ [d] ≠ pair.2) ∧
      ∀ form, normalizeSymbol u nq = .ok form → [c] ≠ form ∧ [d] ≠ form := by
  have hform : ∀ {α : Type} (x : Except Failure α) (f : α → Text),
      ∃ t, ∀ a, x = .ok a → f a = t := by
    intro α x f
    cases x with
    | error e => exact ⟨[], by simp⟩
    | ok a => exact ⟨f a, by simp⟩
  cases hnq : normalizeFreeText u text with
  | error e => exact ⟨'0', by decide, '1', by decide, by decide, by simp⟩
  | ok nq =>
      obtain ⟨x, hx⟩ := hform (explicitExchangeSymbol u nq) fun pair => pair.elim [] (·.2)
      obtain ⟨y, hy⟩ := hform (normalizeSymbol u nq) id
      obtain ⟨c, hc, d, hd, hcd, hcx, hcy, hdx, hdy⟩ := exists_digits x y
      refine ⟨c, hc, d, hd, hcd, ?_⟩
      rintro _ ⟨⟩
      refine ⟨fun pair hpair => ?_, fun form hread => ?_⟩
      · rw [show pair.2 = x from hx _ hpair]
        exact ⟨hcx, hdx⟩
      · rw [show form = y from hy _ hread]
        exact ⟨hcy, hdy⟩

/-- A name for the other issuer, which a query with a company name reads as, and a digit that it
does not. -/
lemma exists_otherName (u : Unicode) (text : Text) : ∃ name ∈ digits, ∃ otherName otherForm,
    normalizeCompanyName u otherName = .ok otherForm ∧
    ∀ nq form, normalizeFreeText u text = .ok nq → normalizeCompanyName u nq = .ok form →
      otherForm = form ∧ [name] ≠ form := by
  have hzero : normalizeCompanyName u ['0'] = .ok ['0'] := normalizeCompanyName_digit (by decide)
  cases hnq : normalizeFreeText u text with
  | error e => exact ⟨'0', by decide, ['0'], ['0'], hzero, by simp⟩
  | ok nq =>
      cases hname : normalizeCompanyName u nq with
      | error e =>
          refine ⟨'0', by decide, ['0'], ['0'], hzero, ?_⟩
          rintro _ form ⟨⟩ hform
          rw [hname] at hform
          cases hform
      | ok form =>
          obtain ⟨name, hmem, -, -, -, hne, -⟩ := exists_digits form form
          refine ⟨name, hmem, nq, form, hname, ?_⟩
          rintro _ form' ⟨⟩ hform'
          rw [hname] at hform'
          cases hform'
          exact ⟨rfl, hne⟩

/-- The content of a small master: an alias of a security whose symbol and issuer's names are
digits, and a second security of an issuer with a given name. -/
structure ShadowContent (u : Unicode) where
  text : Text
  aliasType : SecurityAliasType
  stored : Text
  valid : storedForm u aliasType text = .ok stored
  name : Char
  symbol : Char
  otherSymbol : Char
  name_mem : name ∈ digits
  symbol_mem : symbol ∈ digits
  other_mem : otherSymbol ∈ digits
  symbol_ne : symbol ≠ otherSymbol
  otherName : Text
  otherForm : Text
  otherValid : normalizeCompanyName u otherName = .ok otherForm

namespace ShadowContent

variable (content : ShadowContent u)

def owner : Issuer := ⟨1, [content.name], [content.name], [content.name], [content.name]⟩

def otherIssuer : Issuer :=
  ⟨2, content.otherName, content.otherForm, content.otherName, content.otherForm⟩

def security (e : Exchange) : Security :=
  ⟨1, 1, e.id, [content.symbol], [content.symbol], [content.name], "USD".toList, .active⟩

def otherSecurity (e : Exchange) : Security :=
  ⟨2, 2, e.id, [content.otherSymbol], [content.otherSymbol], [content.name], "USD".toList, .active⟩

def aliasRow : SecurityAlias :=
  ⟨1, 1, content.text, content.stored, content.aliasType, none, none, true⟩

/-- The master with this content on an exchange of another master. -/
def master (base : SecurityMaster u) (e : Exchange) (he : e ∈ base.exchanges.rows) :
    SecurityMaster u where
  markets := base.markets
  exchanges := base.exchanges
  exchangeAliases := base.exchangeAliases
  issuers := ⟨[content.owner, content.otherIssuer], by simp [Schema.clash, owner, otherIssuer]; decide,
    by simp [Schema.check]⟩
  issuerIdentifiers := ∅
  securities := ⟨[content.security e, content.otherSecurity e], by
      simp [Schema.clash, security, otherSecurity, content.symbol_ne]; decide,
    by simp [Schema.check]⟩
  securityAliases := ⟨[content.aliasRow], by simp, by simp [Schema.check, aliasRow]⟩
  hasAliasedExchange := base.hasAliasedExchange
  hasMarket := base.hasMarket
  hasIssuer := by simp [security, otherSecurity, owner, otherIssuer]
  hasExchange := by simpa [security, otherSecurity] using ⟨e, he, rfl⟩
  hasSecurity := by simp [security, aliasRow]
  validMic := base.validMic
  validCurrency := by
    simp only [List.mem_cons, List.not_mem_nil, or_false, forall_eq_or_imp, forall_eq, security,
      otherSecurity]
    decide
  validSymbol := by
    simp [security, otherSecurity, normalizeSymbol_digit content.symbol_mem,
      normalizeSymbol_digit content.other_mem]
  validLegalName := by
    simp [owner, otherIssuer, normalizeCompanyName_digit content.name_mem, content.otherValid]
  validDisplayName := by
    simp [owner, otherIssuer, normalizeCompanyName_digit content.name_mem, content.otherValid]
  validAlias := by simp [aliasRow, content.valid]

/-- A service over it that shows ten candidates. -/
def service (base : SecurityResolutionService u) (e : Exchange)
    (he : e ∈ base.repository.exchanges.rows) : SecurityResolutionService u where
  repository := content.master base.repository e he
  maxCandidates := 10
  asOf := base.asOf
  collate := base.collate
  max_pos := one_le_ten
  max_le := by decide

variable {content} {base : SecurityResolutionService u} {e : Exchange}
  {he : e ∈ base.repository.exchanges.rows} {nq : Text}

lemma sameExchanges : base.SameExchanges (content.service base e he) := ⟨rfl, rfl, rfl⟩

lemma aliasRow_mem :
    content.aliasRow ∈ (content.service base e he).repository.securityAliases.rows := by
  simp [service, master]

lemma mem_listings {l : Listing} (h : l ∈ (content.service base e he).repository.listings) :
    (l.security = content.security e ∧ l.issuer = content.owner) ∨
      (l.security = content.otherSecurity e ∧ l.issuer = content.otherIssuer) := by
  obtain ⟨s, hs, hl⟩ := List.mem_filterMap.mp h
  have hsecurity := SecurityMaster.join_security hl
  simp only [SecurityMaster.join, bind, Option.bind_eq_some_iff, pure, Option.some.injEq] at hl
  obtain ⟨i, hi, _, -, _, -, rfl⟩ := hl
  have hs : s = content.security e ∨ s = content.otherSecurity e := by
    simpa [service, master] using hs
  rcases hs with rfl | rfl
  · left
    refine ⟨rfl, ?_⟩
    simp only [service, master, Table.selectOne, security, owner] at hi
    cases hi
    rfl
  · right
    refine ⟨rfl, ?_⟩
    simp only [service, master, Table.selectOne, otherSecurity, owner, otherIssuer] at hi
    cases hi
    rfl

lemma length_listings : (content.service base e he).repository.listings.length ≤ 2 :=
  List.length_filterMap_le _ _

/-- A query that reads as neither of the two symbols matches nothing above the alias level. -/
lemma matchesAt_eq_nil
    (hex : ∀ pair, explicitExchangeSymbol u nq = .ok (some pair) →
      [content.symbol] ≠ pair.2 ∧ [content.otherSymbol] ≠ pair.2)
    (hsym : ∀ form, normalizeSymbol u nq = .ok form →
      [content.symbol] ≠ form ∧ [content.otherSymbol] ≠ form)
    {level : MatchType} (hlevel : level.rank < MatchType.exactAlias.rank) :
    (content.service base e he).matchesAt nq level = [] := by
  have hnone : ∀ form, [content.symbol] ≠ form ∧ [content.otherSymbol] ≠ form →
      ∀ l ∈ (content.service base e he).repository.listings, l.security.normalizedSymbol ≠ form := by
    intro form hne l hl
    rcases mem_listings hl with h | h
    · rw [h.1]
      exact hne.1
    · rw [h.1]
      exact hne.2
  cases level with
  | exactExchangeSymbol =>
      simp only [SecurityResolutionService.matchesAt]
      cases hread : explicitExchangeSymbol u nq with
      | error => rfl
      | ok pair =>
          cases pair with
          | none => rfl
          | some pair =>
              refine List.filter_eq_nil_iff.mpr fun l hl => ?_
              simp [hnone pair.2 (hex pair hread) l hl]
  | exactIdentifier =>
      simp only [SecurityResolutionService.matchesAt]
      split
      · refine List.flatMap_eq_nil_iff.mpr fun l _ => ?_
        exact List.map_eq_nil_iff.mpr rfl
      · rfl
  | exactSymbol =>
      simp only [SecurityResolutionService.matchesAt]
      cases hread : normalizeSymbol u nq with
      | error => rfl
      | ok form =>
          refine List.filter_eq_nil_iff.mpr fun l hl => ?_
          simp [hnone form (hsym form hread) l hl]
  | _ => simp [MatchType.rank] at hlevel

/-- The owner of the alias is no match at the alias level of another name, and the other security
answers to that name. -/
lemma not_found_of_otherForm {query : Text} {r : SecurityResolutionResult}
    (hform : content.otherForm ≠ content.stored) (hname : [content.name] ≠ content.otherForm)
    (hnq : normalizeCompanyName u nq = .ok content.otherForm)
    (hr : (content.service base e he).resolveName query nq = .ok r) :
    ∀ c ∈ r.candidates, c.securityId ≠ 1 := by
  have halias : (content.service base e he).repository.aliasMatches content.otherForm
      (content.service base e he).asOf = [] := by
    refine List.filter_eq_nil_iff.mpr fun l _ => ?_
    simp [service, master, aliasRow, hform.symm]
  have hrows : (content.service base e he).Rows nq .exactIssuerName
      ((content.service base e he).repository.issuerNameMatches content.otherForm) :=
    SecurityResolutionService.rows_filter
      (by simp [SecurityResolutionService.matchesAt, hnq, SecurityMaster.issuerNameMatches])
  have hissuer : (content.service base e he).repository.issuerNameMatches content.otherForm ≠ [] := by
    have hother : content.otherSecurity e ∈
        (content.service base e he).repository.securities.rows := by simp [service, master]
    obtain ⟨l, hl, hsec⟩ := SecurityMaster.exists_listing hother
    refine List.ne_nil_of_mem (List.mem_filter.mpr ⟨hl, ?_⟩)
    rcases mem_listings hl with h | h
    · rw [hsec] at h
      exact absurd (congrArg Security.id h.1) (by simp [otherSecurity, security]; decide)
    · simp [h.2, otherIssuer]
  have hne : (content.service base e he).load "exact issuer name"
      ((content.service base e he).repository.issuerNameMatches content.otherForm) ≠ [] :=
    mt SecurityResolutionService.load_eq_nil.mp hissuer
  have hresult := SecurityResolutionService.candidateResult_of_loaded query nq .exactIssuerName
    (hrows.loaded "exact issuer name") (hne) (by decide)
  rw [if_pos (length_le_of_normalizeCompanyName hnq)] at hresult
  obtain ⟨r', hr', -, hperm, -⟩ := hresult
  have heq : r' = r := by
    simp only [SecurityResolutionService.resolveName, hnq, bind, Except.bind,
      SecurityResolutionService.answerOr] at hr
    rw [if_neg (by simpa using SecurityResolutionService.load_eq_nil.mpr halias), if_pos hne, hr'] at hr
    cases hr
    rfl
  subst heq
  intro c hc hid
  obtain ⟨l, hl, rfl⟩ := mem_of_mem_loadCandidates (hperm.mem_iff.mp hc)
  rcases mem_listings (hrows.listed l hl) with h | h
  · have hcond := (List.mem_filter.mp hl).2
    simp [h.2, owner, hname] at hcond
  · rw [Listing.candidate, h.1] at hid
    exact absurd hid (by simp [otherSecurity]; decide)

end ShadowContent

end Shadow

/-! ## When an alias leads back to its security -/

namespace SecurityResolutionService

variable {u : Unicode} {service : SecurityResolutionService u} {query nq : Text}

/-- A refused query and a recognised exchange without the symbol give no candidate. -/
lemma candidates_eq_nil_of_not_proceeds {r : SecurityResolutionResult}
    (hnq : normalizeFreeText u query = .ok nq) (h : ¬ service.Proceeds nq)
    (hempty : service.matchesAt nq .exactExchangeSymbol = [])
    (hr : service.resolve query = .ok r) : r.candidates = [] := by
  have hvalidated : ∀ r' : SecurityResolutionResult, r'.validated = .ok r → r = r' := by
    intro r' hr'
    unfold SecurityResolutionResult.validated at hr'
    rw [check_bind_ok, check_bind_ok, check_bind_ok] at hr'
    have hr' := hr'.2.2.2
    split at hr'
    · cases hr'
    · cases hr'
      rfl
  have hrefused : ∀ e, service.resolveValidQuery query nq = .error e → r.candidates = [] := by
    intro e he
    simp only [resolve, hnq, bind, Except.bind, he] at hr
    cases e with
    | validation message => cases hr
    | invalidQuery message => rw [hvalidated _ hr]
  cases hex : explicitExchangeSymbol u nq with
  | error e =>
      refine hrefused e ?_
      rw [resolveValidQuery, hex]
      rfl
  | ok explicit =>
      cases explicit with
      | none =>
          cases hid : externalIdentifier u nq with
          | ok identifier => exact absurd ⟨⟨none, hex, by simp⟩, identifier, hid⟩ h
          | error e =>
              refine hrefused e ?_
              simp only [resolveValidQuery, hex, resolveIdentifier, hid, bind, Except.bind]
      | some pair =>
          have hid : externalIdentifier u nq = .ok none :=
            externalIdentifier_eq_none (by rw [hex]; simp)
          have hrec : service.repository.recognizes pair.1 = true := by
            by_contra hun
            refine h ⟨⟨some pair, hex, ?_⟩, none, hid⟩
            intro pair' hpair'
            cases hpair'
            simpa using hun
          simp only [matchesAt, hex] at hempty
          simp only [resolve, hnq, resolveValidQuery, hex, bind, Except.bind, findExchangeSymbol,
            hempty, answerOr, hrec] at hr
          simp only [List.take_nil, List.map_nil, ne_eq, not_true_eq_false, if_false, if_true] at hr
          split at hr
          · rw [hvalidated _ hr]
          · rw [hvalidated _ hr]

/-- Where the text of an alias does not read back, some master on the same exchanges loses it. -/
lemma exists_lost {a : SecurityAlias} (ha : a ∈ service.repository.securityAliases.rows)
    (h : ¬ service.ReadBack a) :
    ∃ service', service.SameExchanges service' ∧
      ∃ a' ∈ service'.repository.securityAliases.rows, a'.aliasText = a.aliasText ∧
        a'.aliasType = a.aliasType ∧ ¬ service'.RoundTrips a' := by
  obtain ⟨s, hs, -⟩ := service.repository.hasSecurity a ha
  obtain ⟨e, he, -⟩ := service.repository.hasExchange s hs
  have hvalid := service.repository.validAlias a ha
  obtain ⟨c, hc, d, hd, hcd, hsymbols⟩ := exists_symbols u a.aliasText
  obtain ⟨name, hname, otherName, otherForm, hotherValid, hform⟩ := exists_otherName u a.aliasText
  let content : ShadowContent u :=
    ⟨a.aliasText, a.aliasType, a.normalizedAlias, hvalid, name, c, d, hname, hc, hd, hcd, otherName,
      otherForm, hotherValid⟩
  have hsame : service.SameExchanges (content.service service e he) := ShadowContent.sameExchanges
  refine ⟨content.service service e he, hsame, content.aliasRow,
    ShadowContent.aliasRow_mem, rfl, rfl, fun hround => h ?_⟩
  have hnothing : ∀ nq, normalizeFreeText u a.aliasText = .ok nq →
      (content.service service e he).Highest nq .exactAlias :=
    fun nq hnq _ hlevel =>
      ShadowContent.matchesAt_eq_nil (hsymbols nq hnq).1 (hsymbols nq hnq).2 hlevel
  obtain ⟨r, hr, candidate, hmem, hid⟩ := hround (by simp [SecurityAlias.isCurrent,
      ShadowContent.aliasRow])
    ((List.length_filter_le _ _).trans (ShadowContent.length_listings.trans (show 2 ≤ 10 by decide)))
    (by
      rintro ⟨nq, hnq, level, hlevel, hne⟩
      exact hne (hnothing nq hnq level hlevel))
  replace hid : candidate.securityId = 1 := hid
  replace hr : (content.service service e he).resolve a.aliasText = .ok r := hr
  cases hnq : normalizeFreeText u a.aliasText with
  | error e' =>
      obtain ⟨message, rfl⟩ := raisesInvalid_normalizeFreeText e' hnq
      simp only [resolve, hnq, bind, Except.bind] at hr
      cases hr
      cases hmem
  | ok nq =>
      have hproceeds : service.Proceeds nq := by
        by_contra hnot
        have hempty := candidates_eq_nil_of_not_proceeds hnq (mt hsame.proceeds.mp hnot)
          (hnothing nq hnq _ (by decide)) hr
        rw [hempty] at hmem
        cases hmem
      refine ⟨nq, hnq, hproceeds, ?_⟩
      by_contra hstored
      have hvalidQuery : (content.service service e he).resolveValidQuery a.aliasText nq =
          (content.service service e he).resolveName a.aliasText nq :=
        resolveValidQuery_eq_resolveName (hsame.proceeds.mpr hproceeds) (hnothing nq hnq)
      simp only [resolve, hnq, bind, Except.bind, hvalidQuery] at hr
      cases hcompany : normalizeCompanyName u nq with
      | error e' =>
          obtain ⟨message, rfl⟩ := raisesInvalid_normalizeCompanyName e' hcompany
          simp only [resolveName, hcompany, bind, Except.bind] at hr
          cases hr
          cases hmem
      | ok form =>
          obtain ⟨rfl, hne⟩ := hform nq form hnq hcompany
          have hstored' : otherForm ≠ a.normalizedAlias := fun heq =>
            hstored (hcompany.trans (congrArg Except.ok heq))
          split at hr
          · cases hr
            cases hmem
          · exact ShadowContent.not_found_of_otherForm hstored' hne hcompany hr candidate hmem hid

/-- **Which alias texts lead back.**  A stored alias is found by its own text in every master on the
same exchanges exactly when the lookup reads the text back as the stored form. -/
theorem roundTrips_iff (service : SecurityResolutionService u) (a : SecurityAlias)
    (ha : a ∈ service.repository.securityAliases.rows) :
    (∀ service', service.SameExchanges service' →
      ∀ a' ∈ service'.repository.securityAliases.rows, a'.aliasText = a.aliasText →
        a'.aliasType = a.aliasType → service'.RoundTrips a') ↔ service.ReadBack a := by
  constructor
  · intro h
    by_contra hlost
    obtain ⟨service', hsame, a', ha', htext, htype, hnot⟩ := exists_lost ha hlost
    exact hnot (h service' hsame a' ha' htext htype)
  · rintro ⟨nq, hnq, hproceeds, hname⟩ service' hsame a' ha' htext htype
    refine roundTrips_of_readBack ha' ⟨nq, by rw [htext, hnq], hsame.proceeds.mpr hproceeds, ?_⟩
    -- the stored form is a function of the text and the type
    have hvalid := service.repository.validAlias a ha
    have hvalid' := service'.repository.validAlias a' ha'
    rw [htext, htype, hvalid] at hvalid'
    rw [hname]
    exact hvalid'

end SecurityResolutionService

/-! ## An alias with a dot -/

/-- A master with the symbol `BRK-B`, which one provider writes with a dot and another with its
short name. -/
def dotted : SecurityMaster ascii where
  markets := ⟨[⟨1, "US".toList⟩], by decide, by decide⟩
  exchanges := ⟨[⟨2, 1, "XNAS".toList, "Nasdaq".toList⟩], by decide, by decide⟩
  exchangeAliases := ⟨[⟨3, 2, "US".toList, true⟩], by decide, by decide⟩
  issuers := ⟨[⟨4, "Berkshire Hathaway Inc.".toList, "BERKSHIRE HATHAWAY INC".toList,
    "Berkshire".toList, "BERKSHIRE".toList⟩], by decide, by decide⟩
  issuerIdentifiers := ∅
  securities := ⟨[⟨5, 4, 2, "BRK-B".toList, "BRK-B".toList, "Berkshire".toList, "USD".toList,
    .active⟩], by decide, by decide⟩
  securityAliases := ⟨[⟨6, 5, "BRK.B".toList, "BRK.B".toList, .providerSymbol, none, none, true⟩,
    ⟨7, 5, "Berkshire Class B".toList, "BERKSHIRE CLASS B".toList, .companyShortName, none, none, true⟩],
    by decide, by decide⟩
  hasAliasedExchange := by decide
  hasMarket := by decide
  hasIssuer := by decide
  hasExchange := by decide
  hasSecurity := by decide
  validMic := by decide
  validCurrency := by decide
  validSymbol := by decide +kernel
  validLegalName := by decide +kernel
  validDisplayName := by decide +kernel
  validAlias := by decide +kernel

def dottedService : SecurityResolutionService ascii where
  repository := dotted
  maxCandidates := 10
  asOf := ⟨2024, 1, 2, validYear_2024, validMonth_1, validDay_2024_1_2⟩
  collate := compare
  max_pos := one_le_ten
  max_le := by decide

def dottedAlias : SecurityAlias :=
  ⟨6, 5, "BRK.B".toList, "BRK.B".toList, .providerSymbol, none, none, true⟩

def shortName : SecurityAlias :=
  ⟨7, 5, "Berkshire Class B".toList, "BERKSHIRE CLASS B".toList, .companyShortName, none, none, true⟩

/-- The short name leads back to the security in every master on these exchanges. -/
theorem roundTrips_shortName : shortName ∈ dottedService.repository.securityAliases.rows ∧
    dottedService.RoundTrips shortName := by
  have hmem : shortName ∈ dottedService.repository.securityAliases.rows := by decide
  have hread : dottedService.ReadBack shortName := by
    refine ⟨"BERKSHIRE CLASS B".toList, by decide +kernel, ⟨⟨none, by decide +kernel, by simp⟩, none,
      by decide +kernel⟩, by decide +kernel⟩
  exact ⟨hmem, (SecurityResolutionService.roundTrips_iff dottedService shortName hmem).mpr hread
    dottedService ⟨rfl, rfl, rfl⟩ shortName hmem rfl rfl⟩

/-- The symbol with a dot is looked up with a blank, and not found. -/
theorem not_roundTrips_dotted : dottedAlias ∈ dottedService.repository.securityAliases.rows ∧
    ¬ dottedService.RoundTrips dottedAlias := by
  refine ⟨by decide, fun h => ?_⟩
  have hnq : normalizeFreeText ascii "BRK.B".toList = .ok "BRK.B".toList := by decide +kernel
  have hresult : dottedService.resolve "BRK.B".toList =
      .ok ⟨.notFound, "BRK.B".toList, "BRK.B".toList, .none, 0, [], []⟩ := by decide +kernel
  have hnothing : ¬ dottedService.HigherMatch "BRK.B".toList := by
    rintro ⟨nq, hread, level, hlevel, hne⟩
    rw [hnq] at hread
    cases hread
    refine hne ?_
    cases level with
    | exactExchangeSymbol => decide +kernel
    | exactIdentifier => decide +kernel
    | exactSymbol => decide +kernel
    | _ => simp [MatchType.rank] at hlevel
  obtain ⟨r, hr, c, hc, -⟩ := h (by decide) (by decide +kernel) hnothing
  have heq := hr.symm.trans hresult
  cases heq
  cases hc

end StockResearch.Securities
