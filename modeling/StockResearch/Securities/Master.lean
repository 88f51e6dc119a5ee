import StockResearch.Core.Calendar
import StockResearch.Core.Table
import StockResearch.Core.Uuid
import StockResearch.Securities.Normalization

/-!
# The security master and its lookups

The tables of the security master with their unique constraints, foreign keys and record
validators, and the queries of `SqlAlchemySecurityMasterRepository` over them.

Every query of the repository but one selects securities joined with their issuer, exchange and
market, orders them, and cuts the result off at the candidate limit (`loadCandidates`).  The
`…Matches` functions are these queries over the whole master, before the order and the limit.  Each
names a security at most once: because the statement says `DISTINCT`, because the security is
selected by a condition on itself and its issuer, or, for an SEC CIK, because the identifier belongs
to one issuer (`distinct_identifierMatches`).
-/

namespace StockResearch.Securities

open PyText PyTime Txn Checked

/-! ## Records -/

inductive ListingStatus where
  | active | suspended | delisted | unknown
deriving DecidableEq, Repr

inductive SecurityAliasType where
  | symbol | symbolWithExchange | companyShortName | legalName | englishName | providerSymbol
  | formerName
deriving DecidableEq, Repr

/-- The alias types that are stored under `normalize_symbol`. -/
def SecurityAliasType.isSymbolLike : SecurityAliasType → Bool
  | .symbol | .symbolWithExchange | .providerSymbol => true
  | _ => false

structure Market where
  id : Uuid
  code : Text
deriving DecidableEq

structure Exchange where
  id : Uuid
  marketId : Uuid
  mic : Text
  name : Text
deriving DecidableEq

structure ExchangeAlias where
  id : Uuid
  exchangeId : Uuid
  normalizedAlias : Text
  isActive : Bool
deriving DecidableEq

structure Issuer where
  id : Uuid
  legalName : Text
  normalizedLegalName : Text
  displayName : Text
  normalizedDisplayName : Text
deriving DecidableEq

structure IssuerIdentifier where
  id : Uuid
  issuerId : Uuid
  scheme : Text
  normalizedValue : Text
deriving DecidableEq

structure Security where
  id : Uuid
  issuerId : Uuid
  exchangeId : Uuid
  symbol : Text
  normalizedSymbol : Text
  displayName : Text
  currencyCode : Text
  listingStatus : ListingStatus
deriving DecidableEq

structure SecurityAlias where
  id : Uuid
  securityId : Uuid
  aliasText : Text
  normalizedAlias : Text
  aliasType : SecurityAliasType
  validFrom : Option Date
  validTo : Option Date
  isActive : Bool
deriving DecidableEq

/-! Primary keys and unique constraints. -/

instance : Schema Market where
  clash a b := a.id = b.id ∨ a.code = b.code
  check _ := True
  clash_symm _ _ h := h.imp Eq.symm Eq.symm
  decClash _ _ := inferInstance
  decCheck _ := inferInstance

instance : Schema Exchange where
  clash a b := a.id = b.id ∨ a.mic = b.mic
  check _ := True
  clash_symm _ _ h := h.imp Eq.symm Eq.symm
  decClash _ _ := inferInstance
  decCheck _ := inferInstance

instance : Schema ExchangeAlias where
  clash a b := a.id = b.id ∨ a.normalizedAlias = b.normalizedAlias
  check _ := True
  clash_symm _ _ h := h.imp Eq.symm Eq.symm
  decClash _ _ := inferInstance
  decCheck _ := inferInstance

instance : Schema Issuer where
  clash a b := a.id = b.id
  check _ := True
  clash_symm _ _ h := h.symm
  decClash _ _ := inferInstance
  decCheck _ := inferInstance

instance : Schema IssuerIdentifier where
  clash a b := a.id = b.id ∨ (a.scheme, a.normalizedValue) = (b.scheme, b.normalizedValue)
  check _ := True
  clash_symm _ _ h := h.imp Eq.symm Eq.symm
  decClash _ _ := inferInstance
  decCheck _ := inferInstance

instance : Schema Security where
  clash a b := a.id = b.id ∨ (a.exchangeId, a.normalizedSymbol) = (b.exchangeId, b.normalizedSymbol)
  check _ := True
  clash_symm _ _ h := h.imp Eq.symm Eq.symm
  decClash _ _ := inferInstance
  decCheck _ := inferInstance

instance : Schema SecurityAlias where
  clash a b := a.id = b.id ∨
    (a.securityId, a.aliasType, a.normalizedAlias) = (b.securityId, b.aliasType, b.normalizedAlias)
  -- `valid_to IS NULL OR valid_from IS NULL OR valid_to >= valid_from`
  check a := ∀ f ∈ a.validFrom, ∀ t ∈ a.validTo, ¬ t < f
  clash_symm _ _ h := h.imp Eq.symm Eq.symm
  decClash _ _ := inferInstance
  decCheck _ := inferInstance

/-- The normal form that an alias is stored under: by `normalize_symbol` for the symbol-like types,
else by `normalize_company_name`. -/
def storedForm (u : Unicode) (aliasType : SecurityAliasType) (text : Text) : Except Failure Text :=
  if aliasType.isSymbolLike then normalizeSymbol u text else normalizeCompanyName u text

def supportedExchangeMics : List Text := ["XNAS".toList, "XSHG".toList]

def supportedCurrencyCodes : List Text := ["CNY".toList, "USD".toList]

/-- The content of the security master: the tables, their foreign keys, and the record validators. -/
structure SecurityMaster (u : Unicode) where
  markets : Table Market
  exchanges : Table Exchange
  exchangeAliases : Table ExchangeAlias
  issuers : Table Issuer
  issuerIdentifiers : Table IssuerIdentifier
  securities : Table Security
  securityAliases : Table SecurityAlias
  hasAliasedExchange : ∀ a ∈ exchangeAliases.rows, ∃ e ∈ exchanges.rows, e.id = a.exchangeId
  hasMarket : ∀ e ∈ exchanges.rows, ∃ m ∈ markets.rows, m.id = e.marketId
  hasIssuer : ∀ s ∈ securities.rows, ∃ i ∈ issuers.rows, i.id = s.issuerId
  hasExchange : ∀ s ∈ securities.rows, ∃ e ∈ exchanges.rows, e.id = s.exchangeId
  hasSecurity : ∀ a ∈ securityAliases.rows, ∃ s ∈ securities.rows, s.id = a.securityId
  validMic : ∀ e ∈ exchanges.rows, e.mic ∈ supportedExchangeMics
  validCurrency : ∀ s ∈ securities.rows, s.currencyCode ∈ supportedCurrencyCodes
  validSymbol : ∀ s ∈ securities.rows, normalizeSymbol u s.symbol = .ok s.normalizedSymbol
  validLegalName : ∀ i ∈ issuers.rows, normalizeCompanyName u i.legalName = .ok i.normalizedLegalName
  validDisplayName : ∀ i ∈ issuers.rows,
    normalizeCompanyName u i.displayName = .ok i.normalizedDisplayName
  validAlias : ∀ a ∈ securityAliases.rows, storedForm u a.aliasType a.aliasText = .ok a.normalizedAlias

/-- One row of the joined statement. -/
structure Listing where
  security : Security
  issuer : Issuer
  exchange : Exchange
  market : Market
deriving DecidableEq

/-- `SecurityCandidate` -/
structure SecurityCandidate where
  securityId : Uuid
  issuerId : Uuid
  issuerDisplayName : Text
  securityDisplayName : Text
  symbol : Text
  exchangeMic : Text
  exchangeName : Text
  marketCode : Text
  currencyCode : Text
  listingStatus : ListingStatus
  matchReason : String
deriving DecidableEq

/-- `_candidate_from_entities` -/
def Listing.candidate (reason : String) (l : Listing) : SecurityCandidate where
  securityId := l.security.id
  issuerId := l.issuer.id
  issuerDisplayName := l.issuer.displayName
  securityDisplayName := l.security.displayName
  symbol := l.security.symbol
  exchangeMic := l.exchange.mic
  exchangeName := l.exchange.name
  marketCode := l.market.code
  currencyCode := l.security.currencyCode
  listingStatus := l.security.listingStatus
  matchReason := reason

/-- An alias that is active and valid on a date. -/
def SecurityAlias.isCurrent (asOf : Date) (a : SecurityAlias) : Bool :=
  a.isActive && a.validFrom.all (fun f => ¬ asOf < f) && a.validTo.all fun t => ¬ t < asOf

namespace SecurityMaster

variable {u : Unicode} (master : SecurityMaster u)

/-! ## Queries -/

/-- The inner joins of a security. -/
def join (s : Security) : Option Listing := do
  let issuer ← master.issuers.selectOne fun i => i.id = s.issuerId
  let exchange ← master.exchanges.selectOne fun e => e.id = s.exchangeId
  let market ← master.markets.selectOne fun m => m.id = exchange.marketId
  return ⟨s, issuer, exchange, market⟩

/-- `_candidate_statement` -/
def listings : List Listing := master.securities.rows.filterMap master.join

/-- An active alias names an exchange. -/
def recognizes (exchangeAlias : Text) : Bool :=
  master.exchangeAliases.rows.any fun a => a.normalizedAlias = exchangeAlias && a.isActive

/-- The securities of a named exchange with a symbol. -/
def exchangeSymbolMatches (exchangeAlias symbol : Text) : List Listing :=
  master.listings.filter fun l => l.security.normalizedSymbol = symbol &&
    master.exchangeAliases.rows.any fun a =>
      a.normalizedAlias = exchangeAlias && a.isActive && a.exchangeId = l.security.exchangeId

def secCik : Text := "SEC_CIK".toList

/-- The securities of the issuers with an SEC CIK, once for every identifier that says so. -/
def identifierMatches (cik : Text) : List Listing :=
  master.listings.flatMap fun l =>
    (master.issuerIdentifiers.rows.filter fun i =>
      i.issuerId = l.security.issuerId && i.scheme = secCik && i.normalizedValue = cik).map fun _ => l

def symbolMatches (symbol : Text) : List Listing :=
  master.listings.filter fun l => l.security.normalizedSymbol = symbol

def aliasMatches (name : Text) (asOf : Date) : List Listing :=
  master.listings.filter fun l => master.securityAliases.rows.any fun a =>
    a.securityId = l.security.id && a.normalizedAlias = name && a.isCurrent asOf

def issuerNameMatches (name : Text) : List Listing :=
  master.listings.filter fun l =>
    l.issuer.normalizedLegalName = name || l.issuer.normalizedDisplayName = name

/-- `LIKE 'name%'` with `name` escaped, on the symbol, the issuer's names and the current aliases. -/
def prefixMatches (name : Text) (asOf : Date) : List Listing :=
  master.listings.filter fun l =>
    name.isPrefixOf l.security.normalizedSymbol || name.isPrefixOf l.issuer.normalizedLegalName ||
      name.isPrefixOf l.issuer.normalizedDisplayName ||
      master.securityAliases.rows.any fun a =>
        a.securityId = l.security.id && a.isCurrent asOf && name.isPrefixOf a.normalizedAlias

/-! ## A query names a security at most once -/

variable {master}

lemma join_security {s : Security} {l : Listing} (h : master.join s = some l) : l.security = s := by
  simp only [join, bind, Option.bind_eq_some_iff, pure, Option.some.injEq] at h
  obtain ⟨_, -, _, -, _, -, rfl⟩ := h
  rfl

/-- The foreign keys hold, so no join loses a security. -/
lemma exists_join {s : Security} (hs : s ∈ master.securities.rows) :
    ∃ l, master.join s = some l := by
  have hfind : ∀ {ρ : Type} [Schema ρ] (t : Table ρ) (p : ρ → Bool), (∃ r ∈ t.rows, p r = true) →
      ∃ r ∈ t.rows, t.selectOne p = some r := by
    intro ρ _ t p ⟨r, hr, hp⟩
    cases hsel : t.selectOne p with
    | none => exact absurd hp (Table.selectOne_eq_none.mp hsel r hr)
    | some r' => exact ⟨r', (Table.mem_of_selectOne hsel).1, rfl⟩
  obtain ⟨i, -, hi⟩ := hfind master.issuers (fun i => i.id = s.issuerId)
    (by simpa using master.hasIssuer s hs)
  obtain ⟨e, he, hsel⟩ := hfind master.exchanges (fun e => e.id = s.exchangeId)
    (by simpa using master.hasExchange s hs)
  obtain ⟨m, -, hm⟩ := hfind master.markets (fun m => m.id = e.marketId)
    (by simpa using master.hasMarket e he)
  exact ⟨⟨s, i, e, m⟩, by simp [join, hi, hsel, hm]⟩

lemma security_mem {l : Listing} (h : l ∈ master.listings) :
    l.security ∈ master.securities.rows := by
  obtain ⟨s, hs, hl⟩ := List.mem_filterMap.mp h
  rwa [join_security hl]

lemma exists_listing {s : Security} (hs : s ∈ master.securities.rows) :
    ∃ l ∈ master.listings, l.security = s := by
  obtain ⟨l, hl⟩ := exists_join hs
  exact ⟨l, List.mem_filterMap.mpr ⟨s, hs, hl⟩, join_security hl⟩

lemma pairwise_listings :
    master.listings.Pairwise fun a b => ¬ Schema.clash a.security b.security := by
  refine List.pairwise_filterMap.mpr (master.securities.keyed.imp ?_)
  intro s t hst l hl l' hl'
  rwa [join_security hl, join_security hl']

/-- Rows that name different securities. -/
def Distinct (rows : List Listing) : Prop := (rows.map fun l => l.security.id).Nodup

lemma distinct_filter (p : Listing → Bool) : Distinct (master.listings.filter p) := by
  refine List.pairwise_map.mpr ((pairwise_listings.filter p).imp ?_)
  intro a b hab heq
  exact hab (Or.inl heq)

/-- An exchange alias names one exchange, on which a symbol names one security. -/
lemma length_exchangeSymbolMatches (exchangeAlias symbol : Text) :
    (master.exchangeSymbolMatches exchangeAlias symbol).length ≤ 1 := by
  refine length_le_one_of_pairwise (pairwise_listings.filter _) ?_
  intro l hl l' hl'
  have h := (List.mem_filter.mp hl).2
  have h' := (List.mem_filter.mp hl').2
  simp only [Bool.and_eq_true, decide_eq_true_eq, List.any_eq_true] at h h'
  obtain ⟨hsym, a, ha, ⟨halias, -⟩, hex⟩ := h
  obtain ⟨hsym', a', ha', ⟨halias', -⟩, hex'⟩ := h'
  have haa : a = a' := Table.eq_of_clash ha ha' (Or.inr (halias.trans halias'.symm))
  exact Or.inr (by rw [← hex, ← hex', haa, hsym, hsym'])

/-- An SEC CIK belongs to one issuer, so each security of the issuer is joined with it once. -/
lemma distinct_identifierMatches (cik : Text) : Distinct (master.identifierMatches cik) := by
  have hone : ∀ l : Listing, (master.issuerIdentifiers.rows.filter fun i =>
      i.issuerId = l.security.issuerId && i.scheme = secCik && i.normalizedValue = cik).length ≤ 1 := by
    intro l
    refine length_le_one_of_pairwise (master.issuerIdentifiers.keyed.filter _) ?_
    intro i hi j hj
    have h := (List.mem_filter.mp hi).2
    have h' := (List.mem_filter.mp hj).2
    simp only [Bool.and_eq_true, decide_eq_true_eq] at h h'
    exact Or.inr (by rw [h.1.2, h.2, h'.1.2, h'.2])
  have hsub : (master.identifierMatches cik).Sublist master.listings := by
    unfold identifierMatches
    induction master.listings with
    | nil => simp
    | cons l ls ih =>
        rw [List.flatMap_cons]
        generalize hr : master.issuerIdentifiers.rows.filter _ = rows
        have hlen := hone l
        rw [hr] at hlen
        match rows with
        | [] => exact ih.cons l
        | [_] => exact ih.cons_cons l
        | _ :: _ :: _ => simp at hlen
  have hall : Distinct (master.listings.filter fun _ => true) := distinct_filter _
  rw [List.filter_true] at hall
  exact hall.sublist (hsub.map _)

end SecurityMaster

/-- `ORDER BY Exchange.mic, Security.normalized_symbol, Security.id`, under the database's collation
of texts. -/
def sqlLE (collate : Text → Text → Ordering) (a b : Listing) : Bool :=
  ((collate a.exchange.mic b.exchange.mic).then
    ((collate a.security.normalizedSymbol b.security.normalizedSymbol).then
      (compare a.security.id.bits.toNat b.security.id.bits.toNat))).isLE

def loadCandidates (collate : Text → Text → Ordering) (reason : String) (limit : Nat)
    (rows : List Listing) : List SecurityCandidate :=
  ((rows.insertionSort fun a b => sqlLE collate a b).take limit).map (Listing.candidate reason)

section

variable {collate : Text → Text → Ordering} {reason : String} {limit : Nat} {rows : List Listing}

@[simp] lemma length_loadCandidates :
    (loadCandidates collate reason limit rows).length = min limit rows.length := by
  simp [loadCandidates, List.length_insertionSort]

lemma mem_of_mem_loadCandidates {c : SecurityCandidate}
    (h : c ∈ loadCandidates collate reason limit rows) : ∃ l ∈ rows, c = l.candidate reason := by
  obtain ⟨l, hl, rfl⟩ := List.mem_map.mp h
  exact ⟨l, (List.mem_insertionSort _).mp (List.mem_of_mem_take hl), rfl⟩

/-- Within the limit nothing is cut off. -/
lemma mem_loadCandidates {l : Listing} (hl : l ∈ rows) (hlimit : rows.length ≤ limit) :
    l.candidate reason ∈ loadCandidates collate reason limit rows := by
  unfold loadCandidates
  rw [List.take_of_length_le (by rwa [List.length_insertionSort])]
  exact List.mem_map_of_mem ((List.mem_insertionSort _).mpr hl)

lemma nodup_loadCandidates (h : SecurityMaster.Distinct rows) :
    ((loadCandidates collate reason limit rows).map (·.securityId)).Nodup := by
  have hperm := (List.perm_insertionSort (fun a b => sqlLE collate a b) rows).map
    fun l : Listing => l.security.id
  have hsub := (List.take_sublist limit (rows.insertionSort fun a b => sqlLE collate a b)).map
    fun l : Listing => l.security.id
  unfold loadCandidates
  rw [List.map_map]
  exact (hperm.nodup_iff.mpr h).sublist hsub

end

end StockResearch.Securities
