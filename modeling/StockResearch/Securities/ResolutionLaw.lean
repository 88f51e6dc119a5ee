import StockResearch.Securities.Resolution

/-!
# When a resolution is right

Every lookup has the same shape: if its query over the master is empty the next one follows, else the
loaded candidates are the answer.  `good_answerOr` settles that step once, and the levels are then
taken from the last to the first, each under the hypothesis that the levels above it are empty.
-/

namespace StockResearch.Securities

open PyText PyTime Txn Checked

namespace SecurityResolutionService

variable {u : Unicode} {service : SecurityResolutionService u} {query nq : Text}

/-! ## The answer from a list of candidates -/

/-- The candidates are what the repository loads: no security twice, at most as many as asked for,
and with symbols that have a normal form. -/
structure Loaded (service : SecurityResolutionService u) (candidates : List SecurityCandidate) :
    Prop where
  nodup : (candidates.map (·.securityId)).Nodup
  bounded : candidates.length ≤ service.maxCandidates
  symbols : ∀ c ∈ candidates, ∃ symbol, normalizeSymbol u c.symbol = .ok symbol

/-- Deduplication and order change nothing but the order. -/
lemma stableUniqueCandidates_of_loaded {candidates : List SecurityCandidate}
    (h : service.Loaded candidates) :
    ∃ bounded, service.stableUniqueCandidates candidates = .ok bounded ∧
      bounded.Perm candidates := by
  choose! symbol hsymbol using h.symbols
  have hkeyed : candidates.mapM (fun c => do
      let symbol ← normalizeSymbol u c.symbol
      pure ((c.exchangeMic, symbol, c.securityId.chars), c)) =
      .ok (candidates.map fun c => ((c.exchangeMic, symbol c, c.securityId.chars), c)) := by
    refine mapM_ok fun c hc => ?_
    rw [hsymbol c hc]
    rfl
  have hperm : (((candidates.map fun c => ((c.exchangeMic, symbol c, c.securityId.chars), c)).insertionSort
      fun a b => keyLE a b).map (·.2)).Perm candidates := by
    have hsort := (List.perm_insertionSort (fun a b => keyLE a b)
      (candidates.map fun c => ((c.exchangeMic, symbol c, c.securityId.chars), c))).map (·.2)
    rw [List.map_map] at hsort
    simpa [Function.comp_def] using hsort
  refine ⟨_, ?_, hperm⟩
  unfold stableUniqueCandidates
  rw [Dict.valuesBy_of_nodup h.nodup, hkeyed]
  refine congrArg Except.ok (List.take_of_length_le ?_)
  rw [hperm.length_eq]
  exact h.bounded

/-- A result that states what it contains is accepted, if its query is short enough. -/
lemma validated_eq (r : SecurityResolutionResult) (hcount : r.candidates.length ≤ 10)
    (hsem : r.violation = none) (hcnt : r.candidateCount = r.candidates.length) :
    r.validated = if r.normalizedQuery.length ≤ maxSecurityQueryLength then .ok r
      else .error (.validation "normalized_query: String should have at most 256 characters") := by
  unfold SecurityResolutionResult.validated check
  by_cases hlen : r.normalizedQuery.length ≤ maxSecurityQueryLength
  · rw [if_neg (Nat.not_lt.mpr hlen), if_neg (by omega), if_neg (by omega), if_pos hlen, hsem]
    rfl
  · rw [if_pos (Nat.not_le.mp hlen), if_neg hlen]
    rfl

lemma candidateResult_of_loaded (query nq : Text) {candidates : List SecurityCandidate}
    (level : MatchType)
    (h : service.Loaded candidates) (hne : candidates ≠ []) (hlevel : level ≠ .none) :
    if nq.length ≤ maxSecurityQueryLength then
      ∃ r, service.candidateResult query nq level candidates = .ok r ∧ r.matchType = level ∧
        r.candidates.Perm candidates ∧
        r.status = if candidates.length = 1 ∧ level ≠ .prefixSuggestion then .resolved
          else .ambiguous
    else ∃ message, service.candidateResult query nq level candidates =
      .error (.validation message) := by
  obtain ⟨bounded, hbounded, hperm⟩ := stableUniqueCandidates_of_loaded h
  have hlength := hperm.length_eq
  have hpos := List.length_pos_of_ne_nil hne
  have hmax := h.bounded
  have hten := service.max_le
  unfold candidateResult
  simp only [hbounded, bind, Except.bind, hlength]
  rw [validated_eq]
  · simp only
    split_ifs with hlen hone
    · exact ⟨_, rfl, rfl, hperm, rfl⟩
    · exact ⟨_, rfl, rfl, hperm, rfl⟩
    · exact ⟨_, rfl⟩
  · simp only
    omega
  · simp only [SecurityResolutionResult.violation, hlength]
    split_ifs <;> simp_all
  · simp only [hlength]

/-! ## One lookup -/

/-- An outcome below `resolve`: the query is refused, or it gets a result that is right. -/
def Good (service : SecurityResolutionService u) (nq : Text)
    (outcome : Except Failure SecurityResolutionResult) : Prop :=
  (∃ message, outcome = .error (.invalidQuery message)) ∨
    ∃ r, outcome = .ok r ∧ service.Correct nq r

lemma good_of_raisesInvalid {α : Type} {x : Except Failure α} (hx : RaisesInvalid x) {e : Failure}
    (he : x = .error e) : service.Good nq (.error e) := by
  obtain ⟨message, rfl⟩ := hx e he
  exact Or.inl ⟨message, rfl⟩

/-- An empty result claims nothing; it fails only on a query that is too long for it. -/
lemma good_notFoundResult :
    service.Good nq (notFoundResult query nq) ↔ nq.length ≤ maxSecurityQueryLength := by
  unfold notFoundResult
  rw [validated_eq _ (by simp) (by simp [SecurityResolutionResult.violation]) rfl]
  by_cases hlen : nq.length ≤ maxSecurityQueryLength
  · rw [if_pos hlen]
    refine iff_of_true (Or.inr ⟨_, rfl, ?_, ?_, ?_⟩) hlen
    · simp
    · simp
    · simp
  · rw [if_neg hlen]
    refine iff_of_false ?_ hlen
    rintro (⟨message, h⟩ | ⟨r, h, -⟩)
    · cases h
    · cases h

/-- The rows of a lookup: those that match at its level, each of another security. -/
structure Rows (service : SecurityResolutionService u) (nq : Text) (level : MatchType)
    (rows : List Listing) : Prop where
  eq : service.matchesAt nq level = rows
  listed : ∀ l ∈ rows, l ∈ service.repository.listings
  distinct : SecurityMaster.Distinct rows

lemma Rows.loaded {level : MatchType} {rows : List Listing} (h : service.Rows nq level rows)
    (reason : String) : service.Loaded (service.load reason rows) where
  nodup := nodup_loadCandidates h.distinct
  bounded := by simp [load]
  symbols := by
    intro c hc
    obtain ⟨l, hl, rfl⟩ := mem_of_mem_loadCandidates hc
    exact ⟨_, service.repository.validSymbol _ (SecurityMaster.security_mem (h.listed l hl))⟩

/-- **A lookup that matches something is right exactly when the candidate limit hides no second
match** and the query fits into the result. -/
lemma good_candidateResult {level : MatchType} {rows : List Listing} {reason : String}
    (h : service.Rows nq level rows) (hne : rows ≠ []) (hlevel : level ≠ .none)
    (hhigh : service.Highest nq level) :
    service.Good nq (service.candidateResult query nq level (service.load reason rows)) ↔
      nq.length ≤ maxSecurityQueryLength ∧
        (level ≠ .prefixSuggestion → service.maxCandidates = 1 → rows.length ≤ 1) := by
  have hpos := List.length_pos_of_ne_nil hne
  have hmax := service.max_pos
  have hlength : (service.load reason rows).length = min service.maxCandidates rows.length :=
    length_loadCandidates
  have hloaded : service.load reason rows ≠ [] := List.ne_nil_of_length_pos (by omega)
  have hresult := candidateResult_of_loaded query nq level (h.loaded reason) hloaded hlevel
  by_cases hlen : nq.length ≤ maxSecurityQueryLength
  · rw [if_pos hlen] at hresult
    obtain ⟨r, hr, hlev, hperm, hstatus⟩ := hresult
    have hmatching : ∀ c ∈ r.candidates, ∃ l ∈ service.matchesAt nq r.matchType, ∃ reason,
        c = l.candidate reason := by
      intro c hc
      obtain ⟨l, hl, rfl⟩ := mem_of_mem_loadCandidates (hperm.mem_iff.mp hc)
      exact ⟨l, by rwa [hlev, h.eq], reason, rfl⟩
    rw [hlength] at hstatus
    constructor
    · rintro (⟨message, hbad⟩ | ⟨r', hr', hcorrect⟩)
      · rw [hr] at hbad
        cases hbad
      · rw [hr] at hr'
        cases hr'
        refine ⟨hlen, fun hexact hone => ?_⟩
        have hres := (hcorrect.resolved (by rw [hstatus, if_pos ⟨by omega, hexact⟩])).2.1
        rw [hlev, h.eq] at hres
        omega
    · rintro ⟨-, hone⟩
      refine Or.inr ⟨r, hr, ?_, ?_, hmatching⟩
      · intro hres
        rw [hlev, h.eq]
        by_cases hcond : min service.maxCandidates rows.length = 1 ∧ level ≠ .prefixSuggestion
        · refine ⟨hcond.2, ?_, hhigh⟩
          rcases Nat.lt_or_ge 1 service.maxCandidates with hmany | hfew
          · omega
          · have := hone hcond.2 (by omega)
            omega
        · rw [hstatus, if_neg hcond] at hres
          cases hres
      · intro hamb
        rw [hlev, h.eq]
        refine ⟨hhigh, ?_⟩
        by_cases hcond : min service.maxCandidates rows.length = 1 ∧ level ≠ .prefixSuggestion
        · rw [hstatus, if_pos hcond] at hamb
          cases hamb
        · by_cases hstarts : level = .prefixSuggestion
          · exact Or.inl hstarts
          · have hmin : min service.maxCandidates rows.length ≠ 1 := fun heq => hcond ⟨heq, hstarts⟩
            exact Or.inr (by omega)
  · rw [if_neg hlen] at hresult
    obtain ⟨message, hr⟩ := hresult
    refine iff_of_false ?_ fun hgood => hlen hgood.1
    rintro (⟨_, hbad⟩ | ⟨_, hbad, -⟩)
    · rw [hr] at hbad
      cases hbad
    · rw [hr] at hbad
      cases hbad

lemma load_eq_nil {reason : String} {rows : List Listing} :
    service.load reason rows = [] ↔ rows = [] := by
  have hmax := service.max_pos
  have hlength : (service.load reason rows).length = min service.maxCandidates rows.length :=
    length_loadCandidates
  rw [← List.length_eq_zero_iff, ← List.length_eq_zero_iff, hlength]
  omega

/-- At the highest level that matches, being single is a matter of that level. -/
lemma single_iff {level : MatchType} (hhigh : service.Highest nq level)
    (hne : service.matchesAt nq level ≠ []) (hexact : level ≠ .prefixSuggestion) :
    service.Single nq ↔ (service.matchesAt nq level).length ≤ 1 := by
  constructor
  · intro h
    exact h level hexact hhigh
  · intro hone other _ hother
    rcases Nat.lt_trichotomy other.rank level.rank with hlt | heq | hgt
    · rw [hhigh other hlt]
      simp
    · have : other = level := by cases other <;> cases level <;> first | rfl | cases heq
      rwa [this]
    · exact absurd (hother level hgt) hne

/-- One step of the cascade, at an exact level. -/
lemma good_answerOr {level : MatchType} {rows : List Listing} {reason : String}
    {rest : Except Failure SecurityResolutionResult} (h : service.Rows nq level rows)
    (hexact : level ≠ .prefixSuggestion) (hlevel : level ≠ .none)
    (hhigh : service.Highest nq level)
    (hrest : rows = [] → (service.Good nq rest ↔
      (maxSecurityQueryLength < nq.length → rows = []) ∧
        (service.maxCandidates = 1 → service.Single nq))) :
    service.Good nq (service.answerOr query nq level (service.load reason rows) rest) ↔
      (maxSecurityQueryLength < nq.length → rows = []) ∧
        (service.maxCandidates = 1 → service.Single nq) := by
  unfold answerOr
  by_cases hrows : rows = []
  · rw [if_neg (by simpa using load_eq_nil.mpr hrows)]
    exact hrest hrows
  · rw [if_pos (fun hnil => hrows (load_eq_nil.mp hnil)),
      good_candidateResult h hrows hlevel hhigh,
      single_iff hhigh (by rwa [h.eq]) hexact, h.eq]
    refine and_congr ?_ ⟨fun himp => himp hexact, fun himp _ => himp⟩
    exact ⟨fun hle hlt => absurd hle (Nat.not_le.mpr hlt),
      fun himp => Nat.not_lt.mp fun hlt => hrows (himp hlt)⟩

/-! ## The levels, from the last to the first -/

lemma rows_filter {level : MatchType} {p : Listing → Bool}
    (h : service.matchesAt nq level = service.repository.listings.filter p) :
    service.Rows nq level (service.repository.listings.filter p) where
  eq := h
  listed _ hl := (List.mem_filter.mp hl).1
  distinct := SecurityMaster.distinct_filter p

/-- The levels above one, one after the other. -/
lemma Highest.succ (next : MatchType) {level : MatchType} (h : service.Highest nq level)
    (hempty : service.matchesAt nq level = []) (hnext : next.rank = level.rank + 1) :
    service.Highest nq next := by
  intro above habove
  rcases Nat.lt_or_ge above.rank level.rank with hlt | hge
  · exact h above hlt
  · have heq : above = level := by
      cases above <;> cases level <;> simp_all [MatchType.rank]
    rwa [heq]

lemma highest_exactExchangeSymbol : service.Highest nq .exactExchangeSymbol := by
  intro above habove
  simp [MatchType.rank] at habove

lemma single_of_empty (h : service.Highest nq .prefixSuggestion) : service.Single nq := by
  intro level hexact _
  cases level with
  | prefixSuggestion => exact absurd rfl hexact
  | none => simp [matchesAt]
  | _ => rw [h _ (by decide)]; simp

lemma good_resolveName (hhigh : service.Highest nq .exactAlias) :
    service.Good nq (service.resolveName query nq) ↔
      (service.maxCandidates = 1 → service.Single nq) := by
  cases hname : normalizeCompanyName u nq with
  | error e =>
      have halias : service.matchesAt nq .exactAlias = [] := by simp [matchesAt, hname]
      have hissuer : service.matchesAt nq .exactIssuerName = [] := by simp [matchesAt, hname]
      have hnone := (hhigh.succ .exactIssuerName halias rfl).succ .prefixSuggestion hissuer rfl
      refine iff_of_true ?_ fun _ => single_of_empty hnone
      rw [resolveName, hname]
      exact good_of_raisesInvalid raisesInvalid_normalizeCompanyName hname
  | ok name =>
      have hlen := length_le_of_normalizeCompanyName hname
      have halias : service.Rows nq .exactAlias
          (service.repository.aliasMatches name service.asOf) :=
        rows_filter (by simp [matchesAt, hname, SecurityMaster.aliasMatches])
      have hissuer : service.Rows nq .exactIssuerName
          (service.repository.issuerNameMatches name) :=
        rows_filter (by simp [matchesAt, hname, SecurityMaster.issuerNameMatches])
      have hstarts : service.Rows nq .prefixSuggestion
          (service.repository.prefixMatches name service.asOf) :=
        rows_filter (by simp [matchesAt, hname, SecurityMaster.prefixMatches])
      have hlong : ∀ rows : List Listing, maxSecurityQueryLength < nq.length → rows = [] :=
        fun _ hlt => absurd hlen (Nat.not_le.mpr hlt)
      simp only [resolveName, hname, bind, Except.bind]
      rw [good_answerOr halias (by decide) (by decide) hhigh, and_iff_right (hlong _)]
      intro hnoalias
      have hhigh := hhigh.succ .exactIssuerName (by rw [halias.eq, hnoalias]) rfl
      rw [good_answerOr hissuer (by decide) (by decide) hhigh, and_iff_right (hlong _),
        and_iff_right (hlong _)]
      intro hnoissuer
      have hhigh := hhigh.succ .prefixSuggestion (by rw [hissuer.eq, hnoissuer]) rfl
      refine iff_of_true ?_ ⟨hlong _, fun _ => single_of_empty hhigh⟩
      unfold answerOr
      by_cases hnoprefix : service.repository.prefixMatches name service.asOf = []
      · rw [if_neg (by simpa using load_eq_nil.mpr hnoprefix)]
        exact good_notFoundResult.mpr hlen
      · rw [if_pos (fun hnil => hnoprefix (load_eq_nil.mp hnil))]
        exact (good_candidateResult hstarts hnoprefix (by decide) hhigh).mpr
          ⟨hlen, fun hne => absurd rfl hne⟩

lemma good_resolveSymbol (hhigh : service.Highest nq .exactSymbol) :
    service.Good nq (service.resolveSymbol query nq) ↔
      (service.maxCandidates = 1 → service.Single nq) := by
  cases hsymbol : normalizeSymbol u nq with
  | error e =>
      have hempty : service.matchesAt nq .exactSymbol = [] := by simp [matchesAt, hsymbol]
      simp only [resolveSymbol, hsymbol]
      exact good_resolveName (hhigh.succ _ hempty rfl)
  | ok symbol =>
      have hlen := length_le_of_normalizeSymbol hsymbol
      have hrows : service.Rows nq .exactSymbol (service.repository.symbolMatches symbol) :=
        rows_filter (by simp [matchesAt, hsymbol, SecurityMaster.symbolMatches])
      have hlong : maxSecurityQueryLength < nq.length →
          service.repository.symbolMatches symbol = [] :=
        fun hlt => absurd hlen (Nat.not_le.mpr hlt)
      simp only [resolveSymbol, hsymbol]
      rw [good_answerOr hrows (by decide) (by decide) hhigh, and_iff_right hlong]
      intro hnone
      rw [and_iff_right hlong]
      exact good_resolveName (hhigh.succ _ (by rw [hrows.eq, hnone]) rfl)

lemma rows_identifier {cik : Text} (h : externalIdentifier u nq = .ok (some cik)) :
    service.Rows nq .exactIdentifier (service.repository.identifierMatches cik) where
  eq := by simp [matchesAt, h]
  listed l hl := by
    obtain ⟨l', hl', hmem⟩ := List.mem_flatMap.mp hl
    obtain ⟨_, -, rfl⟩ := List.mem_map.mp hmem
    exact hl'
  distinct := SecurityMaster.distinct_identifierMatches cik

lemma raisesInvalid_externalIdentifier : RaisesInvalid (externalIdentifier u nq) := by
  unfold externalIdentifier
  split_ifs
  · intro e he
    cases hx : normalizeExternalIdentifier u (nq.drop cikPrefix.length) with
    | ok a => rw [hx] at he; cases he
    | error e' =>
        rw [hx] at he
        cases he
        exact raisesInvalid_normalizeExternalIdentifier _ hx
  · exact raisesInvalid_pure _

lemma good_resolveIdentifier (hhigh : service.Highest nq .exactIdentifier) :
    service.Good nq (service.resolveIdentifier query nq) ↔
      (maxSecurityQueryLength < nq.length → service.matchesAt nq .exactIdentifier = []) ∧
        (service.maxCandidates = 1 → (∃ identifier, externalIdentifier u nq = .ok identifier) →
          service.Single nq) := by
  cases hid : externalIdentifier u nq with
  | error e =>
      have hempty : service.matchesAt nq .exactIdentifier = [] := by simp [matchesAt, hid]
      refine iff_of_true ?_ ⟨fun _ => hempty, by simp⟩
      rw [resolveIdentifier, hid]
      exact good_of_raisesInvalid raisesInvalid_externalIdentifier hid
  | ok identifier =>
      have hread : (∃ i, (Except.ok identifier : Except Failure _) = .ok i) := ⟨identifier, rfl⟩
      simp only [hread, true_imp_iff]
      cases identifier with
      | none =>
          have hempty : service.matchesAt nq .exactIdentifier = [] := by simp [matchesAt, hid]
          simp only [resolveIdentifier, hid, bind, Except.bind, hempty, imp_true_iff, true_and]
          exact good_resolveSymbol (hhigh.succ _ hempty rfl)
      | some cik =>
          have hrows : service.Rows nq _ _ := rows_identifier hid
          simp only [resolveIdentifier, hid, bind, Except.bind]
          rw [good_answerOr hrows (by decide) (by decide) hhigh, hrows.eq]
          intro hnone
          rw [and_iff_right fun _ => hnone]
          exact good_resolveSymbol (hhigh.succ _ (by rw [hrows.eq, hnone]) rfl)

/-- An exchange alias and a symbol name one security, so the limit of one row hides nothing. -/
lemma findExchangeSymbol_eq (exchangeAlias symbol : Text) :
    service.findExchangeSymbol exchangeAlias symbol =
      service.load "explicit exchange and symbol"
        (service.repository.exchangeSymbolMatches exchangeAlias symbol) := by
  have hone : (service.repository.exchangeSymbolMatches exchangeAlias symbol).length ≤ 1 :=
    SecurityMaster.length_exchangeSymbolMatches exchangeAlias symbol
  have hmax := service.max_pos
  unfold findExchangeSymbol load loadCandidates
  match service.repository.exchangeSymbolMatches exchangeAlias symbol, hone with
  | [], _ => simp
  | [l], _ =>
      rw [List.take_of_length_le (by simp), List.take_of_length_le (by simp; omega)]
      simp

lemma recognizes_of_mem {exchangeAlias symbol : Text} {l : Listing}
    (h : l ∈ service.repository.exchangeSymbolMatches exchangeAlias symbol) :
    service.repository.recognizes exchangeAlias = true := by
  have hcond := (List.mem_filter.mp h).2
  simp only [Bool.and_eq_true, decide_eq_true_eq, List.any_eq_true] at hcond
  obtain ⟨-, a, ha, ⟨halias, hactive⟩, -⟩ := hcond
  exact List.any_eq_true.mpr ⟨a, ha, by simp [halias, hactive]⟩

lemma raisesInvalid_explicitExchangeSymbol : RaisesInvalid (explicitExchangeSymbol u nq) := by
  have hpair : ∀ exchange symbol : Text, RaisesInvalid (normalizedPair u exchange symbol) :=
    fun _ _ => raisesInvalid_normalizeExchangeAlias.bind fun _ =>
      raisesInvalid_normalizeSymbol.bind fun _ => raisesInvalid_pure _
  unfold explicitExchangeSymbol
  split_ifs
  · exact raisesInvalid_pure _
  · exact hpair _ _
  · exact hpair _ _
  · exact raisesInvalid_pure _
  · exact raisesInvalid_pure _

/-- A query with the SEC CIK prefix is never read as an exchange and a symbol. -/
lemma externalIdentifier_eq_none (h : explicitExchangeSymbol u nq ≠ .ok none) :
    externalIdentifier u nq = .ok none := by
  unfold externalIdentifier
  by_cases hcik : cikPrefix.isPrefixOf nq = true
  · refine absurd ?_ h
    rw [explicitExchangeSymbol, if_pos hcik]
    rfl
  · rw [if_neg hcik]
    rfl

/-- A query that names a recognised exchange is not looked up any further, so all that matters is its
length. -/
lemma fits_iff_of_recognizes {pair : Text × Text} (hex : explicitExchangeSymbol u nq = .ok (some pair))
    (hrec : service.repository.recognizes pair.1 = true) :
    service.Fits nq ↔ nq.length ≤ maxSecurityQueryLength := by
  constructor
  · rintro ⟨hshort, -⟩
    by_contra hlen
    have hun := (hshort (Nat.not_le.mp hlen)).1 _ hex
    rw [hrec] at hun
    cases hun
  · intro hlen
    refine ⟨fun hlt => absurd hlen (Nat.not_le.mpr hlt), ?_⟩
    rintro - ⟨⟨explicit, hread, hun⟩, -⟩
    rw [hex] at hread
    cases hread
    have hun := hun _ rfl
    rw [hrec] at hun
    cases hun

/-- The five levels together. -/
lemma good_resolveValidQuery :
    service.Good nq (service.resolveValidQuery query nq) ↔ service.Fits nq := by
  cases hex : explicitExchangeSymbol u nq with
  | error e =>
      have hid : externalIdentifier u nq = .ok none :=
        externalIdentifier_eq_none (by rw [hex]; simp)
      have hgood : service.Good nq (service.resolveValidQuery query nq) := by
        rw [resolveValidQuery, hex]
        exact good_of_raisesInvalid raisesInvalid_explicitExchangeSymbol hex
      refine iff_of_true hgood ⟨fun _ => ⟨by simp [hex], by simp [matchesAt, hid]⟩, ?_⟩
      rintro - ⟨⟨explicit, hread, -⟩, -⟩
      rw [hex] at hread
      cases hread
  | ok explicit =>
      cases explicit with
      | none =>
          have hempty : service.matchesAt nq .exactExchangeSymbol = [] := by simp [matchesAt, hex]
          have hhigh := highest_exactExchangeSymbol.succ .exactIdentifier hempty rfl
          simp only [resolveValidQuery, hex, bind, Except.bind]
          rw [good_resolveIdentifier hhigh]
          constructor
          · rintro ⟨hlong, hsingle⟩
            exact ⟨fun hlt => ⟨by simp [hex], hlong hlt⟩,
              fun hone hproceeds => hsingle hone hproceeds.2⟩
          · rintro ⟨hshort, hsingle⟩
            exact ⟨fun hlt => (hshort hlt).2,
              fun hone hread => hsingle hone ⟨⟨none, hex, by simp⟩, hread⟩⟩
      | some pair =>
          obtain ⟨exchangeAlias, symbol⟩ := pair
          have hid : externalIdentifier u nq = .ok none :=
            externalIdentifier_eq_none (by rw [hex]; simp)
          have hnoid : service.matchesAt nq .exactIdentifier = [] := by simp [matchesAt, hid]
          have hrows : service.Rows nq .exactExchangeSymbol
              (service.repository.exchangeSymbolMatches exchangeAlias symbol) :=
            rows_filter (by simp [matchesAt, hex, SecurityMaster.exchangeSymbolMatches])
          simp only [resolveValidQuery, hex, bind, Except.bind]
          rw [findExchangeSymbol_eq, answerOr]
          by_cases hrec : service.repository.recognizes exchangeAlias = true
          · -- the exchange is recognised: the answer is one security or none
            rw [fits_iff_of_recognizes hex hrec]
            by_cases hnone : service.repository.exchangeSymbolMatches exchangeAlias symbol = []
            · rw [if_neg (by simpa using load_eq_nil.mpr hnone), if_pos hrec]
              exact good_notFoundResult
            · rw [if_pos (fun hnil => hnone (load_eq_nil.mp hnil)),
                good_candidateResult hrows hnone (by decide) highest_exactExchangeSymbol]
              exact and_iff_left fun _ _ => SecurityMaster.length_exchangeSymbolMatches _ _
          · have hnone : service.repository.exchangeSymbolMatches exchangeAlias symbol = [] := by
              refine List.eq_nil_iff_forall_not_mem.mpr fun l hl => ?_
              exact hrec (recognizes_of_mem hl)
            have hhigh := highest_exactExchangeSymbol.succ .exactIdentifier
              (by rw [hrows.eq, hnone]) rfl
            rw [if_neg (by simpa using load_eq_nil.mpr hnone), if_neg hrec,
              good_resolveIdentifier hhigh, and_iff_right fun _ => hnoid]
            have hun : service.repository.recognizes exchangeAlias = false := by simpa using hrec
            constructor
            · intro hsingle
              refine ⟨fun _ => ⟨?_, hnoid⟩, fun hone hproceeds => hsingle hone hproceeds.2⟩
              intro pair hpair
              rw [hex] at hpair
              cases hpair
              exact hun
            · rintro ⟨-, hsingle⟩ hone hread
              refine hsingle hone ⟨⟨_, hex, ?_⟩, hread⟩
              intro pair hpair
              cases hpair
              exact hun

/-- **When a resolution is right.**  A query gets a result, and the result says the truth about the
whole master, exactly when its normal form fits into a result, or is looked up only where it need
not, and a service with one candidate is not asked about a query with several matches. -/
theorem sound_iff (service : SecurityResolutionService u) (query : Text) :
    service.Sound query ↔ ∀ nq, normalizeFreeText u query = .ok nq → service.Fits nq := by
  have hinvalid : ∀ texts : List String, SecurityResolutionResult.validated
      ⟨.invalidQuery, query, [], .none, 0, [], texts⟩ =
      .ok ⟨.invalidQuery, query, [], .none, 0, [], texts⟩ := by
    intro texts
    rw [validated_eq _ (by simp) (by simp [SecurityResolutionResult.violation]) rfl]
    rfl
  cases hnq : normalizeFreeText u query with
  | error e =>
      obtain ⟨message, rfl⟩ := raisesInvalid_normalizeFreeText e hnq
      refine iff_of_true ?_ (by simp)
      refine ⟨⟨.invalidQuery, query, [], .none, 0, [], ["Query is invalid."]⟩, ?_, ?_⟩
      · simp only [resolve, hnq, bind, Except.bind, hinvalid]
      · simp [hnq]
  | ok nq =>
      have hiff : service.Sound query ↔
          service.Good nq (service.resolveValidQuery query nq) := by
        unfold Sound Good
        simp only [hnq, resolve, bind, Except.bind]
        cases service.resolveValidQuery query nq with
        | ok r => simp
        | error e =>
            cases e with
            | validation message => simp
            | invalidQuery message =>
                refine iff_of_true ⟨_, hinvalid _, ?_, ?_, ?_⟩ (Or.inl ⟨message, rfl⟩)
                · simp
                · simp
                · simp
      rw [hiff, good_resolveValidQuery]
      simp

end SecurityResolutionService

/-! ## Two listings of one symbol -/

/-- A master with the symbol `ACME` on two exchanges. -/
def dualListing : SecurityMaster ascii where
  markets := ⟨[⟨1, "US".toList⟩, ⟨2, "CN".toList⟩], by decide, by decide⟩
  exchanges := ⟨[⟨3, 1, "XNAS".toList, "Nasdaq".toList⟩, ⟨4, 2, "XSHG".toList, "Shanghai".toList⟩],
    by decide, by decide⟩
  exchangeAliases := ∅
  issuers := ⟨[⟨5, "Acme".toList, "ACME".toList, "Acme".toList, "ACME".toList⟩], by decide, by decide⟩
  issuerIdentifiers := ∅
  securities := ⟨[⟨6, 5, 3, "ACME".toList, "ACME".toList, "Acme".toList, "USD".toList, .active⟩,
    ⟨7, 5, 4, "ACME".toList, "ACME".toList, "Acme".toList, "CNY".toList, .active⟩],
    by decide, by decide⟩
  securityAliases := ∅
  hasAliasedExchange := by decide
  hasMarket := by decide
  hasIssuer := by decide
  hasExchange := by decide
  hasSecurity := by decide
  validMic := by decide
  validCurrency := by decide
  validSymbol := by decide
  validLegalName := by decide
  validDisplayName := by decide
  validAlias := by decide

lemma one_le_ten : 1 ≤ 10 := by decide

/-- The service over it with one candidate. -/
def dualListingService : SecurityResolutionService ascii where
  repository := dualListing
  maxCandidates := 1
  asOf := ⟨2024, 1, 2, validYear_2024, validMonth_1, validDay_2024_1_2⟩
  collate := compare
  max_pos := by decide
  max_le := one_le_ten

/-- Asked for `ACME`, it answers `RESOLVED`. -/
theorem not_sound_dualListing : ¬ dualListingService.Sound "acme".toList := by
  have hnq : normalizeFreeText ascii "acme".toList = .ok "ACME".toList := by decide +kernel
  have hstatus : ∃ r, dualListingService.resolve "acme".toList = .ok r ∧ r.status = .resolved ∧
      r.matchType = .exactSymbol := by
    refine ⟨⟨.resolved, "acme".toList, "ACME".toList, .exactSymbol, 1,
      [⟨6, 5, "Acme".toList, "Acme".toList, "ACME".toList, "XNAS".toList, "Nasdaq".toList,
        "US".toList, "USD".toList, .active, "exact normalized symbol"⟩], []⟩, ?_, rfl, rfl⟩
    decide +kernel
  have htwo : (dualListingService.matchesAt "ACME".toList .exactSymbol).length = 2 := by
    decide +kernel
  rintro ⟨r, hr, hcorrect⟩
  obtain ⟨r', hr', hresolved, hlevel⟩ := hstatus
  rw [hr] at hr'
  cases hr'
  rw [hnq] at hcorrect
  have hone := (hcorrect.resolved hresolved).2.1
  rw [hlevel, htwo] at hone
  cases hone

end StockResearch.Securities
