import StockResearch.Core.Chronology
import StockResearch.Core.DecimalRange
import StockResearch.Retrieval.IndexIdentity

/-!
# What a search returns

The hits of a search are the best of the drafts of its candidates.  A draft stands for a candidate
(`drafts_of_search`), the order of the drafts is by a key (`rankedBefore_iff`), and what is not among
the hits comes after all of them (`hitsOf_complete`).

Candidates pass `_matches_filters`, which reads every restriction of the filters but one: nothing in
a chunk says which section it is from, so `section_paths` restricts nothing.

**`filtersKept_iff`**: the filters are kept exactly when they list no section paths.
-/

namespace StockResearch.Retrieval

open PyText PyTime PyDecimal Checked

/-! ## The order of the hits -/

/-- The key by which drafts are ordered. -/
def rankKey (score : Decimal) (locator : String) (index : Nat) : ℚ ×ₗ String ×ₗ ℕ :=
  toLex (-score.toRat, toLex (locator, index))

lemma rankedBefore_iff {s s' : Decimal} {l l' : String} {i i' : Nat} :
    rankedBefore s l i s' l' i' = true ↔ rankKey s l i ≤ rankKey s' l' i' := by
  rw [rankKey, rankKey, Prod.Lex.toLex_le_toLex]
  unfold rankedBefore
  simp only [Decimal.le_iff_toRat, not_le, neg_lt_neg_iff, neg_inj]
  rcases lt_trichotomy s.toRat s'.toRat with hlt | heq | hgt
  · simp [hlt.not_gt, hlt.ne, hlt]
  · simp [heq]
  · simp [hgt]

def Draft.rankedBefore (a b : Draft) : Bool :=
  Retrieval.rankedBefore a.score a.chunk.locatorChecksum a.chunk.chunkIndex b.score
    b.chunk.locatorChecksum b.chunk.chunkIndex

lemma pairwise_rankedBefore (drafts : List Draft) :
    (drafts.insertionSort fun a b => a.rankedBefore b).Pairwise
      fun a b => a.rankedBefore b = true := by
  have htotal : Std.Total fun a b : Draft => a.rankedBefore b = true :=
    ⟨fun a b => by simpa only [Draft.rankedBefore, rankedBefore_iff] using le_total _ _⟩
  have htrans : IsTrans Draft fun a b => a.rankedBefore b = true :=
    ⟨fun a b c => by simpa only [Draft.rankedBefore, rankedBefore_iff] using le_trans⟩
  exact List.pairwise_insertionSort _ drafts

/-! ## Hits and drafts -/

structure Draft.Shown (draft : Draft) (hit : LexicalHit) : Prop where
  chunkId : hit.chunkId = draft.chunk.chunkId
  documentVersionId : hit.documentVersionId = draft.chunk.documentVersionId
  citationId : hit.citationId = draft.citationId
  chunkIndex : hit.chunkIndex = draft.chunk.chunkIndex
  locatorChecksum : hit.locatorChecksum = draft.chunk.locatorChecksum
  text : hit.text = draft.chunk.text
  sectionTitle : hit.sectionTitle = draft.chunk.sectionTitle
  score : hit.score = draft.score
  phraseMatch : hit.phraseMatch = draft.phraseMatch

/-- The hits show the best drafts, in order. -/
lemma forall₂_hitsOf (drafts : List Draft) (maxResults : Nat) :
    List.Forall₂ Draft.Shown ((drafts.insertionSort fun a b => a.rankedBefore b).take maxResults)
      (hitsOf drafts maxResults) := by
  have hshown : ∀ (ds : List Draft) (k : Nat), List.Forall₂ Draft.Shown ds
      ((ds.zipIdx k).map fun p => {
        chunkId := p.1.chunk.chunkId
        documentVersionId := p.1.chunk.documentVersionId
        citationId := p.1.citationId
        chunkIndex := p.1.chunk.chunkIndex
        locatorChecksum := p.1.chunk.locatorChecksum
        text := p.1.chunk.text
        sectionTitle := p.1.chunk.sectionTitle
        score := p.1.score
        rank := p.2 + 1
        phraseMatch := p.1.phraseMatch
        headingTokenMatches := p.1.headingTokenMatches }) := by
    intro ds
    induction ds with
    | nil => exact fun _ => .nil
    | cons d ds ih => exact fun k => .cons ⟨rfl, rfl, rfl, rfl, rfl, rfl, rfl, rfl, rfl⟩ (ih (k + 1))
  exact hshown _ 0

lemma mem_hitsOf {drafts : List Draft} {maxResults : Nat} {hit : LexicalHit}
    (h : hit ∈ hitsOf drafts maxResults) : ∃ draft ∈ drafts, draft.Shown hit := by
  obtain ⟨draft, hdraft, hshown⟩ := exists_of_forall₂ (forall₂_hitsOf drafts maxResults).flip h
  exact ⟨draft, (List.mem_insertionSort _).mp (List.mem_of_mem_take hdraft), hshown⟩

/-- **A draft is shown, or there is no room for it** behind the hits that come before it. -/
lemma hitsOf_complete {drafts : List Draft} {maxResults : Nat} {draft : Draft}
    (h : draft ∈ drafts) :
    (∃ hit ∈ hitsOf drafts maxResults, draft.Shown hit) ∨
      (hitsOf drafts maxResults).length = maxResults ∧ ∀ hit ∈ hitsOf drafts maxResults,
        rankedBefore hit.score hit.locatorChecksum hit.chunkIndex draft.score
          draft.chunk.locatorChecksum draft.chunk.chunkIndex = true := by
  have hrelated := forall₂_hitsOf drafts maxResults
  have hmem : draft ∈ drafts.insertionSort fun a b => a.rankedBefore b :=
    (List.mem_insertionSort _).mpr h
  have hsorted := pairwise_rankedBefore drafts
  generalize drafts.insertionSort (fun a b => a.rankedBefore b) = ranked at *
  rw [← List.take_append_drop maxResults ranked, List.mem_append] at hmem
  rcases hmem with hmem | hmem
  · left
    obtain ⟨hit, hhit, hshown⟩ := exists_of_forall₂ hrelated hmem
    exact ⟨hit, hhit, hshown⟩
  · right
    have hlength := hrelated.length_eq
    have hdropped := List.length_pos_of_mem hmem
    rw [List.length_drop] at hdropped
    rw [List.length_take] at hlength
    refine ⟨by omega, fun hit hhit => ?_⟩
    obtain ⟨other, hother, hshown⟩ := exists_of_forall₂ hrelated.flip hhit
    rw [← List.take_append_drop maxResults ranked, List.pairwise_append] at hsorted
    have hbefore := hsorted.2.2 other hother draft hmem
    rwa [Draft.rankedBefore, ← hshown.score, ← hshown.locatorChecksum, ← hshown.chunkIndex]
      at hbefore

/-! ## The drafts of a search -/

section

variable (library : Library) (chunks : List IndexableChunk) (index : LexicalIndexResult)
  (citationIds : Uuid → Option Uuid) (request : LexicalSearchRequest)

/-- The drafts that a search ranks: each is made of a candidate. -/
structure Drafted (drafts : List Draft) : Prop where
  candidates : drafts.map (fun draft => (draft.chunk, draft.citationId)) =
    searchable chunks index citationIds request
  features : ∃ average, ∀ draft ∈ drafts, draftOf library index
    (request.tokenizedQuery.tokens.map (·.value)) (searchable chunks index citationIds request)
    average (draft.chunk, draft.citationId) = .ok draft

end

variable {library : Library} {chunks : List IndexableChunk} {index : LexicalIndexResult}
  {citationIds : Uuid → Option Uuid} {request : LexicalSearchRequest}

/-- **A search ranks the drafts of its candidates.** -/
lemma drafts_of_search {hits : List LexicalHit}
    (h : search library chunks index citationIds request = .ok hits)
    (hversion : some request.indexVersionId = index.indexVersionId) :
    ∃ drafts, Drafted library chunks index citationIds request drafts ∧
      hits = hitsOf drafts request.maxResults := by
  rw [search, if_neg (not_not_intro hversion)] at h
  unfold searchAmong at h
  by_cases hnil : searchable chunks index citationIds request = []
  · rw [if_pos hnil, Except.ok.injEq] at h
    refine ⟨[], ⟨by rw [hnil]; rfl, ⟨0, by simp⟩⟩, ?_⟩
    rw [← h, hitsOf, List.insertionSort_nil, List.take_nil]
    rfl
  · rw [if_neg hnil] at h
    obtain ⟨lengths, -, h⟩ := bind_ok.mp h
    obtain ⟨average, -, h⟩ := bind_ok.mp h
    obtain ⟨drafts, hdrafts, h⟩ := bind_ok.mp h
    cases h
    have hrelated := forall₂_mapM (R := fun candidate draft =>
      (draft.chunk, draft.citationId) = candidate ∧ draftOf library index
        (request.tokenizedQuery.tokens.map (·.value)) (searchable chunks index citationIds request)
        average candidate = .ok draft) (fun candidate draft hdraft => by
          refine ⟨?_, hdraft⟩
          obtain ⟨features, -, rfl⟩ := map_ok.mp hdraft
          rfl) hdrafts
    refine ⟨drafts, ⟨?_, average, fun draft hmem => ?_⟩, rfl⟩
    · have hmap := map_eq_of_forall₂ (p := id) hrelated fun _ _ hxy => hxy.1.symm
      rw [← hmap, List.map_id]
    · obtain ⟨candidate, -, heq, hdraft⟩ := exists_of_forall₂ hrelated.flip hmem
      rwa [heq]

/-- Another version has no hits. -/
lemma search_otherVersion (hversion : some request.indexVersionId ≠ index.indexVersionId) :
    search library chunks index citationIds request = .ok [] := by
  rw [search, if_pos hversion]

/-- **Every hit shows a draft.** -/
lemma exists_draft_of_hit {hits : List LexicalHit}
    (h : search library chunks index citationIds request = .ok hits) {hit : LexicalHit}
    (hmem : hit ∈ hits) : ∃ drafts draft, Drafted library chunks index citationIds request drafts ∧
      draft ∈ drafts ∧ draft.Shown hit := by
  by_cases hversion : some request.indexVersionId = index.indexVersionId
  · obtain ⟨drafts, hdrafted, rfl⟩ := drafts_of_search h hversion
    obtain ⟨draft, hdraft, hshown⟩ := mem_hitsOf hmem
    exact ⟨drafts, draft, hdrafted, hdraft, hshown⟩
  · rw [search_otherVersion hversion, Except.ok.injEq] at h
    subst h
    cases hmem

/-! ## The filters -/

/-- **What filters ask of a chunk**, where `sections` says which section a chunk is from. -/
structure Admitted (sections : Uuid → Option String) (filters : RetrievalFilters)
    (chunk : IndexableChunk) : Prop where
  security : chunk.securityId = filters.securityId
  snapshot : ∀ snapshotId ∈ filters.snapshotId, snapshotId ∈ chunk.snapshotIds
  published : ∀ asOf ∈ filters.researchAsOfTime,
    (chunk.publishedAt = none → filters.strictUnknownPublication = false) ∧
      ∀ publishedAt ∈ chunk.publishedAt, ¬ asOf < publishedAt
  current : ∀ asOf ∈ filters.researchAsOfTime, chunk.supersessionTimeUnknown = false ∧
    ∀ supersededAt ∈ chunk.supersededAt, asOf < supersededAt
  documentType : filters.documentTypes = [] ∨ chunk.documentType ∈ filters.documentTypes
  language : filters.languages = [] ∨ chunk.language ∈ filters.languages
  trustLevel : filters.trustLevels = [] ∨ chunk.trustLevel ∈ filters.trustLevels
  sectionPath : filters.sectionPaths = [] ∨
    ∃ path ∈ filters.sectionPaths, sections chunk.chunkId = some path

/-- **What `_matches_filters` reads**: every restriction but the last. -/
lemma matchesFilters_iff {filters : RetrievalFilters} {chunk : IndexableChunk}
    {sections : Uuid → Option String} (hsections : filters.sectionPaths = []) :
    matchesFilters chunk filters = true ↔ Admitted sections filters chunk := by
  simp only [matchesFilters, Bool.and_eq_true, Bool.or_eq_true, decide_eq_true_eq,
    Option.all_eq_true, Bool.not_eq_true', Bool.and_eq_false_iff, Option.isNone_eq_false_iff]
  constructor
  · rintro ⟨⟨⟨⟨⟨hsecurity, hsnapshot⟩, htime⟩, htype⟩, hlanguage⟩, htrust⟩
    refine ⟨hsecurity, hsnapshot, fun asOf hasOf => ?_, fun asOf hasOf => ?_, htype, hlanguage,
      htrust, Or.inl hsections⟩
    · obtain ⟨⟨⟨hstrict, hpublished⟩, -⟩, -⟩ := htime asOf hasOf
      refine ⟨fun hnone => ?_, hpublished⟩
      rw [hnone] at hstrict
      simpa using hstrict
    · obtain ⟨⟨-, hknown⟩, hsuperseded⟩ := htime asOf hasOf
      exact ⟨hknown, hsuperseded⟩
  · intro h
    refine ⟨⟨⟨⟨⟨h.security, h.snapshot⟩, fun asOf hasOf => ?_⟩, h.documentType⟩, h.language⟩,
      h.trustLevel⟩
    obtain ⟨hstrict, hpublished⟩ := h.published asOf hasOf
    obtain ⟨hknown, hsuperseded⟩ := h.current asOf hasOf
    refine ⟨⟨⟨?_, hpublished⟩, hknown⟩, hsuperseded⟩
    cases hchunk : chunk.publishedAt with
    | none => exact Or.inr (hstrict hchunk)
    | some publishedAt => exact Or.inl rfl

/-- The chunks of a service that an index has for a query, and that can be cited. -/
structure Found (index : LexicalIndexResult) (citationIds : Uuid → Option Uuid)
    (request : LexicalSearchRequest) (chunk : IndexableChunk) : Prop where
  version : some request.indexVersionId = index.indexVersionId
  cited : ∃ citationId, citationIds chunk.chunkId = some citationId
  posted : ∃ posting ∈ index.postings, posting.chunkId = chunk.chunkId ∧
    posting.token ∈ request.tokenizedQuery.tokens.map (·.value)

/-- **The filters of a search are kept.** -/
structure FiltersKept (library : Library) (chunks : List IndexableChunk)
    (sections : Uuid → Option String) (index : LexicalIndexResult)
    (citationIds : Uuid → Option Uuid) (request : LexicalSearchRequest) (hits : List LexicalHit) :
    Prop where
  /-- Every hit shows a chunk that the filters admit. -/
  sound : ∀ hit ∈ hits, ∃ chunk ∈ chunks, hit.chunkId = chunk.chunkId ∧ hit.text = chunk.text ∧
    citationIds chunk.chunkId = some hit.citationId ∧ Admitted sections request.filters chunk
  /-- Every admitted chunk that is found comes back, or the hits that are better fill the room. -/
  complete : ∀ chunk ∈ Dict.valuesBy (·.chunkId) chunks, Found index citationIds request chunk →
    Admitted sections request.filters chunk →
    (∃ hit ∈ hits, hit.chunkId = chunk.chunkId) ∨
      hits.length = request.maxResults ∧ ∃ drafts draft,
        Drafted library chunks index citationIds request drafts ∧ draft ∈ drafts ∧
          draft.chunk = chunk ∧ ∀ hit ∈ hits, rankedBefore hit.score hit.locatorChecksum
            hit.chunkIndex draft.score chunk.locatorChecksum chunk.chunkIndex = true

lemma mem_searchable {candidate : IndexableChunk × Uuid} :
    candidate ∈ searchable chunks index citationIds request ↔
      candidate.1 ∈ Dict.valuesBy (·.chunkId) chunks ∧
        postingsFor index (request.tokenizedQuery.tokens.map (·.value)) candidate.1.chunkId ≠ [] ∧
          matchesFilters candidate.1 request.filters = true ∧
            citationIds candidate.1.chunkId = some candidate.2 := by
  obtain ⟨chunk, citationId⟩ := candidate
  simp only [searchable, List.mem_filterMap]
  constructor
  · rintro ⟨other, hother, h⟩
    split_ifs at h with hleft
    obtain ⟨citation, hcitation, h⟩ := Option.map_eq_some_iff.mp h
    rw [Prod.mk.injEq] at h
    obtain ⟨rfl, rfl⟩ := h
    rw [not_or, not_not] at hleft
    exact ⟨hother, hleft.1, hleft.2, hcitation⟩
  · rintro ⟨hchunk, hposted, hmatches, hcitation⟩
    refine ⟨chunk, hchunk, ?_⟩
    rw [if_neg (not_or.mpr ⟨hposted, not_not_intro hmatches⟩), hcitation]
    rfl

lemma mem_of_mem_valuesBy {chunk : IndexableChunk}
    (h : chunk ∈ Dict.valuesBy (·.chunkId) chunks) : chunk ∈ chunks := by
  have hput : ∀ (values : List IndexableChunk) (a : IndexableChunk),
      ∀ b ∈ Dict.put (·.chunkId) values a, b ∈ values ∨ b = a := by
    intro values a b hb
    unfold Dict.put at hb
    split_ifs at hb
    · obtain ⟨c, hc, rfl⟩ := List.mem_map.mp hb
      split_ifs with hkey
      · exact Or.inr rfl
      · exact Or.inl hc
    · simpa using hb
  have hfold : ∀ (xs values : List IndexableChunk),
      ∀ b ∈ xs.foldl (Dict.put (·.chunkId)) values, b ∈ values ∨ b ∈ xs := by
    intro xs
    induction xs with
    | nil => exact fun values b hb => Or.inl hb
    | cons x xs ih =>
        intro values b hb
        rcases ih _ b hb with hb | hb
        · rcases hput values x b hb with hb | rfl
          · exact Or.inl hb
          · exact Or.inr List.mem_cons_self
        · exact Or.inr (List.mem_cons_of_mem _ hb)
  exact (hfold chunks [] chunk h).resolve_left (by simp)

/-- Without section paths, a search keeps its filters. -/
lemma filtersKept_of_search {sections : Uuid → Option String} {hits : List LexicalHit}
    (hsections : request.filters.sectionPaths = [])
    (h : search library chunks index citationIds request = .ok hits) :
    FiltersKept library chunks sections index citationIds request hits where
  sound hit hmem := by
    obtain ⟨drafts, draft, hdrafted, hdraft, hshown⟩ := exists_draft_of_hit h hmem
    have hcandidate : (draft.chunk, draft.citationId) ∈
        searchable chunks index citationIds request := by
      rw [← hdrafted.candidates]
      exact List.mem_map_of_mem hdraft
    obtain ⟨hchunk, -, hmatches, hcitation⟩ := mem_searchable.mp hcandidate
    refine ⟨draft.chunk, mem_of_mem_valuesBy hchunk, hshown.chunkId, hshown.text, ?_,
      (matchesFilters_iff hsections).mp hmatches⟩
    rw [hshown.citationId]
    exact hcitation
  complete chunk hchunk hfound hadmitted := by
    obtain ⟨drafts, hdrafted, rfl⟩ := drafts_of_search h hfound.version
    obtain ⟨citationId, hcitation⟩ := hfound.cited
    obtain ⟨posting, hposting, hid, htoken⟩ := hfound.posted
    have hcandidate : (chunk, citationId) ∈ searchable chunks index citationIds request := by
      refine mem_searchable.mpr ⟨hchunk, List.ne_nil_of_mem (a := posting) ?_,
        (matchesFilters_iff hsections).mpr hadmitted, hcitation⟩
      exact List.mem_filter.mpr ⟨hposting, by simpa using ⟨by simpa using htoken, hid⟩⟩
    rw [← hdrafted.candidates] at hcandidate
    obtain ⟨draft, hdraft, heq⟩ := List.mem_map.mp hcandidate
    rw [Prod.mk.injEq] at heq
    obtain ⟨rfl, rfl⟩ := heq
    rcases hitsOf_complete hdraft with ⟨hit, hhit, hshown⟩ | ⟨hfull, hbefore⟩
    · exact Or.inl ⟨hit, hhit, hshown.chunkId⟩
    · exact Or.inr ⟨hfull, drafts, draft, hdrafted, hdraft, rfl, hbefore⟩

/-! ## Filters with section paths -/

/-- A chunk that passes `_matches_filters`. -/
def matchingChunk (filters : RetrievalFilters) : IndexableChunk where
  chunkId := 1
  documentVersionId := 7
  documentChecksum := "c"
  securityId := filters.securityId
  publishedAt := filters.researchAsOfTime
  snapshotIds := filters.snapshotId.toList
  chunkIndex := 0
  locatorChecksum := "l"
  text := ['x']
  sectionTitle := none
  documentType := filters.documentTypes.headD .sec10K
  language := filters.languages.headD .enUs
  trustLevel := filters.trustLevels.headD .officialRegulatory
  supersededAt := none
  supersessionTimeUnknown := false
  text_bounds := oneLetter_bounds
  title_bound := untitled_bound

/-- An index with one posting. -/
def onePosting : LexicalIndexResult where
  status := .complete
  indexVersionId := some 3
  documentSetChecksum := some "c"
  documentCount := 1
  chunkCount := 1
  averageChunkLength := some 1
  postings := [⟨['x'], 1, 1, .body, [0]⟩]
  reused := false

lemma oneWord_bounds : 1 ≤ ['x'].length ∧ ['x'].length ≤ 64 := by decide

lemma oneWord_query : 1 ≤ ['x'].length ∧ ['x'].length ≤ 256 := by decide

lemma firstPosition_le : 0 ≤ 4095 := by decide

lemma oneResult_bounds : 1 ≤ 1 ∧ 1 ≤ 20 := by decide

/-- A query of one word. -/
def oneWord : TokenizedQuery where
  originalQuery := ['x']
  normalizedQuery := ['x']
  tokens := [⟨['x'], 0, oneWord_bounds, firstPosition_le⟩]
  original_bounds := oneWord_query
  normalized_bounds := oneWord_query
  tokens_bounds := by decide

/-- The search for one word with some filters. -/
def searchFor (filters : RetrievalFilters) : LexicalSearchRequest where
  indexVersionId := 3
  tokenizedQuery := oneWord
  filters := filters
  maxResults := 1
  results_bounds := oneResult_bounds

lemma matchesFilters_matchingChunk (filters : RetrievalFilters) :
    matchesFilters (matchingChunk filters) filters = true := by
  have hhead : ∀ {α : Type} (xs : List α) (a : α), xs = [] ∨ xs.headD a ∈ xs := by
    intro α xs a
    cases xs with
    | nil => exact Or.inl rfl
    | cons x xs => exact Or.inr List.mem_cons_self
  -- The section paths are not read.
  change matchesFilters (matchingChunk filters) { filters with sectionPaths := [] } = true
  refine (@matchesFilters_iff _ _ (fun _ => none) rfl).mpr
    ⟨rfl, fun snapshotId h => ?_, fun asOf h => ⟨fun hnone => ?_, fun publishedAt hpublished => ?_⟩,
      fun asOf h => ⟨rfl, by simp [matchingChunk]⟩, hhead _ _, hhead _ _, hhead _ _, Or.inl rfl⟩
  · simpa [matchingChunk] using h
  · rw [Option.mem_def] at h
    rw [matchingChunk] at hnone
    dsimp only at h hnone
    rw [h] at hnone
    cases hnone
  · rw [Option.mem_def] at h hpublished
    rw [matchingChunk] at hpublished
    dsimp only at h hpublished
    rw [h, Option.some.injEq] at hpublished
    subst hpublished
    exact lt_irrefl asOf

/-- The chunk comes back. -/
lemma exists_hit_matchingChunk (filters : RetrievalFilters) :
    ∃ hit, search sampleLibrary [matchingChunk filters] onePosting (fun _ => some 9)
      (searchFor filters) = .ok [hit] ∧ hit.chunkId = 1 := by
  have hposted : postingsFor onePosting [['x']] 1 ≠ [] := by decide
  have hcandidates : searchable [matchingChunk filters] onePosting (fun _ => some 9)
      (searchFor filters) = [(matchingChunk filters, 9)] := by
    have hkept : ¬ (postingsFor onePosting [['x']] 1 = [] ∨
        ¬ matchesFilters (matchingChunk filters) filters = true) :=
      not_or.mpr ⟨hposted, not_not_intro (matchesFilters_matchingChunk filters)⟩
    change (if postingsFor onePosting [['x']] 1 = [] ∨
      ¬ matchesFilters (matchingChunk filters) filters = true then none
      else some (matchingChunk filters, (9 : Uuid))).toList = _
    rw [if_neg hkept]
    rfl
  have hlengths : ([(matchingChunk filters, (9 : Uuid))].mapM fun candidate => do
      return (← tokenize sampleLibrary.folding candidate.1.text false).length) = .ok [1] := by
    have htokens : tokenize sampleLibrary.folding ['x'] false = .ok oneWord.tokens := by
      decide +kernel
    refine mapM_of_forall₂ (.cons ?_ .nil)
    change (tokenize sampleLibrary.folding ['x'] false >>= _) = _
    rw [htokens]
    rfl
  have haverage : raising (Decimal.div defaultContext (.ofNat [1].sum) (.ofNat [1].length)) =
      .ok 1 := by decide +kernel
  have hfeatures : featuresOf sampleLibrary onePosting [['x']] [1] 1 1 ['x'] none =
      .ok (⟨false, 1333333333333, -12⟩, true, 0) := by decide +kernel
  have hdrafts : [(matchingChunk filters, (9 : Uuid))].mapM (draftOf sampleLibrary onePosting
      [['x']] [(matchingChunk filters, 9)] 1) =
        .ok [⟨matchingChunk filters, 9, ⟨false, 1333333333333, -12⟩, true, 0⟩] :=
    mapM_of_forall₂ (.cons (map_ok.mpr ⟨_, hfeatures, rfl⟩) .nil)
  have hversion : some (searchFor filters).indexVersionId = onePosting.indexVersionId := rfl
  have hsearch : search sampleLibrary [matchingChunk filters] onePosting (fun _ => some 9)
      (searchFor filters) =
        .ok (hitsOf [⟨matchingChunk filters, 9, ⟨false, 1333333333333, -12⟩, true, 0⟩] 1) := by
    rw [search, if_neg (not_not_intro hversion), hcandidates, searchAmong,
      if_neg (List.cons_ne_nil _ _)]
    rw [hlengths, ok_bind, haverage, ok_bind]
    change (List.mapM (draftOf sampleLibrary onePosting [['x']] [(matchingChunk filters, 9)] 1)
      [(matchingChunk filters, (9 : Uuid))] >>= _) = _
    rw [hdrafts]
    rfl
  rw [hsearch, hitsOf, List.insertionSort_cons, List.insertionSort_nil, List.orderedInsert_nil]
  exact ⟨_, rfl, rfl⟩

/-- **The filters are kept exactly when they list no section paths.** -/
theorem filtersKept_iff (filters : RetrievalFilters) :
    (∀ (library : Library) (chunks : List IndexableChunk) (sections : Uuid → Option String)
        (index : LexicalIndexResult) (citationIds : Uuid → Option Uuid)
        (request : LexicalSearchRequest) (hits : List LexicalHit), request.filters = filters →
        search library chunks index citationIds request = .ok hits →
          FiltersKept library chunks sections index citationIds request hits) ↔
      filters.sectionPaths = [] := by
  constructor
  · intro hkept
    obtain ⟨hit, hsearch, -⟩ := exists_hit_matchingChunk filters
    obtain ⟨chunk, -, -, -, -, hadmitted⟩ := (hkept sampleLibrary [matchingChunk filters]
      (fun _ => none) onePosting (fun _ => some 9) (searchFor filters) [hit] rfl hsearch).sound hit
        (List.mem_singleton_self hit)
    refine hadmitted.sectionPath.resolve_right ?_
    rintro ⟨path, -, hpath⟩
    cases hpath
  · rintro hsections library chunks sections index citationIds request hits rfl hsearch
    exact filtersKept_of_search hsections hsearch

/-- Filters on a section of a security. -/
def riskFilters : RetrievalFilters where
  securityId := 1
  snapshotId := some 5
  researchAsOfTime := none
  documentTypes := []
  languages := []
  trustLevels := []
  sectionPaths := ["/risk"]
  strictUnknownPublication := true
  one_scope := by decide

/-- A chunk from another section comes back. -/
theorem riskFilters_not_kept :
    ∃ hits, search sampleLibrary [matchingChunk riskFilters] onePosting (fun _ => some 9)
        (searchFor riskFilters) = .ok hits ∧
      ¬ FiltersKept sampleLibrary [matchingChunk riskFilters] (fun _ => some "/business") onePosting
        (fun _ => some 9) (searchFor riskFilters) hits := by
  obtain ⟨hit, hsearch, -⟩ := exists_hit_matchingChunk riskFilters
  refine ⟨[hit], hsearch, fun hkept => ?_⟩
  obtain ⟨chunk, -, -, -, -, hadmitted⟩ := hkept.sound hit (List.mem_singleton_self hit)
  rcases hadmitted.sectionPath with hnone | ⟨path, hpath, heq⟩
  · cases hnone
  · obtain rfl := List.mem_singleton.mp hpath
    exact absurd (Option.some.inj heq) (by decide)

end StockResearch.Retrieval
