import StockResearch.Retrieval.IndexIdentity

/-!
# Retrieval at a point in time

Fusion and reranking order the hits of a lexical search by their ranks in the lexical and the vector
channel.  The law of this module is about the whole way from the chunks to the reranked hits: what
became known after the cutoff cannot be told from the result.

The score of a chunk depends on statistics over all candidates, so it is not enough that every hit
is itself admissible.  `searchable_map_forget` is where this is settled: every chunk that counts in
a statistic has a posting in the index, hence was known at the cutoff.
-/

namespace StockResearch.Retrieval

open PyText PyTime PyDecimal PyJson Checked

/-! ## Fusion and reranking -/

structure VectorHit where
  chunkId : Uuid
  score : Decimal
  rank : Nat
deriving DecidableEq

inductive RerankReason where
  | exactPhrase | headingMatch | fusionScore | stableTie
deriving DecidableEq, Repr

structure HybridHit where
  chunkId : Uuid
  documentVersionId : Uuid
  citationId : Uuid
  chunkIndex : Nat
  locatorChecksum : String
  text : Text
  sectionTitle : Option Text
  lexicalRank : Option Nat
  vectorRank : Option Nat
  lexicalScore : Option Decimal
  vectorScore : Option Decimal
  fusionScore : Decimal
  phraseMatch : Bool
  headingTokenMatches : Nat
  rerankReason : RerankReason
deriving DecidableEq

/-- `vector_by_chunk.get(chunk_id)`: of several hits of one chunk the last. -/
def vectorByChunk (vector : List VectorHit) (chunkId : Uuid) : Option VectorHit :=
  vector.reverse.find? (·.chunkId = chunkId)

/-- The hybrid hit of one lexical hit. -/
def fuse (vector : List VectorHit) (k : Int) (hit : LexicalHit) : Except Signal HybridHit := do
  let vectorHit := vectorByChunk vector hit.chunkId
  let lexicalPart ← Decimal.div defaultContext 1 (.ofNat (k.toNat + hit.rank))
  let score ← match vectorHit with
    | none => pure lexicalPart
    | some found => do
        lexicalPart.add defaultContext (← Decimal.div defaultContext 1 (.ofNat (k.toNat + found.rank)))
  return {
    chunkId := hit.chunkId
    documentVersionId := hit.documentVersionId
    citationId := hit.citationId
    chunkIndex := hit.chunkIndex
    locatorChecksum := hit.locatorChecksum
    text := hit.text
    sectionTitle := hit.sectionTitle
    lexicalRank := some hit.rank
    vectorRank := vectorHit.map (·.rank)
    lexicalScore := some hit.score
    vectorScore := vectorHit.map (·.score)
    fusionScore := ← score.quantize defaultContext quantum
    phraseMatch := hit.phraseMatch
    headingTokenMatches := hit.headingTokenMatches
    rerankReason := .fusionScore }

def reciprocalRankFusion (lexical : List LexicalHit) (vector : List VectorHit) (k : Int) :
    Except Raised (List HybridHit) := do
  check (k < 1) (.value "RRF k must be positive")
  let results ← raising (lexical.mapM (fuse vector k))
  return results.insertionSort fun a b => rankedBefore a.fusionScore a.locatorChecksum a.chunkIndex
    b.fusionScore b.locatorChecksum b.chunkIndex

def reason (hit : HybridHit) : RerankReason :=
  if hit.phraseMatch then .exactPhrase
  else if hit.headingTokenMatches ≠ 0 then .headingMatch
  else .fusionScore

/-- `min(rank for rank in (hit.lexical_rank, hit.vector_rank) if rank is not None)` -/
def HybridHit.bestRank (hit : HybridHit) : Nat :=
  match hit.lexicalRank, hit.vectorRank with
  | some m, some n => min m n
  | some m, none => m
  | none, some n => n
  | none, none => 0

/-- The order of the key of `stable_rerank`, for hits with `-hit.fusion_score`. -/
def rerankedBefore (a b : HybridHit × Decimal) : Bool :=
  if a.1.phraseMatch ≠ b.1.phraseMatch then a.1.phraseMatch
  else if a.1.headingTokenMatches ≠ b.1.headingTokenMatches then
    b.1.headingTokenMatches < a.1.headingTokenMatches
  else if ¬ b.2 ≤ a.2 then true
  else if ¬ a.2 ≤ b.2 then false
  else toLex (a.1.bestRank, toLex (a.1.locatorChecksum, a.1.chunkIndex)) ≤
    toLex (b.1.bestRank, toLex (b.1.locatorChecksum, b.1.chunkIndex))

/-- A hit with `-hit.fusion_score`, which is rounded like every result of decimal arithmetic. -/
def withKey (hit : HybridHit) : Except Signal (HybridHit × Decimal) :=
  (hit.fusionScore.neg defaultContext).map (hit, ·)

def stableRerank (hits : List HybridHit) : Except Raised (List HybridHit) := do
  let keyed ← raising (hits.mapM withKey)
  return (keyed.insertionSort fun a b => rerankedBefore a b).map fun (hit, _) =>
    { hit with rerankReason := reason hit }

/-- The whole way: build the index over the chunks, search it, fuse and rerank. -/
def retrieve (library : Library) (chunks : List IndexableChunk) (citationIds : Uuid → Option Uuid)
    (request : LexicalBuildRequest) (query : LexicalSearchRequest) (vector : List VectorHit)
    (k : Int) : Except Raised (List HybridHit) := do
  let (index, _) ← (LexicalIndexService.new chunks).build library request
  let hits ← search library chunks index citationIds query
  let fused ← reciprocalRankFusion hits vector k
  stableRerank fused

/-- A new service has no index to reuse. -/
lemma retrieve_eq (library : Library) (chunks : List IndexableChunk)
    (citationIds : Uuid → Option Uuid) (request : LexicalBuildRequest)
    (query : LexicalSearchRequest) (vector : List VectorHit) (k : Int) :
    retrieve library chunks citationIds request query vector k =
      indexOf library request (eligibleChunks chunks request) >>= fun index =>
        search library chunks index citationIds query >>= fun hits =>
          reciprocalRankFusion hits vector k >>= stableRerank := by
  simp only [retrieve, LexicalIndexService.build, LexicalIndexService.new, List.lookup_nil,
    bind_assoc, pure_bind]

/-! ## What the cutoff hides -/

/-- The chunk is of the security, was published at a known time no later than the cutoff, and was
not superseded by then. -/
def KnownAt (securityId : Uuid) (cutoff : Instant) (chunk : IndexableChunk) : Prop :=
  chunk.securityId = securityId ∧ (∃ publishedAt ∈ chunk.publishedAt, ¬ cutoff < publishedAt) ∧
    chunk.supersessionTimeUnknown = false ∧
    ∀ supersededAt ∈ chunk.supersededAt, cutoff < supersededAt

instance (securityId : Uuid) (cutoff : Instant) (chunk : IndexableChunk) :
    Decidable (KnownAt securityId cutoff chunk) :=
  inferInstanceAs (Decidable (_ ∧ _ ∧ _ ∧ _))

/-- A chunk without what may become known later: when it is superseded, and the snapshots that it
is taken into. -/
def IndexableChunk.forget (chunk : IndexableChunk) : IndexableChunk :=
  { chunk with snapshotIds := [], supersededAt := none }

variable {library : Library} {request : LexicalBuildRequest} {cutoff : Instant}

/-- The chunks that an as-of request admits are those known at its cutoff. -/
lemma eligible_iff (hcutoff : request.indexAsOfTime = some cutoff) (chunk : IndexableChunk) :
    eligible chunk request = true ↔ KnownAt request.securityId cutoff chunk := by
  have hsnapshot : request.snapshotId = none := by
    have hscope := request.one_scope
    rw [hcutoff] at hscope
    simpa using hscope
  unfold eligible KnownAt
  rw [hsnapshot, hcutoff]
  cases hpublished : chunk.publishedAt <;> cases hsuperseded : chunk.supersededAt <;>
    by_cases hsecurity : chunk.securityId = request.securityId <;>
    simp [hsecurity, and_assoc]

/-- On a chunk known at the cutoff, the filters of a search at the cutoff read nothing of what may
become known later. -/
lemma matchesFilters_forget {filters : RetrievalFilters} {securityId : Uuid} {chunk : IndexableChunk}
    (hasOf : filters.researchAsOfTime = some cutoff) (hknown : KnownAt securityId cutoff chunk) :
    matchesFilters chunk.forget filters = matchesFilters chunk filters := by
  have hsnapshot : filters.snapshotId = none := by
    have hscope := filters.one_scope
    rw [hasOf] at hscope
    simpa using hscope
  obtain ⟨-, -, -, hsuperseded⟩ := hknown
  have hall : chunk.supersededAt.all (fun supersededAt => decide (cutoff < supersededAt)) = true := by
    simpa [Option.all_eq_true] using hsuperseded
  simp only [matchesFilters, hsnapshot, hasOf, Option.all_some, hall]
  rfl

/-! ## The index -/

lemma eligibleChunks_forget (chunks : List IndexableChunk) (request : LexicalBuildRequest) :
    (eligibleChunks chunks request).map (·.forget) =
      ((chunks.filter (eligible · request)).map (·.forget)).insertionSort fun a b => a.key ≤ b.key :=
  List.map_insertionSort _ _ _ _ fun _ _ _ _ => Iff.rfl

lemma indexOf_forget (chunks : List IndexableChunk) :
    indexOf library request (chunks.map (·.forget)) = indexOf library request chunks := by
  have hdocuments : documentSet (chunks.map (·.forget)) = documentSet chunks := by
    rw [documentSet, List.map_map]
    rfl
  simp only [indexOf, hdocuments, List.mapM_map, List.length_map]
  rfl

/-- Chunks that agree up to what may become known later give the same index. -/
lemma build_congr {cs ds : List IndexableChunk}
    (h : (cs.filter (eligible · request)).map (·.forget) =
      (ds.filter (eligible · request)).map (·.forget)) :
    indexOf library request (eligibleChunks cs request) =
      indexOf library request (eligibleChunks ds request) := by
  rw [← indexOf_forget, eligibleChunks_forget, h, ← eligibleChunks_forget, indexOf_forget]

/-! ## The search -/

/-- A candidate without what may become known later. -/
def forgetCandidate (candidate : IndexableChunk × Uuid) : IndexableChunk × Uuid :=
  (candidate.1.forget, candidate.2)

/-- A chunk with a posting in the index was known at the cutoff. -/
lemma knownAt_of_posting {chunks : List IndexableChunk} {index : LexicalIndexResult}
    (hnodup : (chunks.map (·.chunkId)).Nodup)
    (hindex : indexOf library request (eligibleChunks chunks request) = .ok index)
    {chunk : IndexableChunk} (hmem : chunk ∈ chunks) {query : List Text}
    (hposting : postingsFor index query chunk.chunkId ≠ []) : eligible chunk request = true := by
  obtain ⟨posting, hposting⟩ := List.exists_mem_of_ne_nil _ hposting
  simp only [postingsFor, List.mem_filter, decide_eq_true_eq] at hposting
  obtain ⟨hposting, -, hid⟩ := hposting
  rw [(holds_of_indexOf hindex).postings, List.mem_flatMap] at hposting
  obtain ⟨entry, hentry, hposting⟩ := hposting
  obtain ⟨other, hother, rfl⟩ := List.mem_map.mp hentry
  rw [eligibleChunks, List.mem_insertionSort, List.mem_filter] at hother
  -- The posting is of some chunk of the index, and identifiers are not repeated.
  have hsame : other = chunk :=
    List.inj_on_of_nodup_map hnodup hother.1 hmem
      ((chunkId_of_wordPostings hposting).symm.trans hid)
  exact hsame ▸ hother.2

/-- What the filters, the citations and the index leave is known at the cutoff, and it is the same
whatever becomes known later. -/
lemma searchable_map_forget {chunks : List IndexableChunk} {index : LexicalIndexResult}
    {citationIds : Uuid → Option Uuid} {query : LexicalSearchRequest}
    (hcutoff : request.indexAsOfTime = some cutoff)
    (hasOf : query.filters.researchAsOfTime = some cutoff)
    (hnodup : (chunks.map (·.chunkId)).Nodup)
    (hindex : indexOf library request (eligibleChunks chunks request) = .ok index) :
    (searchable chunks index citationIds query).map forgetCandidate =
      ((chunks.filter (eligible · request)).map (·.forget)).filterMap fun chunk =>
        if postingsFor index (query.tokenizedQuery.tokens.map (·.value)) chunk.chunkId = [] ∨
            ¬ matchesFilters chunk query.filters then none
        else (citationIds chunk.chunkId).map fun citationId => (chunk, citationId) := by
  simp only [searchable, Dict.valuesBy_of_nodup hnodup, List.map_filterMap, List.filterMap_map,
    List.filterMap_filter]
  refine List.filterMap_congr fun chunk hmem => ?_
  by_cases hposting : postingsFor index (query.tokenizedQuery.tokens.map (·.value)) chunk.chunkId = []
  · have hforget : chunk.forget.chunkId = chunk.chunkId := rfl
    simp [hposting, hforget]
  · have heligible := knownAt_of_posting hnodup hindex hmem hposting
    have hmatches := matchesFilters_forget hasOf ((eligible_iff hcutoff chunk).mp heligible)
    have hforget : chunk.forget.chunkId = chunk.chunkId := rfl
    simp only [Function.comp_apply, heligible, hmatches, hforget, hposting, if_true]
    split_ifs
    · rfl
    · rw [Option.map_map]
      rfl

/-- A draft without what may become known later. -/
def Draft.forget (draft : Draft) : Draft := { draft with chunk := draft.chunk.forget }

lemma hitsOf_forget (drafts : List Draft) (maxResults : Nat) :
    hitsOf (drafts.map Draft.forget) maxResults = hitsOf drafts maxResults := by
  unfold hitsOf
  rw [← List.map_insertionSort _ _ Draft.forget drafts fun _ _ _ _ => Iff.rfl, ← List.map_take,
    List.zipIdx_map, List.map_map]
  rfl

lemma draftOf_forget {index : LexicalIndexResult} {query : List Text}
    {candidates : List (IndexableChunk × Uuid)} {average : Decimal}
    (candidate : IndexableChunk × Uuid) :
    draftOf library index query (candidates.map forgetCandidate) average (forgetCandidate candidate) =
      (draftOf library index query candidates average candidate).map Draft.forget := by
  have hids : (candidates.map forgetCandidate).map (·.1.chunkId) = candidates.map (·.1.chunkId) := by
    rw [List.map_map]
    rfl
  simp only [draftOf, hids, forgetCandidate, IndexableChunk.forget]
  cases featuresOf library index query (candidates.map (·.1.chunkId)) average candidate.1.chunkId
    candidate.1.text candidate.1.sectionTitle <;> rfl

/-- The hits do not depend on what may become known later of the candidates. -/
lemma searchAmong_forget {index : LexicalIndexResult} {query : LexicalSearchRequest}
    (candidates : List (IndexableChunk × Uuid)) :
    searchAmong library index query (candidates.map forgetCandidate) =
      searchAmong library index query candidates := by
  unfold searchAmong
  by_cases hnil : candidates = []
  · rw [hnil, List.map_nil]
  · rw [if_neg (by simpa using hnil), if_neg hnil, List.mapM_map]
    refine bind_congr fun lengths => bind_congr fun average => ?_
    have hdrafts : (candidates.map forgetCandidate).mapM (draftOf library index
          (query.tokenizedQuery.tokens.map (·.value)) (candidates.map forgetCandidate) average) =
        (candidates.mapM (draftOf library index
          (query.tokenizedQuery.tokens.map (·.value)) candidates average)).map
            (List.map Draft.forget) :=
      mapM_map_of_comm fun candidate _ => draftOf_forget candidate
    rw [hdrafts]
    cases candidates.mapM (draftOf library index (query.tokenizedQuery.tokens.map (·.value))
      candidates average) with
    | error e => rfl
    | ok drafts => exact congrArg Except.ok (hitsOf_forget drafts query.maxResults)

/-! ## The law -/

/-- Two collections agree on what was known at the cutoff: the same chunks in the same order, up to
later supersession and membership in snapshots. -/
def AgreeAt (securityId : Uuid) (cutoff : Instant) (cs ds : List IndexableChunk) : Prop :=
  (cs.filter (KnownAt securityId cutoff ·)).map (·.forget) =
    (ds.filter (KnownAt securityId cutoff ·)).map (·.forget)

section

variable {cs ds : List IndexableChunk} {citationIds citationIds' : Uuid → Option Uuid}
  {query : LexicalSearchRequest}

/-- Collections that agree on what an index admits are searched with the same result. -/
lemma search_congr {index : LexicalIndexResult} (hcutoff : request.indexAsOfTime = some cutoff)
    (hasOf : query.filters.researchAsOfTime = some cutoff)
    (hcs : (cs.map (·.chunkId)).Nodup) (hds : (ds.map (·.chunkId)).Nodup)
    (hagree : (cs.filter (eligible · request)).map (·.forget) =
      (ds.filter (eligible · request)).map (·.forget))
    (hcited : ∀ chunk ∈ cs.filter (eligible · request),
      citationIds chunk.chunkId = citationIds' chunk.chunkId)
    (hindex : indexOf library request (eligibleChunks cs request) = .ok index) :
    search library cs index citationIds query = search library ds index citationIds' query := by
  have hindex' : indexOf library request (eligibleChunks ds request) = .ok index := by
    rw [← hindex, build_congr hagree]
  have hcandidates : (searchable cs index citationIds query).map forgetCandidate =
      (searchable ds index citationIds' query).map forgetCandidate := by
    rw [searchable_map_forget hcutoff hasOf hcs hindex,
      searchable_map_forget hcutoff hasOf hds hindex', ← hagree]
    refine List.filterMap_congr fun chunk hchunk => ?_
    obtain ⟨known, hknown, rfl⟩ := List.mem_map.mp hchunk
    have hcitation : citationIds known.forget.chunkId = citationIds' known.forget.chunkId :=
      hcited known hknown
    rw [hcitation]
  rw [search, search, ← searchAmong_forget, hcandidates, searchAmong_forget]

/-- **Retrieval is point-in-time.**  Collections that agree on what was known at the cutoff give the
same hits, with the same scores and ranks and in the same order. -/
theorem retrieve_pointInTime (vector : List VectorHit) (k : Int)
    (hcutoff : request.indexAsOfTime = some cutoff)
    (hasOf : query.filters.researchAsOfTime = some cutoff)
    (hcs : (cs.map (·.chunkId)).Nodup) (hds : (ds.map (·.chunkId)).Nodup)
    (hagree : AgreeAt request.securityId cutoff cs ds)
    (hcited : ∀ chunk ∈ cs, KnownAt request.securityId cutoff chunk →
      citationIds chunk.chunkId = citationIds' chunk.chunkId) :
    retrieve library cs citationIds request query vector k =
      retrieve library ds citationIds' request query vector k := by
  have hfilter : ∀ chunks : List IndexableChunk, chunks.filter (eligible · request) =
      chunks.filter (KnownAt request.securityId cutoff ·) := fun chunks =>
    List.filter_congr fun chunk _ => by
      rw [Bool.eq_iff_iff, eligible_iff hcutoff, decide_eq_true_eq]
  have hforget : (cs.filter (eligible · request)).map (·.forget) =
      (ds.filter (eligible · request)).map (·.forget) := by
    rw [hfilter, hfilter, hagree]
  have hcited' : ∀ chunk ∈ cs.filter (eligible · request),
      citationIds chunk.chunkId = citationIds' chunk.chunkId := by
    intro chunk hchunk
    rw [hfilter, List.mem_filter, decide_eq_true_eq] at hchunk
    exact hcited chunk hchunk.1 hchunk.2
  have hindex : indexOf library request (eligibleChunks cs request) =
      indexOf library request (eligibleChunks ds request) := build_congr hforget
  rw [retrieve_eq, retrieve_eq, ← hindex]
  refine bind_congr_ok fun index hbuilt => ?_
  rw [search_congr hcutoff hasOf hcs hds hforget hcited' hbuilt]

end

/-! ## A later document -/

/-- The sample library with the name of one index and the logarithm that scoring one chunk needs. -/
def lnLibrary : Library :=
  { sampleLibrary with
    uuid5 := fun _ => 5
    ln := fun _ a =>
      if a = ⟨false, 13333333333333333333333333333333333333333333333333, -49⟩ then
        .ok ⟨false, 28768207245178092743921900599382743150350971089774, -50⟩
      else .error .invalidOperation }

def laterTime : Instant := { sampleTime with hour := 9, validHour := by decide }

def sampleQuery : TokenizedQuery where
  originalQuery := ['x']
  normalizedQuery := ['x']
  tokens := [⟨['x'], 0, by decide, by decide⟩]
  original_bounds := by decide
  normalized_bounds := by decide
  tokens_bounds := by decide

def asOfQuery : LexicalSearchRequest where
  indexVersionId := 5
  tokenizedQuery := sampleQuery
  filters := {
    securityId := 1
    snapshotId := none
    researchAsOfTime := some sampleTime
    documentTypes := []
    languages := []
    trustLevels := []
    sectionPaths := []
    strictUnknownPublication := true
    one_scope := asOf_scope }
  maxResults := 10
  results_bounds := by decide

/-- A later filing supersedes the document and repeats its word. -/
def laterFiled : List IndexableChunk :=
  [{ parsedChunk 1 ['x'] oneLetter_bounds with supersededAt := some laterTime },
    { parsedChunk 2 ['x'] (by decide) with documentVersionId := 8, publishedAt := some laterTime }]

/-- `retrieve_pointInTime` on a document and a later filing: there is a hit, and it is the same. -/
theorem retrieve_pointInTime_laterFiled :
    ∃ hit, retrieve lnLibrary parsedOnce some asOfRequest asOfQuery [] 60 = .ok [hit] ∧
      retrieve lnLibrary laterFiled some asOfRequest asOfQuery [] 60 = .ok [hit] := by
  obtain ⟨hit, hhit⟩ :
      ∃ hit, retrieve lnLibrary parsedOnce some asOfRequest asOfQuery [] 60 = .ok [hit] := ⟨_, rfl⟩
  have hsame : retrieve lnLibrary parsedOnce some asOfRequest asOfQuery [] 60 =
      retrieve lnLibrary laterFiled some asOfRequest asOfQuery [] 60 :=
    retrieve_pointInTime [] 60 rfl rfl (by decide) (by decide)
      (by unfold AgreeAt; decide +kernel) fun _ _ _ => rfl
  exact ⟨hit, hhit, hsame.symm.trans hhit⟩

end StockResearch.Retrieval
