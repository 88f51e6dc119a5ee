import StockResearch.Core.Canonical
import StockResearch.Core.Decimal
import StockResearch.Core.Dict
import StockResearch.Documents.Records
import StockResearch.Retrieval.Tokenizer
import Mathlib.Data.Prod.Lex

/-!
# Lexical indexes

`LexicalIndexService` selects the chunks of one security that a snapshot or a point in time admits,
counts their tokens into postings, and names the result by a fingerprint of the request and of the
set of document versions the chunks belong to.  `LexicalSearchService` scores the chunks of such an
index against a query with BM25 in decimal arithmetic.
-/

namespace StockResearch.Retrieval

open PyText PyTime PyDecimal PyJson Checked StockResearch.Documents

/-- What the index code takes from the platform: foldings of texts, digests, name-based UUIDs and
the natural logarithm of decimals. -/
structure Library where
  folding : Folding
  hash : IdealHash
  /-- `uuid5(NAMESPACE_URL, name)` -/
  uuid5 : String → Uuid
  /-- `value.ln()` -/
  ln : Context → Decimal → Except Signal Decimal

/-! ## The schemas -/

structure IndexableChunk where
  chunkId : Uuid
  documentVersionId : Uuid
  documentChecksum : String
  securityId : Uuid
  publishedAt : Option Instant
  snapshotIds : List Uuid
  chunkIndex : Nat
  locatorChecksum : String
  text : Text
  sectionTitle : Option Text
  documentType : DocumentType
  language : DocumentLanguage
  trustLevel : TrustLevel
  supersededAt : Option Instant
  supersessionTimeUnknown : Bool
  text_bounds : 1 ≤ text.length ∧ text.length ≤ 1600
  title_bound : ∀ title ∈ sectionTitle, title.length ≤ 1000
deriving DecidableEq

/-- A request to build an index, for a snapshot or for a point in time. -/
structure LexicalBuildRequest where
  indexName : String
  securityId : Uuid
  snapshotId : Option Uuid
  indexAsOfTime : Option Instant
  one_scope : snapshotId.isNone ≠ indexAsOfTime.isNone
deriving DecidableEq

inductive IndexStatus where
  | building | complete | partly | blocked | failed
deriving DecidableEq, Repr

inductive FieldKind where
  | body | sectionTitle
deriving DecidableEq, Repr

def FieldKind.value : FieldKind → String
  | .body => "BODY"
  | .sectionTitle => "SECTION_TITLE"

structure LexicalPostingDraft where
  token : Text
  chunkId : Uuid
  termFrequency : Nat
  fieldKind : FieldKind
  positions : List Nat
deriving DecidableEq

structure LexicalIndexResult where
  status : IndexStatus
  indexVersionId : Option Uuid
  documentSetChecksum : Option String
  documentCount : Nat
  chunkCount : Nat
  averageChunkLength : Option Decimal
  postings : List LexicalPostingDraft
  reused : Bool
deriving DecidableEq

structure RetrievalFilters where
  securityId : Uuid
  snapshotId : Option Uuid
  researchAsOfTime : Option Instant
  documentTypes : List DocumentType
  languages : List DocumentLanguage
  trustLevels : List TrustLevel
  sectionPaths : List String
  strictUnknownPublication : Bool
  one_scope : snapshotId.isNone ≠ researchAsOfTime.isNone

structure LexicalSearchRequest where
  indexVersionId : Uuid
  tokenizedQuery : TokenizedQuery
  filters : RetrievalFilters
  maxResults : Nat
  results_bounds : 1 ≤ maxResults ∧ maxResults ≤ 20

structure LexicalHit where
  chunkId : Uuid
  documentVersionId : Uuid
  citationId : Uuid
  chunkIndex : Nat
  locatorChecksum : String
  text : Text
  sectionTitle : Option Text
  score : Decimal
  rank : Nat
  phraseMatch : Bool
  headingTokenMatches : Nat
deriving DecidableEq

/-- A signal of decimal arithmetic, as an exception of the retrieval code. -/
def raising {α : Type} (x : Except Signal α) : Except Raised α :=
  match x with
  | .ok a => .ok a
  | .error _ => .error .signal

/-- The exponent of the quantum `0.000000000001`. -/
def quantum : Int := -12

/-! ## Building an index -/

def eligible (chunk : IndexableChunk) (request : LexicalBuildRequest) : Bool :=
  if chunk.securityId ≠ request.securityId then false
  else match request.snapshotId with
    | some snapshotId => snapshotId ∈ chunk.snapshotIds
    | none =>
        match request.indexAsOfTime, chunk.publishedAt with
        | some cutoff, some publishedAt =>
            if cutoff < publishedAt ∨ chunk.supersessionTimeUnknown then false
            else match chunk.supersededAt with
              | none => true
              | some supersededAt => cutoff < supersededAt
        | _, _ => false

def IndexableChunk.key (chunk : IndexableChunk) : String ×ₗ Nat ×ₗ String :=
  toLex (chunk.documentVersionId.str, toLex (chunk.chunkIndex, chunk.chunkId.str))

/-- The chunks that a request admits, in the order of the index. -/
def eligibleChunks (chunks : List IndexableChunk) (request : LexicalBuildRequest) :
    List IndexableChunk :=
  (chunks.filter (eligible · request)).insertionSort fun a b => a.key ≤ b.key

/-- `tuple(sorted({(str(chunk.document_version_id), chunk.document_checksum) ...}))` -/
def documentSet (chunks : List IndexableChunk) : List (String ×ₗ String) :=
  (chunks.map fun chunk => toLex (chunk.documentVersionId.str, chunk.documentChecksum)).dedup
    |>.insertionSort (· ≤ ·)

def documentSetChecksum (library : Library) (documents : List (String ×ₗ String)) : String :=
  library.hash.digest (asciiText (.arr (documents.map fun document =>
    .arr [.str (ofLex document).1, .str (ofLex document).2])))

/-- `request.model_dump(mode="json")` -/
def LexicalBuildRequest.modelDump (request : LexicalBuildRequest) : Value :=
  .obj [
    ("index_name", .str request.indexName),
    ("security_id", .str request.securityId.str),
    ("snapshot_id", (request.snapshotId.map fun id => Value.str id.str).getD .null),
    ("index_as_of_time", (request.indexAsOfTime.map fun t => Value.str t.isoformat).getD .null),
    ("tokenizer_version", .str "tokenizer-v1"),
    ("chunk_version", .str "chunk-v1"),
    ("scoring_version", .str "lexical-rank-v1")]

def fingerprint (library : Library) (request : LexicalBuildRequest)
    (documents : List (String ×ₗ String)) : String :=
  library.hash.digest (asciiText (.obj [
    ("request", request.modelDump),
    ("document_set_checksum", .str (documentSetChecksum library documents))]))

/-- The postings of one chunk, in the order of the tokens. -/
def chunkPostings (chunkId : Uuid) (tokens : List LexicalToken) : List LexicalPostingDraft :=
  ((tokens.map (·.value)).dedup.insertionSort (· ≤ ·)).map fun token => {
    token := token
    chunkId := chunkId
    termFrequency := (tokens.map (·.value)).count token
    fieldKind := .body
    positions := (tokens.filter (·.value = token)).map (·.position) }

/-- `(Decimal(sum(lengths)) / Decimal(len(lengths))).quantize(_QUANTUM)`, or zero. -/
def averageLength (lengths : List Nat) : Except Signal Decimal :=
  if lengths = [] then .ok 0
  else do
    let average ← Decimal.div defaultContext (.ofNat lengths.sum) (.ofNat lengths.length)
    average.quantize defaultContext quantum

/-- The index over the chunks that a request admits. -/
def indexOf (library : Library) (request : LexicalBuildRequest) (chunks : List IndexableChunk) :
    Except Raised LexicalIndexResult := do
  let documents := documentSet chunks
  let tokenized ← chunks.mapM fun chunk => do
    return (chunk.chunkId, ← tokenize library.folding chunk.text false)
  let average ← raising (averageLength (tokenized.map fun chunk => chunk.2.length))
  return {
    status := .complete
    indexVersionId := some (library.uuid5 (fingerprint library request documents))
    documentSetChecksum := some (documentSetChecksum library documents)
    documentCount := documents.length
    chunkCount := chunks.length
    averageChunkLength := some average
    postings := tokenized.flatMap fun chunk => chunkPostings chunk.1 chunk.2
    reused := false }

/-- A service: the chunks it was made with, and the indexes it has built by their fingerprints. -/
structure LexicalIndexService where
  chunks : List IndexableChunk
  cache : List (String × LexicalIndexResult)

def LexicalIndexService.new (chunks : List IndexableChunk) : LexicalIndexService := ⟨chunks, []⟩

/-- `LexicalIndexService.build`; a build that raises leaves the service as it is. -/
def LexicalIndexService.build (library : Library) (service : LexicalIndexService)
    (request : LexicalBuildRequest) : Except Raised (LexicalIndexResult × LexicalIndexService) :=
  let chunks := eligibleChunks service.chunks request
  let print := fingerprint library request (documentSet chunks)
  match service.cache.lookup print with
  | some cached => .ok ({ cached with reused := true }, service)
  | none => do
      let result ← indexOf library request chunks
      return (result, { service with cache := (print, result) :: service.cache })

/-! ## Searching an index -/

structure Bm25Stats where
  termFrequency : Nat
  documentFrequency : Nat
  documentCount : Nat
  documentLength : Nat
  averageDocumentLength : Decimal

/-- `Bm25Stats(...)` -/
def Bm25Stats.validate (stats : Bm25Stats) : Except Raised Unit :=
  if 1 ≤ stats.documentCount ∧ stats.documentFrequency ≤ stats.documentCount ∧
      ¬ stats.averageDocumentLength ≤ 0 then .ok ()
  else .error (.validation "Bm25Stats")

/-- `Decimal("1.2")` -/
def k1 : Decimal := ⟨false, 12, -1⟩

/-- `Decimal("0.75")` -/
def b : Decimal := ⟨false, 75, -2⟩

/-- `Decimal("0.5")` -/
def half : Decimal := ⟨false, 5, -1⟩

def bm25Score (library : Library) (stats : Bm25Stats) : Except Signal Decimal :=
  if stats.termFrequency = 0 then Decimal.quantize defaultContext 0 quantum
  else do
    let context := { defaultContext with prec := 50 }
    let tf := Decimal.ofNat stats.termFrequency
    let df := Decimal.ofNat stats.documentFrequency
    let count := Decimal.ofNat stats.documentCount
    let length := Decimal.ofNat stats.documentLength
    let missing ← (← count.sub context df).add context half
    let odds ← missing.div context (← df.add context half)
    let inverseDocumentFrequency ← library.ln context (← Decimal.add context 1 odds)
    let relative ← (← b.mul context length).div context stats.averageDocumentLength
    let normalized ← (← Decimal.sub context 1 b).add context relative
    let denominator ← tf.add context (← k1.mul context normalized)
    let gain ← inverseDocumentFrequency.mul context (← tf.mul context (← k1.add context 1))
    (← gain.div context denominator).quantize context quantum

def matchesFilters (chunk : IndexableChunk) (filters : RetrievalFilters) : Bool :=
  (chunk.securityId = filters.securityId) &&
  filters.snapshotId.all (· ∈ chunk.snapshotIds) &&
  filters.researchAsOfTime.all (fun asOf =>
    !(chunk.publishedAt.isNone && filters.strictUnknownPublication) &&
    chunk.publishedAt.all (fun publishedAt => ¬ asOf < publishedAt) &&
    !chunk.supersessionTimeUnknown &&
    chunk.supersededAt.all (fun supersededAt => asOf < supersededAt)) &&
  (filters.documentTypes = [] || chunk.documentType ∈ filters.documentTypes) &&
  (filters.languages = [] || chunk.language ∈ filters.languages) &&
  (filters.trustLevels = [] || chunk.trustLevel ∈ filters.trustLevels)

def containsSequence (values query : List Text) : Bool :=
  if query = [] ∨ values.length < query.length then false
  else (List.range values.length).any fun index => (values.drop index).take query.length = query

/-- The postings of a chunk for the tokens of a query, as `postings_by_chunk` has them. -/
def postingsFor (index : LexicalIndexResult) (query : List Text) (chunkId : Uuid) :
    List LexicalPostingDraft :=
  index.postings.filter fun posting => posting.token ∈ query ∧ posting.chunkId = chunkId

/-- A chunk with its score and its features for reranking. -/
structure Draft where
  chunk : IndexableChunk
  citationId : Uuid
  score : Decimal
  phraseMatch : Bool
  headingTokenMatches : Nat

/-- The order of a key `(-score, locator_checksum, chunk_index)`; scores have few enough digits for
their negatives to be exact. -/
def rankedBefore (s : Decimal) (locator : String) (index : Nat) (s' : Decimal) (locator' : String)
    (index' : Nat) : Bool :=
  if ¬ s ≤ s' then true
  else if ¬ s' ≤ s then false
  else toLex (locator, index) ≤ toLex (locator', index')

/-- `sum(scores, Decimal("0"))` -/
def sumScores (scores : List Decimal) : Except Signal Decimal :=
  scores.foldlM (fun total score => Decimal.add defaultContext total score) 0

/-- The score and the features of one chunk, given the identifiers and the average length of all
that a query and its filters leave. -/
def featuresOf (library : Library) (index : LexicalIndexResult) (query : List Text)
    (chunkIds : List Uuid) (average : Decimal) (chunkId : Uuid) (text : Text)
    (sectionTitle : Option Text) : Except Raised (Decimal × Bool × Nat) := do
  let bodyTokens ← tokenize library.folding text false
  let scores ← (postingsFor index query chunkId).mapM fun posting => do
    let stats : Bm25Stats := {
      termFrequency := posting.termFrequency
      documentFrequency := chunkIds.countP fun other =>
        (postingsFor index query other).any (·.token = posting.token)
      documentCount := chunkIds.length
      documentLength := bodyTokens.length
      averageDocumentLength := average }
    stats.validate
    raising (bm25Score library stats)
  let total ← raising (sumScores scores)
  let score ← raising (total.quantize defaultContext quantum)
  let headingTokens ← match sectionTitle with
    | none => pure []
    | some title => if title = [] then pure [] else tokenize library.folding title false
  return (score, containsSequence (bodyTokens.map (·.value)) query,
    query.countP (· ∈ headingTokens.map (·.value)))

/-- The draft of one of the candidates. -/
def draftOf (library : Library) (index : LexicalIndexResult) (query : List Text)
    (candidates : List (IndexableChunk × Uuid)) (average : Decimal)
    (candidate : IndexableChunk × Uuid) : Except Raised Draft :=
  let chunk := candidate.1
  (featuresOf library index query (candidates.map (·.1.chunkId)) average chunk.chunkId chunk.text
    chunk.sectionTitle).map fun (score, phraseMatch, headingTokenMatches) =>
      { chunk, citationId := candidate.2, score, phraseMatch, headingTokenMatches }

/-- The hits of the first drafts, numbered from one. -/
def hitsOf (drafts : List Draft) (maxResults : Nat) : List LexicalHit :=
  ((drafts.insertionSort fun a b => rankedBefore a.score a.chunk.locatorChecksum a.chunk.chunkIndex
      b.score b.chunk.locatorChecksum b.chunk.chunkIndex).take maxResults).zipIdx.map
    fun (draft, index) => {
      chunkId := draft.chunk.chunkId
      documentVersionId := draft.chunk.documentVersionId
      citationId := draft.citationId
      chunkIndex := draft.chunk.chunkIndex
      locatorChecksum := draft.chunk.locatorChecksum
      text := draft.chunk.text
      sectionTitle := draft.chunk.sectionTitle
      score := draft.score
      rank := index + 1
      phraseMatch := draft.phraseMatch
      headingTokenMatches := draft.headingTokenMatches }

/-- The chunks that an index, the citations and the filters leave for a query. -/
def searchable (chunks : List IndexableChunk) (index : LexicalIndexResult)
    (citationIds : Uuid → Option Uuid) (request : LexicalSearchRequest) :
    List (IndexableChunk × Uuid) :=
  let query := request.tokenizedQuery.tokens.map (·.value)
  (Dict.valuesBy (·.chunkId) chunks).filterMap fun chunk =>
    if postingsFor index query chunk.chunkId = [] ∨ ¬ matchesFilters chunk request.filters then none
    else (citationIds chunk.chunkId).map fun citationId => (chunk, citationId)

/-- The hits among the chunks that are left. -/
def searchAmong (library : Library) (index : LexicalIndexResult) (request : LexicalSearchRequest)
    (candidates : List (IndexableChunk × Uuid)) : Except Raised (List LexicalHit) :=
  let query := request.tokenizedQuery.tokens.map (·.value)
  if candidates = [] then .ok []
  else do
    let lengths ← candidates.mapM fun candidate => do
      return (← tokenize library.folding candidate.1.text false).length
    let average ← raising (Decimal.div defaultContext (.ofNat lengths.sum) (.ofNat lengths.length))
    let drafts ← candidates.mapM (draftOf library index query candidates average)
    return hitsOf drafts request.maxResults

/-- `LexicalSearchService(chunks, index, citation_ids=citation_ids).search(request)` -/
def search (library : Library) (chunks : List IndexableChunk) (index : LexicalIndexResult)
    (citationIds : Uuid → Option Uuid) (request : LexicalSearchRequest) :
    Except Raised (List LexicalHit) :=
  if some request.indexVersionId ≠ index.indexVersionId then .ok []
  else searchAmong library index request (searchable chunks index citationIds request)

end StockResearch.Retrieval
