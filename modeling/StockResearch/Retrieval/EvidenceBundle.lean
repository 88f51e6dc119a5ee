import StockResearch.Documents.Records
import Mathlib.Data.Prod.Lex

/-!
# Evidence bundles

Two constructors make the evidence bundle of a completed retrieval run.  `build_evidence_bundle`
joins hits with verified citations in memory; `_bundle_for_run` joins the stored rows and verifies
each citation as it reads it.

**The items agree.**  The database refuses a hit whose citation is missing or of another chunk, two
hits of one rank, a rank beyond 20 and an excerpt beyond 1000 characters.  So every hit joins, both
constructors see the hits in the same order, and neither limit cuts anything off (`items_eq`).

**The status does not.**  With no valid citation the one says `BLOCKED` and the other keeps the
status of the run, or makes a `PASS` a `PARTIAL`.  With some valid ones the first keeps a `PASS`
that the second degrades.  `agree_iff` says when they agree.
-/

namespace StockResearch.Retrieval

open Txn PyTime StockResearch.Documents

inductive RetrievalStatus where
  | pass | partly | blocked | fail
deriving DecidableEq, Repr

inductive RetrievalMode where
  | lexical | vector | hybrid
deriving DecidableEq, Repr

structure RetrievalRun where
  id : Uuid
  snapshotId : Option Uuid
  researchAsOfTime : Option Instant
  mode : RetrievalMode
  tokenizerVersion : String
  lexicalIndexVersionId : Option Uuid
  vectorIndexVersionId : Option Uuid
  status : RetrievalStatus
  warnings : List String
  completedAt : Option Instant
deriving DecidableEq

structure RetrievalHit where
  id : Uuid
  retrievalRunId : Uuid
  chunkId : Uuid
  citationId : Uuid
  finalRank : Nat
  rerankReason : String
deriving DecidableEq

instance : Schema RetrievalRun where
  clash a b := a.id = b.id
  check r := r.snapshotId.isNone ≠ r.researchAsOfTime.isNone
  clash_symm _ _ h := h.symm
  decClash _ _ := inferInstance
  decCheck _ := inferInstance

instance : Schema RetrievalHit where
  clash a b := a.id = b.id ∨ a.retrievalRunId = b.retrievalRunId ∧
    (a.finalRank = b.finalRank ∨ a.chunkId = b.chunkId)
  check r := 1 ≤ r.finalRank ∧ r.finalRank ≤ 20
  clash_symm _ _ := Or.imp Eq.symm (And.imp Eq.symm (Or.imp Eq.symm Eq.symm))
  decClash _ _ := inferInstance
  decCheck _ := inferInstance

/-- The tables that an evidence bundle is read from, with the foreign keys between them. -/
structure EvidenceStore where
  runs : Table RetrievalRun
  hits : Table RetrievalHit
  citations : Table CitationAnchor
  chunks : Table DocumentChunk
  versions : Table DocumentVersion
  logicals : Table LogicalDocument
  parseRuns : Table DocumentParseRun
  hit_citation : ∀ hit ∈ hits.rows, ∃ citation ∈ citations.rows,
    citation.id = hit.citationId ∧ citation.chunkId = some hit.chunkId
  hit_chunk : ∀ hit ∈ hits.rows, ∃ chunk ∈ chunks.rows, chunk.id = hit.chunkId
  citation_version : ∀ citation ∈ citations.rows, ∃ version ∈ versions.rows,
    version.id = citation.documentVersionId
  citation_parseRun : ∀ citation ∈ citations.rows, ∃ parseRun ∈ parseRuns.rows,
    parseRun.id = citation.parseRunId
  version_logical : ∀ version ∈ versions.rows, ∃ logical ∈ logicals.rows,
    logical.id = version.logicalDocumentId

structure EvidenceItem where
  citationId : Uuid
  documentVersionId : Uuid
  chunkId : Uuid
  excerpt : PyText.Text
  documentType : DocumentType
  trustLevel : TrustLevel
  publishedAt : Option Instant
  providerId : Uuid
  sourceDocumentId : Uuid
  evidenceOrigin : EvidenceOrigin
  accessMode : AccessMode
  liveStatus : LiveStatus
  locatorType : LocatorType
  startPage : Option Int
  endPage : Option Int
  sectionPath : Option String
  chunkVersion : String
  parserVersion : String
  tokenizerVersion : String
  citationVersion : String
  documentChecksum : String
  matchReason : String
deriving DecidableEq

structure VerifiedCitationEvidence where
  citationId : Uuid
  documentVersionId : Uuid
  chunkId : Uuid
  excerpt : PyText.Text
  status : CitationStatus
  documentType : DocumentType
  trustLevel : TrustLevel
  publishedAt : Option Instant
  providerId : Uuid
  sourceDocumentId : Uuid
  evidenceOrigin : EvidenceOrigin
  accessMode : AccessMode
  liveStatus : LiveStatus
  locatorType : LocatorType
  startPage : Option Int
  endPage : Option Int
  sectionPath : Option String
  chunkVersion : String
  parserVersion : String
  tokenizerVersion : String
  citationVersion : String
  documentChecksum : String
deriving DecidableEq

structure EvidenceBundle where
  status : RetrievalStatus
  retrievalRunId : Uuid
  mode : RetrievalMode
  researchAsOfTime : Option Instant
  snapshotId : Option Uuid
  lexicalIndexVersionId : Option Uuid
  vectorIndexVersionId : Option Uuid
  items : List EvidenceItem
  warnings : List String
deriving DecidableEq

/-- `tuple(dict.fromkeys(values))` -/
def fromkeys (values : List String) : List String :=
  values.foldl (fun seen v => if v ∈ seen then seen else seen ++ [v]) []

/-! ## The bundle built in memory -/

/-- The item of a hit and its citation, with the excerpt cut to the limit. -/
def VerifiedCitationEvidence.item (citation : VerifiedCitationEvidence) (hit : RetrievalHit)
    (excerptLimit : Nat) : EvidenceItem where
  citationId := citation.citationId
  documentVersionId := citation.documentVersionId
  chunkId := citation.chunkId
  excerpt := citation.excerpt.take excerptLimit
  documentType := citation.documentType
  trustLevel := citation.trustLevel
  publishedAt := citation.publishedAt
  providerId := citation.providerId
  sourceDocumentId := citation.sourceDocumentId
  evidenceOrigin := citation.evidenceOrigin
  accessMode := citation.accessMode
  liveStatus := citation.liveStatus
  locatorType := citation.locatorType
  startPage := citation.startPage
  endPage := citation.endPage
  sectionPath := citation.sectionPath
  chunkVersion := citation.chunkVersion
  parserVersion := citation.parserVersion
  tokenizerVersion := citation.tokenizerVersion
  citationVersion := citation.citationVersion
  documentChecksum := citation.documentChecksum
  matchReason := hit.rerankReason

/-- `valid_by_id.get(citation_id)`: of several valid citations with one id the last. -/
def validById (citations : List VerifiedCitationEvidence) (citationId : Uuid) :
    Option VerifiedCitationEvidence :=
  (citations.filter (·.status = .valid)).reverse.find? (·.citationId = citationId)

def buildEvidenceBundle (run : RetrievalRun) (hits : List RetrievalHit)
    (citations : List VerifiedCitationEvidence) (excerptLimit : Nat) :
    Except String EvidenceBundle :=
  if ¬ (1 ≤ excerptLimit ∧ excerptLimit ≤ 1000) then
    .error "excerpt_limit must be between 1 and 1000"
  else
    let items := (hits.insertionSort fun a b => a.finalRank ≤ b.finalRank).filterMap fun hit =>
      match validById citations hit.citationId with
      | none => none
      | some citation =>
          if citation.chunkId ≠ hit.chunkId then none else some (citation.item hit excerptLimit)
    let warnings := run.warnings ++
      if citations.any (·.status ≠ .valid) then ["INVALID_CITATION_EXCLUDED"] else []
    .ok {
      status := if items = [] then .blocked else run.status
      retrievalRunId := run.id
      mode := run.mode
      researchAsOfTime := run.researchAsOfTime
      snapshotId := run.snapshotId
      lexicalIndexVersionId := run.lexicalIndexVersionId
      vectorIndexVersionId := run.vectorIndexVersionId
      items := items
      warnings := fromkeys (warnings ++ if items = [] then ["NO_VALID_CITATIONS"] else []) }

/-! ## The bundle served from the store -/

/-- One row of the join. -/
structure JoinedHit where
  hit : RetrievalHit
  citation : CitationAnchor
  chunk : DocumentChunk
  version : DocumentVersion
  logical : LogicalDocument
  parseRun : DocumentParseRun

def JoinedHit.item (row : JoinedHit) (run : RetrievalRun) : EvidenceItem where
  citationId := row.citation.id
  documentVersionId := row.citation.documentVersionId
  chunkId := row.chunk.id
  excerpt := row.citation.excerpt
  documentType := row.logical.documentType
  trustLevel := row.version.trustLevel
  publishedAt := row.version.publishedAt
  providerId := row.version.providerId
  sourceDocumentId := row.version.sourceDocumentId
  evidenceOrigin := row.version.evidenceOrigin
  accessMode := row.version.accessMode
  liveStatus := row.version.liveStatus
  locatorType := row.citation.locatorType
  startPage := optionalInt row.citation.locator "start_page"
  endPage := optionalInt row.citation.locator "end_page"
  sectionPath := optionalStr row.citation.locator "section_path"
  chunkVersion := row.chunk.chunkVersion
  parserVersion := row.parseRun.parserVersion
  tokenizerVersion := run.tokenizerVersion
  citationVersion := row.citation.citationVersion
  documentChecksum := row.version.checksum
  matchReason := row.hit.rerankReason

/-- The same row as the evidence that `build_evidence_bundle` takes, with the outcome of its
verification. -/
def JoinedHit.evidence (row : JoinedHit) (run : RetrievalRun) (verify : Uuid → CitationStatus) :
    VerifiedCitationEvidence where
  citationId := row.citation.id
  documentVersionId := row.citation.documentVersionId
  chunkId := row.chunk.id
  excerpt := row.citation.excerpt
  status := verify row.citation.id
  documentType := row.logical.documentType
  trustLevel := row.version.trustLevel
  publishedAt := row.version.publishedAt
  providerId := row.version.providerId
  sourceDocumentId := row.version.sourceDocumentId
  evidenceOrigin := row.version.evidenceOrigin
  accessMode := row.version.accessMode
  liveStatus := row.version.liveStatus
  locatorType := row.citation.locatorType
  startPage := optionalInt row.citation.locator "start_page"
  endPage := optionalInt row.citation.locator "end_page"
  sectionPath := optionalStr row.citation.locator "section_path"
  chunkVersion := row.chunk.chunkVersion
  parserVersion := row.parseRun.parserVersion
  tokenizerVersion := run.tokenizerVersion
  citationVersion := row.citation.citationVersion
  documentChecksum := row.version.checksum

namespace EvidenceStore

variable (store : EvidenceStore)

def hitsOf (run : RetrievalRun) : List RetrievalHit :=
  store.hits.select fun hit => hit.retrievalRunId = run.id

/-- The inner joins of a hit. -/
def join (hit : RetrievalHit) : Option JoinedHit := do
  let citation ← store.citations.selectOne fun r => r.id = hit.citationId
  let chunk ← store.chunks.selectOne fun r => r.id = hit.chunkId
  let version ← store.versions.selectOne fun r => r.id = citation.documentVersionId
  let logical ← store.logicals.selectOne fun r => r.id = version.logicalDocumentId
  let parseRun ← store.parseRuns.selectOne fun r => r.id = citation.parseRunId
  return ⟨hit, citation, chunk, version, logical, parseRun⟩

/-- `ORDER BY final_rank, id` -/
def inRankOrder (hits : List RetrievalHit) : List RetrievalHit :=
  hits.insertionSort fun a b => toLex (a.finalRank, a.id.str) ≤ toLex (b.finalRank, b.id.str)

/-- `_bundle_for_run`; `verify` is what `verify_citation` says of a citation in the run's scope. -/
def bundleForRun (verify : Uuid → CitationStatus) (run : RetrievalRun) : EvidenceBundle :=
  let totalHits := store.hits.count fun hit => hit.retrievalRunId = run.id
  let rows := ((inRankOrder (store.hitsOf run)).filterMap store.join).take 20
  let validRows := rows.filter fun row => verify row.citation.id = .valid
  let excluded := validRows.length ≠ totalHits
  { status := if excluded ∧ run.status = .pass then .partly else run.status
    retrievalRunId := run.id
    mode := run.mode
    researchAsOfTime := run.researchAsOfTime
    snapshotId := run.snapshotId
    lexicalIndexVersionId := run.lexicalIndexVersionId
    vectorIndexVersionId := run.vectorIndexVersionId
    items := validRows.map fun row => row.item run
    warnings := run.warnings ++ if excluded then ["INVALID_CITATIONS_EXCLUDED"] else [] }

def getEvidenceBundle (verify : Uuid → CitationStatus) (recordId : Uuid) :
    Option EvidenceBundle := do
  let run ← store.runs.selectOne fun r => r.id = recordId
  if run.completedAt = none then none else some (store.bundleForRun verify run)

/-- The verified citations of a run's hits. -/
def citationsOf (verify : Uuid → CitationStatus) (run : RetrievalRun) :
    List VerifiedCitationEvidence :=
  ((store.hitsOf run).filterMap store.join).map fun row => row.evidence run verify

/-- The served bundle and the built one have the same items in the same order, and the same
status. -/
def Agree (verify : Uuid → CitationStatus) (run : RetrievalRun) : Prop :=
  ∃ served built, store.getEvidenceBundle verify run.id = some served ∧
    buildEvidenceBundle run (store.hitsOf run) (store.citationsOf verify run) 1000 = .ok built ∧
    served.items = built.items ∧ served.status = built.status

/-! ## Every hit joins -/

variable {store} {verify : Uuid → CitationStatus} {run : RetrievalRun} {hit : RetrievalHit}

/-- A foreign key finds its row. -/
lemma exists_selectOne {ρ κ : Type} [Schema ρ] [DecidableEq κ] {t : Table ρ} (key : ρ → κ) {k : κ}
    (h : ∃ r ∈ t.rows, key r = k) : ∃ r, t.selectOne (fun r => decide (key r = k)) = some r := by
  rcases h with ⟨r, hmem, hr⟩
  cases hfound : t.selectOne fun r => decide (key r = k) with
  | some r' => exact ⟨r', rfl⟩
  | none => exact absurd (by simpa using hr) (Table.selectOne_eq_none.mp hfound r hmem)

/-- What a joined row says about its hit. -/
structure Joins (store : EvidenceStore) (hit : RetrievalHit) (row : JoinedHit) : Prop where
  stored : row.citation ∈ store.citations.rows
  citation : row.citation.id = hit.citationId
  chunk : row.chunk.id = hit.chunkId
  of : row.hit = hit

lemma joins_of_join {row : JoinedHit} (h : store.join hit = some row) : store.Joins hit row := by
  simp only [join, bind, Option.bind_eq_some_iff] at h
  rcases h with ⟨citation, hcitation, chunk, hchunk, version, -, logical, -, parseRun, -, hrow⟩
  cases hrow
  rcases Table.mem_of_selectOne hcitation with ⟨hstored, hid⟩
  rcases Table.mem_of_selectOne hchunk with ⟨-, hchunkId⟩
  exact ⟨hstored, by simpa using hid, by simpa using hchunkId, rfl⟩

lemma exists_join (hmem : hit ∈ store.hits.rows) : ∃ row, store.join hit = some row := by
  rcases store.hit_citation hit hmem with ⟨c, hc, hcid, -⟩
  rcases exists_selectOne CitationAnchor.id ⟨c, hc, hcid⟩ with ⟨citation, hcitation⟩
  have hstored := (Table.mem_of_selectOne hcitation).1
  rcases exists_selectOne DocumentChunk.id (store.hit_chunk hit hmem) with ⟨chunk, hchunk⟩
  rcases exists_selectOne DocumentVersion.id (store.citation_version citation hstored) with
    ⟨version, hversion⟩
  rcases exists_selectOne LogicalDocument.id (store.version_logical version
    (Table.mem_of_selectOne hversion).1) with ⟨logical, hlogical⟩
  rcases exists_selectOne DocumentParseRun.id (store.citation_parseRun citation hstored) with
    ⟨parseRun, hparseRun⟩
  exact ⟨⟨hit, citation, chunk, version, logical, parseRun⟩,
    by simp [join, hcitation, hchunk, hversion, hlogical, hparseRun]⟩

/-- Two hits of one run do not share a citation. -/
lemma hit_unique {hit' : RetrievalHit} (hmem : hit ∈ store.hitsOf run)
    (hmem' : hit' ∈ store.hitsOf run) (h : hit'.citationId = hit.citationId) : hit' = hit := by
  rcases Table.mem_select.mp hmem with ⟨hstored, hrun⟩
  rcases Table.mem_select.mp hmem' with ⟨hstored', hrun'⟩
  rcases store.hit_citation hit hstored with ⟨c, hc, hcid, hchunk⟩
  rcases store.hit_citation hit' hstored' with ⟨c', hc', hcid', hchunk'⟩
  have hsame : c' = c :=
    store.citations.eq_of_clash hc' hc (Or.inl (hcid'.trans (h.trans hcid.symm)))
  rw [hsame, hchunk, Option.some.injEq] at hchunk'
  simp only [decide_eq_true_eq] at hrun hrun'
  exact store.hits.eq_of_clash hstored' hstored
    (Or.inr ⟨hrun'.trans hrun.symm, Or.inr hchunk'.symm⟩)

/-- Looking up a hit's citation among the verified ones finds it when it is valid. -/
lemma validById_citationsOf (hmem : hit ∈ store.hitsOf run) {row : JoinedHit}
    (hjoin : store.join hit = some row) :
    validById (store.citationsOf verify run) hit.citationId =
      if verify hit.citationId = .valid then some (row.evidence run verify) else none := by
  have hjoins := joins_of_join hjoin
  cases hfound : validById (store.citationsOf verify run) hit.citationId with
  | some evidence =>
      have hlisted := List.mem_of_find?_eq_some hfound
      have hid := List.find?_some hfound
      simp only [List.mem_reverse, List.mem_filter, citationsOf, List.mem_map,
        List.mem_filterMap, decide_eq_true_eq] at hlisted hid
      rcases hlisted with ⟨⟨row', ⟨hit', hmem', hjoin'⟩, rfl⟩, hvalid⟩
      have hcitation : hit'.citationId = hit.citationId :=
        (joins_of_join hjoin').citation.symm.trans hid
      rw [hit_unique hmem hmem' hcitation, hjoin, Option.some.injEq] at hjoin'
      subst hjoin'
      rw [if_pos (hjoins.citation ▸ hvalid)]
  | none =>
      rw [if_neg]
      intro hvalid
      have hnone := List.find?_eq_none.mp hfound (row.evidence run verify)
      refine hnone ?_ (decide_eq_true hjoins.citation)
      simp only [List.mem_reverse, List.mem_filter, citationsOf, List.mem_map,
        List.mem_filterMap, decide_eq_true_eq]
      refine ⟨⟨row, ⟨hit, hmem, hjoin⟩, rfl⟩, ?_⟩
      simpa [JoinedHit.evidence, hjoins.citation] using hvalid

/-! ## One order, and no limit reached -/

/-- Hits of one run have different ranks. -/
lemma pairwise_finalRank (run : RetrievalRun) :
    ((store.hitsOf run).map (·.finalRank)).Nodup := by
  rw [List.Nodup, List.pairwise_map]
  refine (store.hits.keyed.filter _).imp_of_mem ?_
  intro a b ha hb hclash hrank
  have harun := (List.mem_filter.mp ha).2
  have hbrun := (List.mem_filter.mp hb).2
  simp only [decide_eq_true_eq] at harun hbrun
  exact hclash (Or.inr ⟨harun.trans hbrun.symm, Or.inl hrank⟩)

lemma inRankOrder_eq (run : RetrievalRun) :
    (store.hitsOf run).insertionSort (fun a b => a.finalRank ≤ b.finalRank) =
      inRankOrder (store.hitsOf run) := by
  have hperm : (inRankOrder (store.hitsOf run)).Perm (store.hitsOf run) :=
    List.perm_insertionSort _ _
  refine List.Perm.eq_of_pairwise ?_ (List.pairwise_insertionSort _ _) ?_
    ((List.perm_insertionSort _ _).trans hperm.symm)
  · intro a b ha hb hab hba
    have hnodup : ((store.hitsOf run).map (·.finalRank)).Nodup := pairwise_finalRank run
    exact List.inj_on_of_nodup_map hnodup ((List.mem_insertionSort _).mp ha)
      (hperm.subset hb) (le_antisymm hab hba)
  · refine (List.pairwise_insertionSort (fun a b : RetrievalHit =>
      toLex (a.finalRank, a.id.str) ≤ toLex (b.finalRank, b.id.str)) _).imp ?_
    intro a b hab
    rcases Prod.Lex.le_iff.mp hab with hlt | ⟨heq, -⟩
    · exact hlt.le
    · exact heq.le

/-- A run has at most twenty hits. -/
lemma length_hitsOf_le (run : RetrievalRun) : (store.hitsOf run).length ≤ 20 := by
  have hsub : (store.hitsOf run).map (·.finalRank) ⊆ List.range' 1 20 := by
    intro rank hrank
    rcases List.mem_map.mp hrank with ⟨hit, hmem, rfl⟩
    have hcheck := store.hits.checked hit (Table.mem_select.mp hmem).1
    rw [List.mem_range'_1]
    exact ⟨hcheck.1, by have := hcheck.2; omega⟩
  have hle := (List.subperm_of_subset (pairwise_finalRank run) hsub).length_le
  simpa using hle

/-! ## The items agree -/

/-- The item that a hit gives, if its citation is valid. -/
def itemOf (store : EvidenceStore) (verify : Uuid → CitationStatus) (run : RetrievalRun)
    (hit : RetrievalHit) : Option EvidenceItem :=
  ((store.join hit).filter fun row => verify row.citation.id = .valid).map fun row => row.item run

lemma isSome_itemOf (hmem : hit ∈ store.hitsOf run) :
    (store.itemOf verify run hit).isSome = decide (verify hit.citationId = .valid) := by
  rcases exists_join (Table.mem_select.mp hmem).1 with ⟨row, hjoin⟩
  have hid := (joins_of_join hjoin).citation
  by_cases hvalid : verify hit.citationId = .valid
  · simp [itemOf, hjoin, Option.filter, hid, hvalid]
  · simp [itemOf, hjoin, Option.filter, hid, hvalid]

lemma items_bundleForRun :
    (store.bundleForRun verify run).items =
      (inRankOrder (store.hitsOf run)).filterMap (store.itemOf verify run) := by
  have hlength : ((inRankOrder (store.hitsOf run)).filterMap store.join).length ≤ 20 := by
    refine (List.length_filterMap_le _ _).trans ?_
    rw [inRankOrder, List.length_insertionSort]
    exact length_hitsOf_le run
  simp only [bundleForRun, List.take_of_length_le hlength, List.filter_filterMap,
    List.map_filterMap]
  rfl

/-- **The items agree**, whatever the verification says. -/
lemma items_eq {built : EvidenceBundle} (hbuilt : buildEvidenceBundle run (store.hitsOf run)
    (store.citationsOf verify run) 1000 = .ok built) :
    (store.bundleForRun verify run).items = built.items := by
  simp only [buildEvidenceBundle] at hbuilt
  cases hbuilt
  rw [items_bundleForRun, inRankOrder_eq]
  refine List.filterMap_congr fun hit hmem => ?_
  have hhit : hit ∈ store.hitsOf run := (List.mem_insertionSort _).mp hmem
  have hstored := (Table.mem_select.mp hhit).1
  rcases exists_join hstored with ⟨row, hjoin⟩
  have hjoins := joins_of_join hjoin
  rw [validById_citationsOf hhit hjoin]
  have hexcerpt := (store.citations.checked _ hjoins.stored).1.2
  by_cases hvalid : verify hit.citationId = .valid
  · simp [itemOf, hjoin, Option.filter, hjoins.citation, hvalid, JoinedHit.evidence, hjoins.chunk,
      VerifiedCitationEvidence.item, JoinedHit.item, List.take_of_length_le hexcerpt, hjoins.of]
  · simp [itemOf, hjoin, Option.filter, hjoins.citation, hvalid]

/-! ## The status does not -/

/-- The number of items is the number of valid hits. -/
lemma length_items : (store.bundleForRun verify run).items.length =
    (store.hitsOf run).countP fun hit => verify hit.citationId = .valid := by
  have hperm : (inRankOrder (store.hitsOf run)).Perm (store.hitsOf run) :=
    List.perm_insertionSort _ _
  rw [items_bundleForRun, List.length_filterMap_eq_countP, hperm.countP_eq]
  refine List.countP_congr fun hit hmem => ?_
  rw [isSome_itemOf hmem]

lemma status_bundleForRun : (store.bundleForRun verify run).status =
    if (store.bundleForRun verify run).items.length ≠ (store.hitsOf run).length ∧
      run.status = .pass then .partly else run.status := by
  simp only [bundleForRun, Table.count, hitsOf, List.length_map]
  congr

lemma status_build {built : EvidenceBundle} {hits : List RetrievalHit}
    {citations : List VerifiedCitationEvidence}
    (hbuilt : buildEvidenceBundle run hits citations 1000 = .ok built) :
    built.status = if built.items = [] then .blocked else run.status := by
  simp only [buildEvidenceBundle] at hbuilt
  cases hbuilt
  rfl

lemma getEvidenceBundle_of_completed (hrun : run ∈ store.runs.rows)
    (hcompleted : run.completedAt ≠ none) :
    store.getEvidenceBundle verify run.id = some (store.bundleForRun verify run) := by
  rcases exists_selectOne RetrievalRun.id ⟨run, hrun, rfl⟩ with ⟨stored, hstored⟩
  rcases Table.mem_of_selectOne hstored with ⟨hmem, hid⟩
  have hsame : stored = run := store.runs.eq_of_clash hmem hrun (of_decide_eq_true hid)
  subst hsame
  simp [getEvidenceBundle, hstored, hcompleted]

/-- **When the two bundles agree.**  For every completed run, whatever the verification says of each
citation: with no valid hit the run itself has to be blocked, and with some valid hits and some
invalid ones it must not have passed. -/
theorem agree_iff (store : EvidenceStore) (verify : Uuid → CitationStatus) (run : RetrievalRun)
    (hrun : run ∈ store.runs.rows) (hcompleted : run.completedAt ≠ none) :
    store.Agree verify run ↔
      ((∀ hit ∈ store.hitsOf run, verify hit.citationId ≠ .valid) → run.status = .blocked) ∧
      ((∃ hit ∈ store.hitsOf run, verify hit.citationId = .valid) →
        (∃ hit ∈ store.hitsOf run, verify hit.citationId ≠ .valid) → run.status ≠ .pass) := by
  have hserved : store.getEvidenceBundle verify run.id = some (store.bundleForRun verify run) :=
    getEvidenceBundle_of_completed hrun hcompleted
  rcases hbuilt : buildEvidenceBundle run (store.hitsOf run) (store.citationsOf verify run) 1000
    with _ | built
  · simp [buildEvidenceBundle] at hbuilt
  · have hagree : store.Agree verify run ↔
        (store.bundleForRun verify run).status = built.status := by
      simp [Agree, hserved, hbuilt, items_eq hbuilt]
    have hnone : (store.bundleForRun verify run).items = [] ↔
        ∀ hit ∈ store.hitsOf run, verify hit.citationId ≠ .valid := by
      rw [← List.length_eq_zero_iff, length_items, List.countP_eq_zero]
      simp
    have hall : (store.bundleForRun verify run).items.length = (store.hitsOf run).length ↔
        ∀ hit ∈ store.hitsOf run, verify hit.citationId = .valid := by
      rw [length_items, List.countP_eq_length]
      simp
    rw [hagree, status_bundleForRun, status_build hbuilt, ← items_eq hbuilt]
    by_cases hempty : ∀ hit ∈ store.hitsOf run, verify hit.citationId ≠ .valid
    · -- nothing is valid: the built bundle is blocked
      have hvalid : ¬ ∃ hit ∈ store.hitsOf run, verify hit.citationId = .valid := by simpa using hempty
      rw [if_pos (hnone.mpr hempty)]
      simp only [hvalid, false_implies, and_true]
      constructor
      · intro hstatus _
        split_ifs at hstatus
        exact hstatus
      · intro hblocked
        rw [if_neg (by simp [hblocked hempty]), hblocked hempty]
    · have hvalid : ∃ hit ∈ store.hitsOf run, verify hit.citationId = .valid := by
        simpa using hempty
      rw [if_neg (mt hnone.mp hempty)]
      constructor
      · intro hstatus
        refine ⟨fun h => absurd h hempty, ?_⟩
        rintro - ⟨hit, hmem, hinvalid⟩ hpass
        rw [if_pos ⟨fun h => hinvalid (hall.mp h hit hmem), hpass⟩, hpass] at hstatus
        cases hstatus
      · rintro ⟨-, hmixed⟩
        rw [if_neg]
        rintro ⟨hexcluded, hpass⟩
        refine hmixed hvalid ?_ hpass
        by_contra hnone'
        push Not at hnone'
        exact hexcluded (hall.mpr hnone')

end EvidenceStore

/-! ## A run with one hit -/

/-- A passed run with a hit on a cited chunk. -/
def sampleRun : RetrievalRun where
  id := 1
  snapshotId := some 2
  researchAsOfTime := none
  mode := .lexical
  tokenizerVersion := "tokenizer-v1"
  lexicalIndexVersionId := some 3
  vectorIndexVersionId := none
  status := .pass
  warnings := []
  completedAt := some ⟨⟨2026, 7, 10, validYear_2026, validMonth_7, by decide⟩, 12, 0, 0, 0,
    validHour_12, validMinute_0, validMinute_0, validMicrosecond_0⟩

def sampleHit : RetrievalHit := ⟨4, 1, 5, 6, 1, "FUSION_SCORE"⟩

def sampleCitation : CitationAnchor where
  id := 6
  documentVersionId := 7
  parseRunId := 8
  pageId := none
  sectionId := none
  chunkId := some 5
  locatorType := .textOffsetRange
  locator := [("start_offset", .int 0), ("end_offset", .int 2)]
  excerpt := ['o', 'k']
  excerptChecksum := "a"
  canonicalTextChecksum := "b"
  documentChecksum := "c"
  locatorChecksum := "d"
  citationVersion := "citation-v1"
  parserVersion := "text-parser-v1"
  sanitizerVersion := "sanitizer-v1"

def sampleVersion : DocumentVersion where
  id := 7
  logicalDocumentId := 9
  sourceDocumentId := 10
  providerId := 11
  versionNumber := 1
  supersedesDocumentVersionId := none
  storageUri := "blob://memory/0"
  mimeType := "text/plain"
  checksum := "c"
  byteSize := 2
  publishedAt := none
  trustLevel := .testFixture
  evidenceOrigin := .syntheticTestOnly
  accessMode := .offline
  liveStatus := .notLive
  sourceVersionStatus := .active

def sampleStore : EvidenceStore where
  runs := Table.single sampleRun (by decide)
  hits := Table.single sampleHit (by decide)
  citations := Table.single sampleCitation (by decide)
  chunks := Table.single ⟨5, 8, 7, "chunk-v1", 0, ['o', 'k'], "e"⟩ trivial
  versions := Table.single sampleVersion trivial
  logicals := Table.single ⟨9, .other⟩ trivial
  parseRuns := Table.single ⟨8, 7, "text-parser-v1", "sanitizer-v1", .pass, some ['o', 'k'], some "b", [],
    none⟩ trivial
  hit_citation := by simp [Table.single, sampleHit, sampleCitation]
  hit_chunk := by simp [Table.single, sampleHit]
  citation_version := by simp [Table.single, sampleCitation, sampleVersion]
  citation_parseRun := by simp [Table.single, sampleCitation]
  version_logical := by simp [Table.single, sampleVersion]

/-- With a valid citation the bundles agree. -/
theorem agree_valid_citation : sampleStore.Agree (fun _ => .valid) sampleRun := by
  refine (EvidenceStore.agree_iff sampleStore (fun _ => .valid) sampleRun ?_ ?_).mpr ?_
  · simp [sampleStore, Table.single]
  · simp [sampleRun]
  · simp [sampleStore, EvidenceStore.hitsOf, Table.single, Table.select, sampleHit, sampleRun]

/-- With none the served bundle is `PARTIAL` and the built one `BLOCKED`. -/
theorem not_agree_invalid_citation : ¬ sampleStore.Agree (fun _ => .invalid) sampleRun := by
  rintro ⟨served, built, hserved, hbuilt, -, hstatus⟩
  cases hserved
  cases hbuilt
  revert hstatus
  decide

end StockResearch.Retrieval
