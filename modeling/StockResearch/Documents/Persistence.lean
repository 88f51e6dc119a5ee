import StockResearch.Documents.Citations
import Mathlib.Data.Prod.Lex

/-!
# The document repository

The part of `db/repositories/knowledge.py` that keeps a parsed document, its chunks and their
citations.

* `replaceRunningArtifacts` and `finishParseRun` store a document under a parse run, and
  `getParsedDocument` reads it back.
* `addChunksAndCitations` stores chunks with a citation for each, once per run.
* `getCitationContext` reads what the verifier looks at.

The database orders texts by a `Collation`.  The identifiers of new rows are arguments.
-/

namespace StockResearch.Documents

open PyText PyTime Txn

structure DocumentStore where
  versions : Table DocumentVersion
  parseRuns : Table DocumentParseRun
  pages : Table DocumentPage
  sections : Table DocumentSection
  chunks : Table DocumentChunk
  citations : Table CitationAnchor
  snapshotVersions : Table SnapshotDocumentVersion

/-- The order in which the database returns texts. -/
structure Collation where
  le : String → String → Prop
  decLe : DecidableRel le
  total : ∀ a b, le a b ∨ le b a
  trans : ∀ a b c, le a b → le b c → le a c
  antisymm : ∀ a b, le a b → le b a → a = b

/-- The order of code points, as in Python. -/
def Collation.codePoints : Collation where
  le a b := a ≤ b
  decLe _ _ := inferInstance
  total := le_total
  trans _ _ _ := le_trans
  antisymm _ _ := le_antisymm

instance (collation : Collation) : DecidableRel collation.le := collation.decLe

/-- `ORDER BY level, section_path` -/
def Collation.sectionLE (collation : Collation) (a b : Nat × String) : Prop :=
  a.1 < b.1 ∨ a.1 = b.1 ∧ collation.le a.2 b.2

instance (collation : Collation) : DecidableRel collation.sectionLE :=
  fun _ _ => inferInstanceAs (Decidable (_ ∨ _ ∧ _))

/-! ## Storing a document -/

def pageRow (parseRunId id : Uuid) (page : ParsedPage) : DocumentPage where
  id := id
  parseRunId := parseRunId
  pageNumber := page.1.pageNumber
  text := page.1.text
  textChecksum := page.1.textChecksum
  characterCount := page.1.characterCount
  status := page.1.status
  warnings := page.1.warnings

def sectionRow (parseRunId id : Uuid) (parentSectionId : Option Uuid) (s : ParsedSection) :
    DocumentSection where
  id := id
  parseRunId := parseRunId
  parentSectionId := parentSectionId
  sectionPath := s.1.sectionPath
  level := s.1.level
  title := s.1.title
  locatorType := s.1.locatorType
  startPage := s.1.startPage
  endPage := s.1.endPage
  startOffset := s.1.startOffset
  endOffset := s.1.endOffset
  textChecksum := s.1.textChecksum
  contentKind := s.1.contentKind

/-- `section_ids[section.parent_section_path]`, where there is a parent. -/
def parentId (sectionIds : List (String × Uuid)) (s : ParsedSection) :
    Except String (Option Uuid) :=
  match s.1.parentSectionPath with
  | none => .ok none
  | some path => (Checked.require (sectionIds.lookup path) "KeyError").map some

/-- The loop over the sections, with the identifiers of those already stored. -/
def addSections (parseRunId : Uuid) :
    List (ParsedSection × Uuid) → List (String × Uuid) → Transaction String DocumentStore Unit
  | [], _ => pure ()
  | (s, id) :: rest, sectionIds => do
      let parent ← lift (parentId sectionIds s)
      write (fun store => (store.sections.insert (sectionRow parseRunId id parent s)).map
        fun sections => { store with sections }) "IntegrityError"
      addSections parseRunId rest ((s.1.sectionPath, id) :: sectionIds)

/-- `sorted(value.sections, key=lambda item: (item.level, item.section_path))` -/
def sortedSections (value : ParsedDocument) : List ParsedSection :=
  value.sections.insertionSort fun a b =>
    Collation.codePoints.sectionLE (a.1.level, a.1.sectionPath) (b.1.level, b.1.sectionPath)

def replaceRunningArtifacts (parseRunId : Uuid) (value : ParsedDocument) (newIds : Nat → Uuid) :
    Transaction String DocumentStore Unit := do
  let run ← query (·.parseRuns.selectOne (·.id = parseRunId))
  raiseIf (∀ row ∈ run, row.completedAt ≠ none ∨ row.status ≠ .running) "parse run is not mutable"
  let stored ← query (·.pages.count (·.parseRunId = parseRunId))
  raiseIf (stored ≠ 0) "parse artifacts already exist"
  write (fun store => (store.parseRuns.update (·.id = parseRunId)
      fun row => { row with canonicalText := some value.canonicalText }).map
    fun parseRuns => { store with parseRuns }) "IntegrityError"
  write (fun store => (store.pages.insertAll (value.pages.zipIdx.map fun page =>
      pageRow parseRunId (newIds page.2) page.1)).map fun pages => { store with pages })
    "IntegrityError"
  addSections parseRunId ((sortedSections value).zipIdx.map fun s =>
    (s.1, newIds (value.pages.length + s.2))) []

/-- `finish_parse_run` with the completion of a document. -/
def finishParseRun (parseRunId : Uuid) (value : ParsedDocument) (now : Instant) :
    Transaction String DocumentStore Unit := do
  raiseIf (value.status = .running) "parse completion must be terminal"
  let run ← query (·.parseRuns.selectOne (·.id = parseRunId))
  raiseIf (∀ row ∈ run, row.completedAt ≠ none) "parse run is not mutable"
  write (fun store => (store.parseRuns.update (·.id = parseRunId) fun row =>
      { row with
        status := value.status
        canonicalTextChecksum := some value.canonicalTextChecksum
        warnings := value.warnings
        completedAt := some now }).map fun parseRuns => { store with parseRuns }) "IntegrityError"

/-! ## Reading it back -/

def pageOfRow (row : DocumentPage) : PageFields where
  pageNumber := row.pageNumber
  text := row.text
  textChecksum := row.textChecksum
  characterCount := row.characterCount
  status := row.status
  warnings := row.warnings

def sectionOfRow (parentSectionPath : Option String) (row : DocumentSection) : SectionFields where
  sectionPath := row.sectionPath
  parentSectionPath := parentSectionPath
  level := row.level
  title := row.title
  locatorType := row.locatorType
  startPage := row.startPage
  endPage := row.endPage
  startOffset := row.startOffset
  endOffset := row.endOffset
  textChecksum := row.textChecksum
  contentKind := row.contentKind

namespace DocumentStore

def pagesOf (store : DocumentStore) (parseRunId : Uuid) : List DocumentPage :=
  store.pages.select (·.parseRunId = parseRunId)

def sectionsOf (store : DocumentStore) (parseRunId : Uuid) : List DocumentSection :=
  store.sections.select (·.parseRunId = parseRunId)

/-- `paths[section.parent_section_id]`, where there is a parent. -/
def parentPath (rows : List DocumentSection) (row : DocumentSection) :
    Except String (Option String) :=
  match row.parentSectionId with
  | none => .ok none
  | some id =>
      (Checked.require ((rows.find? (·.id = id)).map (·.sectionPath)) "KeyError").map some

/-- `ParsedSection(…)` of a row among the sections of its run. -/
def sectionFromRow (rows : List DocumentSection) (row : DocumentSection) :
    Except String ParsedSection := do
  let parent ← parentPath rows row
  Checked.validated SectionFields.validate (sectionOfRow parent row)

/-- `SELECT … ORDER BY page_number` -/
def orderedPages (store : DocumentStore) (parseRunId : Uuid) : List DocumentPage :=
  (store.pagesOf parseRunId).insertionSort fun a b => a.pageNumber ≤ b.pageNumber

/-- `SELECT … ORDER BY level, section_path` -/
def orderedSections (collation : Collation) (store : DocumentStore) (parseRunId : Uuid) :
    List DocumentSection :=
  (store.sectionsOf parseRunId).insertionSort fun a b =>
    collation.sectionLE (a.level, a.sectionPath) (b.level, b.sectionPath)

def getParsedDocument (collation : Collation) (store : DocumentStore) (parseRunId : Uuid) :
    Except String (Option ParsedDocument) :=
  match store.parseRuns.selectOne (·.id = parseRunId) with
  | none => .ok none
  | some run =>
      match run.completedAt, run.canonicalText, run.canonicalTextChecksum with
      | some _, some text, some checksum => do
          let pages ← (store.orderedPages parseRunId).mapM fun row =>
            Checked.validated PageFields.validate (pageOfRow row)
          let sections ← (store.orderedSections collation parseRunId).mapM
            (sectionFromRow (store.orderedSections collation parseRunId))
          if htext : text.length ≤ 5000000 then
            return some {
              canonicalText := text
              canonicalTextChecksum := checksum
              pages := pages
              sections := sections
              status := run.status
              warnings := run.warnings
              safetyMarkers := []
              parserMetadata := [("persistence", "postgresql")]
              text_ok := htext }
          else .error "canonical_text"
      | _, _, _ => .ok none

end DocumentStore

/-! ## Chunks and citations -/

def chunkRow (run : DocumentParseRun) (version : DocumentVersion) (id : Uuid)
    (draft : DocumentChunkDraft) : DocumentChunk where
  id := id
  parseRunId := run.id
  documentVersionId := version.id
  chunkVersion := draft.1.chunkVersion
  chunkIndex := draft.1.chunkIndex
  text := draft.1.text
  checksum := draft.1.checksum

def anchorRow (id : Uuid) (sectionPath : Option String) (citation : CitationAnchorDraft) :
    CitationAnchor where
  id := id
  documentVersionId := citation.1.documentVersionId
  parseRunId := citation.1.parseRunId
  pageId := citation.1.pageId
  sectionId := citation.1.sectionId
  chunkId := citation.1.chunkId
  locatorType := citation.1.locator.locatorType
  locator := [
    ("start_page", jsonInt citation.1.locator.startPage),
    ("end_page", jsonInt citation.1.locator.endPage),
    ("section_path", jsonStr sectionPath),
    ("html_anchor", jsonStr citation.1.locator.htmlAnchor),
    ("json_pointer", jsonStr citation.1.locator.jsonPointer),
    ("start_offset", jsonInt citation.1.locator.startOffset),
    ("end_offset", jsonInt citation.1.locator.endOffset)]
  excerpt := citation.1.excerpt
  excerptChecksum := citation.1.excerptChecksum
  canonicalTextChecksum := citation.1.canonicalTextChecksum
  documentChecksum := citation.1.documentChecksum
  locatorChecksum := citation.1.locatorChecksum
  citationVersion := citation.1.citationVersion
  parserVersion := citation.1.parserVersion
  sanitizerVersion := citation.1.sanitizerVersion

/-- `page_ids.get(draft.start_page)` for a draft on one page. -/
def draftPageId (pages : List DocumentPage) (draft : DocumentChunkDraft) : Option Uuid :=
  if draft.1.locator.startPage = draft.1.locator.endPage then
    draft.1.locator.startPage.bind fun number =>
      (pages.find? fun row => (row.pageNumber : Int) = number).map (·.id)
  else none

/-- `section_ids.get(draft.section_path)` -/
def draftSectionId (sections : List DocumentSection) (draft : DocumentChunkDraft) : Option Uuid :=
  draft.1.sectionPath.bind fun path => (sections.find? (·.sectionPath = path)).map (·.id)

/-- The loop over the drafts, each with the identifiers of its rows. -/
def addDrafts (hash : PyJson.IdealHash) (run : DocumentParseRun) (version : DocumentVersion)
    (checksum : String) (pages : List DocumentPage) (sections : List DocumentSection) :
    List (DocumentChunkDraft × Uuid × Uuid) → Transaction String DocumentStore (List Uuid)
  | [] => pure []
  | (draft, chunkId, citationId) :: rest => do
      write (fun store => (store.chunks.insert (chunkRow run version chunkId draft)).map
        fun chunks => { store with chunks }) "IntegrityError"
      let citation ← lift (citeChunk hash run version checksum (draftPageId pages draft)
        (draftSectionId sections draft) chunkId draft)
      write (fun store =>
        (store.citations.insert (anchorRow citationId draft.1.sectionPath citation)).map
          fun citations => { store with citations }) "IntegrityError"
      let ids ← addDrafts hash run version checksum pages sections rest
      return chunkId :: ids

/-- The chunks of a run, by their index. -/
def DocumentStore.chunksOf (store : DocumentStore) (parseRunId : Uuid) : List DocumentChunk :=
  (store.chunks.select (·.parseRunId = parseRunId)).insertionSort fun a b =>
    a.chunkIndex ≤ b.chunkIndex

def addChunksAndCitations (hash : PyJson.IdealHash) (parseRunId documentVersionId : Uuid)
    (chunks : List DocumentChunkDraft) (newIds : Nat → Uuid × Uuid) :
    Transaction String DocumentStore (List Uuid) := do
  let run ← query (·.parseRuns.selectOne (·.id = parseRunId))
  let version ← query (·.versions.selectOne (·.id = documentVersionId))
  let run ← fetch (run.filter (·.completedAt ≠ none))
    "terminal parse run and document version are required"
  let version ← fetch version "terminal parse run and document version are required"
  let checksum ← fetch run.canonicalTextChecksum "canonical parse checksum is required"
  let existing ← query (·.chunksOf parseRunId)
  if existing ≠ [] then do
    raiseIf (existing.map (·.checksum) ≠ chunks.map (·.1.checksum)) "chunk generation conflict"
    return existing.map (·.id)
  else do
    let pages ← query (·.pagesOf parseRunId)
    let sections ← query (·.sectionsOf parseRunId)
    addDrafts hash run version checksum pages sections
      (chunks.zipIdx.map fun draft => (draft.1, newIds draft.2))

/-! ## The context of a citation -/

/-- The earliest of several times. -/
def earliest : List Instant → Option Instant
  | [] => none
  | t :: ts =>
      match earliest ts with
      | none => some t
      | some u => if u < t then some u else some t

namespace DocumentStore

def supersessionState (store : DocumentStore) (documentVersionId : Uuid) :
    Option Uuid × Option Instant × Bool :=
  let superseders := (store.versions.select
      (·.supersedesDocumentVersionId = some documentVersionId)).insertionSort fun a b =>
    toLex (a.versionNumber, a.id.str) ≤ toLex (b.versionNumber, b.id.str)
  (superseders.head?.map (·.id), earliest (superseders.filterMap (·.publishedAt)),
    superseders.any (·.publishedAt.isNone))

/-- The paths of the sections with a type of locator. -/
def pathsOfType (sections : List DocumentSection) (locatorType : LocatorType) : List String :=
  ((sections.filter (·.locatorType = locatorType)).map (·.sectionPath)).insertionSort (· ≤ ·)

/-- The fields of `CitationAnchorRecord` of a row. -/
def anchorOfRow (row : CitationAnchor) : AnchorFields where
  documentVersionId := row.documentVersionId
  parseRunId := row.parseRunId
  pageId := row.pageId
  sectionId := row.sectionId
  chunkId := row.chunkId
  locator := {
    locatorType := row.locatorType
    startPage := optionalInt row.locator "start_page"
    endPage := optionalInt row.locator "end_page"
    htmlAnchor := optionalStr row.locator "html_anchor"
    jsonPointer := optionalStr row.locator "json_pointer"
    startOffset := optionalInt row.locator "start_offset"
    endOffset := optionalInt row.locator "end_offset" }
  excerpt := row.excerpt
  excerptChecksum := row.excerptChecksum
  canonicalTextChecksum := row.canonicalTextChecksum
  documentChecksum := row.documentChecksum
  locatorChecksum := row.locatorChecksum
  citationVersion := row.citationVersion
  parserVersion := row.parserVersion
  sanitizerVersion := row.sanitizerVersion

/-- The context of a citation whose rows and blob were found. -/
def contextOf (store : DocumentStore) (citation : CitationAnchorDraft) (version : DocumentVersion)
    (run : DocumentParseRun) (text : Text) (metadata : BlobMetadata) (content : List UInt8) :
    CitationContext :=
  let pages := store.pagesOf run.id
  let sections := store.sectionsOf run.id
  { citation := citation
    documentVersion := version
    canonicalSourceText := text
    blobBytes := content
    blobMimeType := metadata.contentType
    blobChecksum := metadata.checksum
    blobSize := metadata.sizeBytes
    versionInSnapshot := none
    snapshotIds := ((store.snapshotVersions.select (·.documentVersionId = version.id)).map
      (·.snapshotId)).insertionSort fun a b => a.str ≤ b.str
    supersededByDocumentVersionId := (store.supersessionState version.id).1
    supersededAt := (store.supersessionState version.id).2.1
    supersessionTimeUnknown := (store.supersessionState version.id).2.2
    availablePageNumbers := (pages.map (·.pageNumber)).insertionSort (· ≤ ·)
    pageTexts := pages.map fun page => (page.pageNumber, page.text)
    availableSectionIds := (sections.map (·.id)).insertionSort fun a b => a.str ≤ b.str
    sectionPaths := sections.map fun s => (s.id, s.sectionPath)
    sectionRanges := sections.map fun s => (s.id, s.startOffset, s.endOffset)
    availableHtmlAnchors := pathsOfType sections .htmlAnchorRange
    availableJsonPointers := pathsOfType sections .jsonPointer
    chunkText := citation.1.chunkId.bind fun id =>
      (store.chunks.selectOne (·.id = id)).map (·.text)
    parserVersion := run.parserVersion
    sanitizerVersion := run.sanitizerVersion }

def getCitationContext (storage : BlobStorage) (store : DocumentStore) (citationId : Uuid) :
    Except String (Option CitationContext) :=
  match store.citations.selectOne (·.id = citationId) with
  | none => .ok none
  | some row =>
      match store.versions.selectOne (·.id = row.documentVersionId),
          store.parseRuns.selectOne (·.id = row.parseRunId) with
      | some version, some run =>
          match run.canonicalText, storage.metadata version.storageUri,
              storage.get version.storageUri with
          | some text, some metadata, some content =>
              (Checked.validated AnchorFields.validate (anchorOfRow row)).map fun citation =>
                some (store.contextOf citation version run text metadata content)
          | _, _, _ => .ok none
      | _, _ => .ok none

/-- `CitationVerifier(repository, storage).verify(citation_id, scope)` -/
def verify (hash : PyJson.IdealHash) (storage : BlobStorage) (store : DocumentStore)
    (citationId : Uuid) (scope : CitationScope) : Except String CitationVerification :=
  (store.getCitationContext storage citationId).map (storage.verify hash citationId scope)

end DocumentStore

/-! ## What the writes leave behind -/

section Written

variable {store store' : DocumentStore} {parseRunId : Uuid} {value : ParsedDocument}

/-- The parent of a section is kept as the identifier of a section of the same run. -/
def ParentKept (rows : List DocumentSection) (parseRunId : Uuid) (s : ParsedSection)
    (row : DocumentSection) : Prop :=
  match s.1.parentSectionPath with
  | none => row.parentSectionId = none
  | some path => ∃ parent ∈ rows, parent.parseRunId = parseRunId ∧ parent.sectionPath = path ∧
      row.parentSectionId = some parent.id

/-- **What the loop over the sections stores.** -/
lemma addSections_ok {items : List (ParsedSection × Uuid)} {sectionIds : List (String × Uuid)}
    (hids : ∀ path id, sectionIds.lookup path = some id → ∃ row ∈ store.sections.rows,
      row.parseRunId = parseRunId ∧ row.sectionPath = path ∧ row.id = id)
    (h : addSections parseRunId items sectionIds store = .ok ((), store')) :
    store' = { store with sections := store'.sections } ∧ ∃ rows,
      store'.sections.rows = store.sections.rows ++ rows ∧
      List.Forall₂ (fun item row =>
        row = sectionRow parseRunId item.2 row.parentSectionId item.1 ∧
          ParentKept store'.sections.rows parseRunId item.1 row) items rows := by
  induction items generalizing store sectionIds with
  | nil =>
      cases h
      exact ⟨rfl, [], by simp, .nil⟩
  | cons item items ih =>
      rcases item with ⟨s, id⟩
      simp only [addSections] at h
      rcases lift_bind_ok.mp h with ⟨parent, hparent, h⟩
      rcases write_map_bind_ok.mp h with ⟨sections, hinsert, h⟩
      have hrows := Table.rows_insert hinsert
      have hnext := @ih { store with sections } _ ?_ h
      · rcases hnext with ⟨hstore, rows, hall, hrel⟩
        refine ⟨hstore, sectionRow parseRunId id parent s :: rows, by simp [hall, hrows], ?_⟩
        refine .cons ⟨rfl, ?_⟩ hrel
        have hsub : store.sections.rows ⊆ store'.sections.rows := by
          simp [hall, hrows]
        unfold ParentKept
        unfold parentId at hparent
        split at hparent
        · next hnone =>
          cases hparent
          rw [hnone]
          rfl
        · next path hpath =>
          rcases Checked.map_ok.mp hparent with ⟨parent, hfound, rfl⟩
          rcases hids path parent (Checked.require_ok.mp hfound) with
            ⟨row, hrow, hrun, hrowPath, rfl⟩
          rw [hpath]
          exact ⟨row, hsub hrow, hrun, hrowPath, rfl⟩
      · intro path id' hlookup
        simp only [List.lookup_cons] at hlookup
        split at hlookup
        · next heq =>
          cases hlookup
          refine ⟨sectionRow parseRunId id parent s, by simp [hrows], rfl, ?_, rfl⟩
          exact (beq_iff_eq.mp heq).symm
        · rcases hids path id' hlookup with ⟨row, hrow, hrest⟩
          exact ⟨row, by simp [hrows, hrow], hrest⟩

/-- **What `replace_running_artifacts` stores.** -/
lemma replaceRunningArtifacts_ok {newIds : Nat → Uuid}
    (h : replaceRunningArtifacts parseRunId value newIds store = .ok ((), store')) :
    (∃ run, store.parseRuns.selectOne (·.id = parseRunId) = some run ∧
      store'.parseRuns.selectOne (·.id = parseRunId) =
        some { run with canonicalText := some value.canonicalText }) ∧
    store.pagesOf parseRunId = [] ∧
    store'.pages.rows = store.pages.rows ++ (value.pages.zipIdx.map fun page =>
      pageRow parseRunId (newIds page.2) page.1) ∧
    (∃ rows, store'.sections.rows = store.sections.rows ++ rows ∧
      List.Forall₂ (fun item row =>
        row = sectionRow parseRunId item.2 row.parentSectionId item.1 ∧
          ParentKept store'.sections.rows parseRunId item.1 row)
        ((sortedSections value).zipIdx.map fun s =>
          (s.1, newIds (value.pages.length + s.2))) rows) ∧
    store'.chunks = store.chunks := by
  simp only [replaceRunningArtifacts, query_bind] at h
  rcases raiseIf_bind_ok.mp h with ⟨hmutable, h⟩
  rw [query_bind] at h
  rcases raiseIf_bind_ok.mp h with ⟨hempty, h⟩
  rcases write_map_bind_ok.mp h with ⟨parseRuns, hruns, h⟩
  rcases write_map_bind_ok.mp h with ⟨pages, hpages, h⟩
  rcases addSections_ok (by simp) h with ⟨hstore, hsections⟩
  rw [hstore]
  refine ⟨?_, ?_, Table.rows_insertAll hpages, ?_, rfl⟩
  · rcases hrun : store.parseRuns.selectOne (·.id = parseRunId) with _ | run
    · simp [hrun] at hmutable
    · exact ⟨run, rfl, by simp [Table.selectOne_update hruns, hrun]⟩
  · exact List.eq_nil_of_length_eq_zero (not_not.mp hempty)
  · exact hsections

/-- **What `finish_parse_run` stores.** -/
lemma finishParseRun_ok {now : Instant}
    (h : finishParseRun parseRunId value now store = .ok ((), store')) :
    store' = { store with parseRuns := store'.parseRuns } ∧
    store'.parseRuns.selectOne (·.id = parseRunId) =
      (store.parseRuns.selectOne (·.id = parseRunId)).map fun row =>
        { row with
          status := value.status
          canonicalTextChecksum := some value.canonicalTextChecksum
          warnings := value.warnings
          completedAt := some now } := by
  simp only [finishParseRun] at h
  rcases raiseIf_bind_ok.mp h with ⟨-, h⟩
  rw [query_bind] at h
  rcases raiseIf_bind_ok.mp h with ⟨-, h⟩
  rw [← bind_pure (write _ _)] at h
  rcases write_map_bind_ok.mp h with ⟨parseRuns, hruns, h⟩
  cases h
  exact ⟨rfl, Table.selectOne_update hruns fun _ => rfl⟩

/-- **What the loop over the drafts stores.** -/
lemma addDrafts_ok {hash : PyJson.IdealHash} {run : DocumentParseRun} {version : DocumentVersion}
    {checksum : String} {pages : List DocumentPage} {sections : List DocumentSection}
    {items : List (DocumentChunkDraft × Uuid × Uuid)} {ids : List Uuid}
    (h : addDrafts hash run version checksum pages sections items store = .ok (ids, store')) :
    store' = { store with chunks := store'.chunks, citations := store'.citations } ∧
    store'.chunks.rows = store.chunks.rows ++
      (items.map fun item => chunkRow run version item.2.1 item.1) ∧
    ∃ anchors, store'.citations.rows = store.citations.rows ++ anchors ∧
      List.Forall₂ (fun item anchor => ∃ citation,
        citeChunk hash run version checksum (draftPageId pages item.1)
          (draftSectionId sections item.1) item.2.1 item.1 = .ok citation ∧
        anchor = anchorRow item.2.2 item.1.1.sectionPath citation) items anchors := by
  induction items generalizing store ids with
  | nil =>
      cases h
      exact ⟨rfl, by simp, [], by simp, .nil⟩
  | cons item items ih =>
      rcases item with ⟨draft, chunkId, citationId⟩
      simp only [addDrafts] at h
      rcases write_map_bind_ok.mp h with ⟨chunks, hchunks, h⟩
      rcases lift_bind_ok.mp h with ⟨citation, hcite, h⟩
      rcases write_map_bind_ok.mp h with ⟨citations, hcitations, h⟩
      rcases bind_ok.mp h with ⟨rest, store₁, hrest, h⟩
      cases h
      rcases ih hrest with ⟨hstore, hrows, anchors, hanchors, hrel⟩
      refine ⟨hstore, ?_, anchorRow citationId draft.1.sectionPath citation :: anchors, ?_, ?_⟩
      · simp [hrows, Table.rows_insert hchunks]
      · simp [hanchors, Table.rows_insert hcitations]
      · exact .cons ⟨citation, hcite, rfl⟩ hrel

/-- **What `add_chunks_and_citations` does**: it finds the chunks that it was given, or adds them. -/
lemma addChunksAndCitations_ok {hash : PyJson.IdealHash} {documentVersionId : Uuid}
    {drafts : List DocumentChunkDraft} {newIds : Nat → Uuid × Uuid} {ids : List Uuid}
    (h : addChunksAndCitations hash parseRunId documentVersionId drafts newIds store =
      .ok (ids, store')) :
    ∃ run version checksum, store.parseRuns.selectOne (·.id = parseRunId) = some run ∧
      run.completedAt ≠ none ∧ store.versions.selectOne (·.id = documentVersionId) = some version ∧
      run.canonicalTextChecksum = some checksum ∧
      (store.chunksOf parseRunId ≠ [] ∧
          (store.chunksOf parseRunId).map (·.checksum) = drafts.map (·.1.checksum) ∧
          store' = store ∨
        store.chunksOf parseRunId = [] ∧
          addDrafts hash run version checksum (store.pagesOf parseRunId)
            (store.sectionsOf parseRunId)
            (drafts.zipIdx.map fun draft => (draft.1, newIds draft.2)) store =
              .ok (ids, store')) := by
  simp only [addChunksAndCitations, query_bind] at h
  rcases fetch_bind_ok.mp h with ⟨run, hrun, h⟩
  rcases fetch_bind_ok.mp h with ⟨version, hversion, h⟩
  rcases fetch_bind_ok.mp h with ⟨checksum, hchecksum, h⟩
  rw [Option.filter_eq_some_iff] at hrun
  refine ⟨run, version, checksum, hrun.1, by simpa using hrun.2, hversion, hchecksum, ?_⟩
  rw [query_bind] at h
  split at h
  · next hexisting =>
    rcases raiseIf_bind_ok.mp h with ⟨hsame, h⟩
    cases h
    exact Or.inl ⟨hexisting, not_not.mp hsame, rfl⟩
  · next hnone =>
    rw [query_bind, query_bind] at h
    exact Or.inr ⟨not_not.mp hnone, h⟩

lemma addChunksAndCitations_found {hash : PyJson.IdealHash} {documentVersionId : Uuid}
    {drafts : List DocumentChunkDraft} (newIds : Nat → Uuid × Uuid) {run : DocumentParseRun}
    {version : DocumentVersion} {checksum : String}
    (hrun : store.parseRuns.selectOne (·.id = parseRunId) = some run)
    (hdone : run.completedAt ≠ none)
    (hversion : store.versions.selectOne (·.id = documentVersionId) = some version)
    (hchecksum : run.canonicalTextChecksum = some checksum)
    (hfound : (store.chunksOf parseRunId).map (·.checksum) = drafts.map (·.1.checksum)) :
    ∃ result, addChunksAndCitations hash parseRunId documentVersionId drafts newIds store =
      .ok result := by
  have hfilter : (some run).filter (fun run => decide (run.completedAt ≠ none)) = some run := by
    simp [Option.filter, hdone]
  simp only [addChunksAndCitations, query_bind, hrun, hversion, hfilter, fetch_some_bind, hchecksum]
  split
  · exact ⟨_, by rw [raiseIf_bind, if_neg (not_not.mpr hfound)]; rfl⟩
  · next hnone =>
    rw [not_not.mp hnone, List.map_nil, eq_comm, List.map_eq_nil_iff] at hfound
    rw [hfound]
    exact ⟨_, rfl⟩

end Written

end StockResearch.Documents
