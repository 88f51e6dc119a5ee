import StockResearch.Documents.ChunkLaw
import StockResearch.Documents.Persistence

/-!
# Reading a parsed document back

A document is stored under its parse run and read back when the same version is parsed again.  Its
chunks are checked against the stored ones by their checksums, which depend on the order of the
sections and on the metadata of the parser.

The database keeps neither the metadata nor the safety markers, and returns pages and sections in an
order of its own.  **`rebuildLaw_iff`**: what is read back equals what was stored, and chunks to the
same, exactly when the document is `Rebuildable`: it came out of the database already.
-/

namespace StockResearch.Documents

open PyText PyTime Txn

variable {store store₁ store₂ : DocumentStore} {parseRunId : Uuid} {p : ParsedDocument}
  {collation : Collation}

/-! ## The orders of the database -/

instance (collation : Collation) : Std.Total collation.sectionLE :=
  ⟨fun a b => by
    unfold Collation.sectionLE
    rcases lt_trichotomy a.1 b.1 with h | h | h
    · exact Or.inl (Or.inl h)
    · rcases collation.total a.2 b.2 with hle | hle
      · exact Or.inl (Or.inr ⟨h, hle⟩)
      · exact Or.inr (Or.inr ⟨h.symm, hle⟩)
    · exact Or.inr (Or.inl h)⟩

instance (collation : Collation) : IsTrans (Nat × String) collation.sectionLE :=
  ⟨fun a b c hab hbc => by
    unfold Collation.sectionLE at hab hbc ⊢
    rcases hab with hab | ⟨hab, hle⟩
    · rcases hbc with hbc | ⟨hbc, -⟩
      · exact Or.inl (hab.trans hbc)
      · exact Or.inl (hbc ▸ hab)
    · rcases hbc with hbc | ⟨hbc, hle'⟩
      · exact Or.inl (hab ▸ hbc)
      · exact Or.inr ⟨hab.trans hbc, collation.trans _ _ _ hle hle'⟩⟩

lemma Collation.eq_of_sectionLE {a b : Nat × String} (hab : collation.sectionLE a b)
    (hba : collation.sectionLE b a) : a = b := by
  unfold Collation.sectionLE at hab hba
  rcases hab with hab | ⟨hlevel, hle⟩
  · rcases hba with hba | ⟨hlevel, -⟩ <;> omega
  · rcases hba with hba | ⟨-, hle'⟩
    · omega
    · exact Prod.ext hlevel (collation.antisymm _ _ hle hle')

def sectionKey (s : ParsedSection) : Nat × String := (s.1.level, s.1.sectionPath)

/-! ## What is read back -/

/-- **What `get_parsed_document` returns**, when it returns a document. -/
lemma getParsedDocument_ok {q : ParsedDocument}
    (h : store.getParsedDocument collation parseRunId = .ok (some q)) :
    (∃ run, store.parseRuns.selectOne (·.id = parseRunId) = some run ∧
      run.canonicalText = some q.canonicalText ∧
      run.canonicalTextChecksum = some q.canonicalTextChecksum) ∧
    ((store.orderedPages parseRunId).mapM fun row =>
      Checked.validated PageFields.validate (pageOfRow row)) = .ok q.pages ∧
    (store.orderedSections collation parseRunId).mapM
      (DocumentStore.sectionFromRow (store.orderedSections collation parseRunId)) =
        .ok q.sections ∧
    q.safetyMarkers = [] ∧ q.parserMetadata = [("persistence", "postgresql")] := by
  unfold DocumentStore.getParsedDocument at h
  split at h
  · cases h
  · next run hrun =>
    split at h
    · next text checksum hdone htext hchecksum =>
      rcases Checked.bind_ok.mp h with ⟨pages, hpages, h⟩
      rcases Checked.bind_ok.mp h with ⟨sections, hsections, h⟩
      split at h
      · cases h
        exact ⟨⟨run, hrun, htext, hchecksum⟩, hpages, hsections, rfl, rfl⟩
      · cases h
    · cases h

/-- What the database holds of a document after it was stored.  The sections that were there before
are still there. -/
structure Stored (store : DocumentStore) (parseRunId : Uuid) (earlier : List DocumentSection)
    (p : ParsedDocument) : Prop where
  run : ∃ run, store.parseRuns.selectOne (·.id = parseRunId) = some run ∧
    run.completedAt ≠ none ∧ run.canonicalText = some p.canonicalText ∧
    run.canonicalTextChecksum = some p.canonicalTextChecksum ∧ run.status = p.status ∧
    run.warnings = p.warnings
  pages : ((store.pagesOf parseRunId).mapM fun row =>
    Checked.validated PageFields.validate (pageOfRow row)) = .ok p.pages
  sections : ∃ rows, store.sectionsOf parseRunId = earlier ++ rows ∧
    List.Forall₂ (fun s row => (∃ id, row = sectionRow parseRunId id row.parentSectionId s) ∧
      ParentKept store.sections.rows parseRunId s row) (sortedSections p) rows

/-- Storing a document leaves it stored. -/
theorem stored_of_writes {newIds : Nat → Uuid} {now : Instant}
    (hreplace : replaceRunningArtifacts parseRunId p newIds store = .ok ((), store₁))
    (hfinish : finishParseRun parseRunId p now store₁ = .ok ((), store₂)) :
    Stored store₂ parseRunId (store.sectionsOf parseRunId) p := by
  rcases replaceRunningArtifacts_ok hreplace with
    ⟨⟨run, hrun, hrun₁⟩, hempty, hpages, ⟨rows, hrows, hrel⟩, -⟩
  rcases finishParseRun_ok hfinish with ⟨hstore, hrun₂⟩
  refine ⟨?_, ?_, ?_⟩
  · rw [hrun₁] at hrun₂
    exact ⟨_, hrun₂, by simp, rfl, rfl, rfl, rfl⟩
  · have hselected : store₂.pagesOf parseRunId = p.pages.zipIdx.map fun page =>
        pageRow parseRunId (newIds page.2) page.1 := by
      have hnone : store.pages.rows.filter (fun row => decide (row.parseRunId = parseRunId)) = [] :=
        hempty
      rw [hstore, DocumentStore.pagesOf, Table.select, hpages, List.filter_append, hnone,
        List.nil_append, List.filter_eq_self]
      intro row hrow
      rcases List.mem_map.mp hrow with ⟨page, -, rfl⟩
      simp [pageRow]
    rw [hselected, List.mapM_map, Checked.mapM_ok (g := Prod.fst), List.zipIdx_map_fst]
    intro page _
    exact Checked.validated_ok.mpr rfl
  · have hitems := List.forall₂_map_left_iff.mp hrel
    refine ⟨rows, ?_, ?_⟩
    · have hall : rows.filter (fun row => decide (row.parseRunId = parseRunId)) = rows := by
        rw [List.filter_eq_self]
        intro row hrow
        rcases Checked.exists_of_forall₂ hitems.flip hrow with ⟨item, -, hfields, -⟩
        rw [hfields]
        simp [sectionRow]
      rw [hstore, DocumentStore.sectionsOf, Table.select, hrows, List.filter_append, hall]
      rfl
    · rw [hstore, ← List.zipIdx_map_fst 0 (sortedSections p), List.forall₂_map_left_iff]
      refine hitems.imp ?_
      rintro item row ⟨hfields, hparent⟩
      exact ⟨⟨_, hfields⟩, hparent⟩

lemma pages_readBack {earlier : List DocumentSection}
    (hstored : Stored store parseRunId earlier p) :
    ∃ pages, ((store.orderedPages parseRunId).mapM fun row =>
      Checked.validated PageFields.validate (pageOfRow row)) = .ok pages ∧ p.pages.Perm pages ∧
      pages.Pairwise fun a b => a.1.pageNumber ≤ b.1.pageNumber := by
  rcases Checked.mapM_perm (List.perm_insertionSort
    (fun a b : DocumentPage => a.pageNumber ≤ b.pageNumber) _).symm hstored.pages with
    ⟨pages, hpages, hperm⟩
  refine ⟨pages, hpages, hperm, ?_⟩
  refine Checked.pairwise_of_mapM (p := DocumentPage.pageNumber) ?_ hpages
    (List.pairwise_insertionSort _ _)
  intro row page hrow
  rw [Checked.validated_ok.mp hrow]
  rfl

instance (collation : Collation) : Std.Total fun a b : DocumentSection =>
    collation.sectionLE (a.level, a.sectionPath) (b.level, b.sectionPath) :=
  ⟨fun _ _ => total_of collation.sectionLE _ _⟩

instance (collation : Collation) : IsTrans DocumentSection fun a b =>
    collation.sectionLE (a.level, a.sectionPath) (b.level, b.sectionPath) :=
  ⟨fun _ _ _ => trans_of collation.sectionLE⟩

/-- A section keeps its level and its path. -/
lemma key_sectionFromRow {rows : List DocumentSection} {row : DocumentSection} {s : ParsedSection}
    (h : DocumentStore.sectionFromRow rows row = .ok s) :
    (row.level, row.sectionPath) = sectionKey s := by
  rcases Checked.bind_ok.mp h with ⟨parent, -, h⟩
  rw [sectionKey, Checked.validated_ok.mp h]
  rfl

lemma sectionFromRow_stored {rows : List DocumentSection}
    (hrows : ∀ row, row ∈ rows ↔ row ∈ store.sections.rows ∧ row.parseRunId = parseRunId)
    {s : ParsedSection} {row : DocumentSection} {id : Uuid}
    (hrow : row = sectionRow parseRunId id row.parentSectionId s)
    (hparent : ParentKept store.sections.rows parseRunId s row) :
    DocumentStore.sectionFromRow rows row = .ok s := by
  have hpath : DocumentStore.parentPath rows row = .ok s.1.parentSectionPath := by
    unfold ParentKept at hparent
    unfold DocumentStore.parentPath
    split at hparent
    · next hnone => rw [hparent, hnone]
    · next path hpath =>
      rcases hparent with ⟨parent, hmem, hrun, hparentPath, hid⟩
      have hfind : rows.find? (fun row => decide (row.id = parent.id)) = some parent := by
        rcases hfound : rows.find? (fun row => decide (row.id = parent.id)) with _ | found
        · have hnot := List.find?_eq_none.mp hfound parent ((hrows parent).mpr ⟨hmem, hrun⟩)
          simp at hnot
        · have hsame : found.id = parent.id := by simpa using List.find?_some hfound
          have hfoundMem := ((hrows found).mp (List.mem_of_find?_eq_some hfound)).1
          rw [hfound, store.sections.eq_of_clash hfoundMem hmem (Or.inl hsame)]
      rw [hid, hpath]
      simp [hfind, hparentPath, Checked.require, Except.map]
  refine Checked.bind_ok.mpr ⟨_, hpath, Checked.validated_ok.mpr ?_⟩
  rw [hrow]
  rfl

/-- The sections that are read back, in the order of the database, when there were none before. -/
lemma sections_readBack (hstored : Stored store parseRunId [] p) (collation : Collation) :
    ∃ sections, (store.orderedSections collation parseRunId).mapM
      (DocumentStore.sectionFromRow (store.orderedSections collation parseRunId)) =
        .ok sections ∧ p.sections.Perm sections := by
  rcases hstored.sections with ⟨rows, hrows, hrel⟩
  rw [List.nil_append] at hrows
  have hperm : rows.Perm (store.orderedSections collation parseRunId) := by
    rw [← hrows]
    exact (List.perm_insertionSort _ _).symm
  have hmem : ∀ row, row ∈ store.orderedSections collation parseRunId ↔
      row ∈ store.sections.rows ∧ row.parseRunId = parseRunId := by
    intro row
    rw [← hperm.mem_iff, ← hrows, DocumentStore.sectionsOf, Table.mem_select, decide_eq_true_iff]
  have hloop : rows.mapM
      (DocumentStore.sectionFromRow (store.orderedSections collation parseRunId)) =
        .ok (sortedSections p) := by
    refine Checked.mapM_of_forall₂ (hrel.flip.imp ?_)
    rintro row s ⟨⟨id, hrow⟩, hparent⟩
    exact sectionFromRow_stored hmem hrow hparent
  rcases Checked.mapM_perm hperm hloop with ⟨sections, hsections, hperm'⟩
  exact ⟨sections, hsections, (List.perm_insertionSort _ _).symm.trans hperm'⟩

lemma nodup_sectionPath {sections : List ParsedSection}
    (h : (store.orderedSections collation parseRunId).mapM
      (DocumentStore.sectionFromRow (store.orderedSections collation parseRunId)) =
        .ok sections) : sections.Pairwise fun a b => a.1.sectionPath ≠ b.1.sectionPath := by
  refine Checked.pairwise_of_mapM (p := DocumentSection.sectionPath) (r := (· ≠ ·)) ?_ h ?_
  · intro row s hrow
    exact congrArg Prod.snd (key_sectionFromRow hrow)
  · have hperm : (store.orderedSections collation parseRunId).Perm
        (store.sectionsOf parseRunId) := List.perm_insertionSort _ _
    refine (hperm.pairwise_iff fun hne => hne.symm).mpr ?_
    refine (store.sections.keyed.filter _).imp_of_mem ?_
    intro a b ha hb hclash hpath
    have hrun := (Table.mem_select.mp ha).2
    have hrun' := (Table.mem_select.mp hb).2
    simp only [decide_eq_true_eq] at hrun hrun'
    exact hclash (Or.inr ⟨hrun.trans hrun'.symm, hpath⟩)

/-- No two pages of a run have the same number. -/
lemma nodup_pageNumber {pages : List ParsedPage}
    (h : ((store.orderedPages parseRunId).mapM fun row =>
      Checked.validated PageFields.validate (pageOfRow row)) = .ok pages) :
    pages.Pairwise fun a b => a.1.pageNumber ≠ b.1.pageNumber := by
  refine Checked.pairwise_of_mapM (p := DocumentPage.pageNumber) (r := (· ≠ ·)) ?_ h ?_
  · intro row page hrow
    rw [Checked.validated_ok.mp hrow]
    rfl
  · have hperm : (store.orderedPages parseRunId).Perm (store.pagesOf parseRunId) :=
      List.perm_insertionSort _ _
    refine (hperm.pairwise_iff fun hne => hne.symm).mpr ?_
    refine (store.pages.keyed.filter _).imp_of_mem ?_
    intro a b ha hb hclash hnumber
    have hrun := (Table.mem_select.mp ha).2
    have hrun' := (Table.mem_select.mp hb).2
    simp only [decide_eq_true_eq] at hrun hrun'
    exact hclash (Or.inr ⟨hrun.trans hrun'.symm, hnumber⟩)

lemma pairwise_sections {sections : List ParsedSection}
    (h : (store.orderedSections collation parseRunId).mapM
      (DocumentStore.sectionFromRow (store.orderedSections collation parseRunId)) =
        .ok sections) :
    sections.Pairwise fun a b => collation.sectionLE (sectionKey a) (sectionKey b) := by
  refine Checked.pairwise_of_mapM (fun row s hrow => key_sectionFromRow hrow) h ?_
  exact List.pairwise_insertionSort _ _

/-! ## The rebuild law -/

/-- What is read back agrees with what was stored in everything that a chunk depends on, chunks to
the same, and its chunks are no new generation. -/
def RebuildLaw (collation : Collation) (folding : Folding) (hash : PyJson.IdealHash)
    (store : DocumentStore) (parseRunId : Uuid) (p : ParsedDocument) : Prop :=
  ∃ q, store.getParsedDocument collation parseRunId = .ok (some q) ∧
    q.canonicalText = p.canonicalText ∧ q.pages = p.pages ∧ q.sections = p.sections ∧
    q.safetyMarkers = p.safetyMarkers ∧ q.canonicalTextChecksum = p.canonicalTextChecksum ∧
    q.parserMetadata = p.parserMetadata ∧
    (∀ config fuel, chunk folding hash q config fuel = chunk folding hash p config fuel) ∧
    ∀ config fuel documentVersionId drafts drafts' newIds newIds' ids store',
      chunk folding hash p config fuel = .ok drafts →
      chunk folding hash q config fuel = .ok drafts' →
      addChunksAndCitations hash parseRunId documentVersionId drafts newIds store =
        .ok (ids, store') →
      addChunksAndCitations hash parseRunId documentVersionId drafts' newIds' store' ≠
        .error "chunk generation conflict"

/-- A document that the database can give back as it is. -/
structure Rebuildable (collation : Collation) (store : DocumentStore) (parseRunId : Uuid)
    (p : ParsedDocument) : Prop where
  fresh : store.sectionsOf parseRunId = []
  metadata : p.parserMetadata = [("persistence", "postgresql")]
  markers : p.safetyMarkers = []
  pages : p.pages.Pairwise fun a b => a.1.pageNumber ≤ b.1.pageNumber
  sections : p.sections.Pairwise fun a b => collation.sectionLE (sectionKey a) (sectionKey b)

/-- The pages and sections of a rebuildable document are read back in their order. -/
lemma getParsedDocument_of_rebuildable (hstored : Stored store₂ parseRunId [] p)
    (hrebuild : Rebuildable collation store parseRunId p) :
    store₂.getParsedDocument collation parseRunId = .ok (some p) := by
  rcases pages_readBack hstored with ⟨pages, hpages, hpperm, hpsorted⟩
  rcases sections_readBack hstored collation with ⟨sections, hsections, hsperm⟩
  have hsameSections : sections = p.sections := by
    refine eq_of_perm_of_keyed (fun a b => Collation.eq_of_sectionLE) hsperm.symm ?_
      (pairwise_sections hsections) hrebuild.sections
    refine (nodup_sectionPath hsections).imp ?_
    intro a b hne heq
    exact hne (congrArg Prod.snd heq)
  have hsamePages : pages = p.pages :=
    eq_of_perm_of_keyed (fun a b => le_antisymm) hpperm.symm (nodup_pageNumber hpages) hpsorted
      hrebuild.pages
  rcases hstored.run with ⟨run, hrun, hdone, htext, hchecksum, hstatus, hwarnings⟩
  rcases Option.ne_none_iff_exists'.mp hdone with ⟨now, hnow⟩
  have hmarkers := hrebuild.markers
  have hmetadata := hrebuild.metadata
  rw [hsameSections] at hsections
  rw [hsamePages] at hpages
  unfold DocumentStore.getParsedDocument
  rw [hrun]
  dsimp only
  rw [hnow, htext, hchecksum]
  dsimp only
  refine Checked.bind_ok.mpr ⟨_, hpages, Checked.bind_ok.mpr ⟨_, hsections, ?_⟩⟩
  rw [dif_pos p.text_ok, hstatus, hwarnings, ← hmarkers, ← hmetadata]
  rfl

/-- Chunks that were stored once are not stored again. -/
lemma addChunksAndCitations_again {hash : PyJson.IdealHash} {documentVersionId : Uuid}
    {drafts : List DocumentChunkDraft} {newIds : Nat → Uuid × Uuid} (newIds' : Nat → Uuid × Uuid)
    {ids : List Uuid}
    (hindex : drafts.Pairwise fun a b => a.1.chunkIndex ≤ b.1.chunkIndex)
    (h : addChunksAndCitations hash parseRunId documentVersionId drafts newIds store =
      .ok (ids, store₁)) :
    ∃ result, addChunksAndCitations hash parseRunId documentVersionId drafts newIds' store₁ =
      .ok result := by
  rcases addChunksAndCitations_ok h with
    ⟨run, version, checksum, hrun, hdone, hversion, hchecksum,
      ⟨-, hsame, rfl⟩ | ⟨hnone, hadded⟩⟩
  · exact addChunksAndCitations_found newIds' hrun hdone hversion hchecksum hsame
  · rcases addDrafts_ok hadded with ⟨hstore, hrows, -⟩
    have hchunks : store₁.chunksOf parseRunId = drafts.zipIdx.map fun draft =>
        chunkRow run version (newIds draft.2).1 draft.1 := by
      have hid : run.id = parseRunId := by simpa using (Table.mem_of_selectOne hrun).2
      have hold : store.chunks.rows.filter (fun row => decide (row.parseRunId = parseRunId)) = [] := by
        have hperm := List.perm_insertionSort (fun a b : DocumentChunk => a.chunkIndex ≤ b.chunkIndex)
          (store.chunks.select fun row => decide (row.parseRunId = parseRunId))
        change (store.chunksOf parseRunId).Perm _ at hperm
        rw [hnone] at hperm
        exact hperm.nil_eq.symm
      have hnew : (drafts.zipIdx.map fun draft =>
          chunkRow run version (newIds draft.2).1 draft.1).filter
            (fun row => decide (row.parseRunId = parseRunId)) =
          drafts.zipIdx.map fun draft => chunkRow run version (newIds draft.2).1 draft.1 := by
        rw [List.filter_eq_self]
        intro row hrow
        rcases List.mem_map.mp hrow with ⟨draft, -, rfl⟩
        simp [chunkRow, hid]
      rw [DocumentStore.chunksOf, Table.select, hrows, List.map_map, List.filter_append, hold,
        List.nil_append]
      refine (congrArg _ hnew).trans (List.Pairwise.insertionSort_eq ?_)
      rw [List.pairwise_map]
      rw [← List.zipIdx_map_fst 0 drafts, List.pairwise_map] at hindex
      exact hindex
    rw [hstore]
    refine addChunksAndCitations_found newIds' hrun hdone hversion hchecksum ?_
    change (store₁.chunksOf parseRunId).map _ = _
    rw [hchunks, List.map_map]
    conv_rhs => rw [← List.zipIdx_map_fst 0 drafts, List.map_map]
    rfl

/-- The chunks of a document are numbered in order. -/
lemma pairwise_chunkIndex {folding : Folding} {hash : PyJson.IdealHash} {config : ChunkConfig}
    {fuel : Nat} {drafts : List DocumentChunkDraft}
    (h : chunk folding hash p config fuel = .ok drafts) :
    drafts.Pairwise fun a b => a.1.chunkIndex ≤ b.1.chunkIndex := by
  by_cases htext : p.canonicalText = []
  · simp only [chunk, htext, if_true, Except.ok.injEq] at h
    rw [← h]
    exact .nil
  · have hfields := ((chunk_ok htext).mp h).2
    have hmap : (drafts.map (·.1)).Pairwise fun a b => a.chunkIndex ≤ b.chunkIndex := by
      rw [hfields, List.pairwise_map]
      have hrange : ((pieces p config fuel).zipIdx.map Prod.snd).Pairwise (· ≤ ·) := by
        rw [List.zipIdx_map_snd]
        exact List.pairwise_le_range'
      exact List.pairwise_map.mp hrange
    rw [List.pairwise_map] at hmap
    exact hmap

/-- **When a stored document is read back as it was.** -/
theorem rebuildLaw_iff {newIds : Nat → Uuid} {now : Instant} (collation : Collation)
    (folding : Folding) (hash : PyJson.IdealHash)
    (hreplace : replaceRunningArtifacts parseRunId p newIds store = .ok ((), store₁))
    (hfinish : finishParseRun parseRunId p now store₁ = .ok ((), store₂)) :
    RebuildLaw collation folding hash store₂ parseRunId p ↔
      Rebuildable collation store parseRunId p := by
  have hstored := stored_of_writes hreplace hfinish
  constructor
  · rintro ⟨q, hq, htext, hpages, hsections, hmarkers, hchecksum, hmetadata, -, -⟩
    rcases getParsedDocument_ok hq with ⟨-, hqpages, hqsections, hqmarkers, hqmetadata⟩
    refine ⟨?_, hmetadata ▸ hqmetadata, hmarkers ▸ hqmarkers, ?_, ?_⟩
    · rcases hstored.sections with ⟨rows, hrows, hrel⟩
      have hread := (Checked.forall₂_mapM (fun _ _ hxy => hxy) hqsections).length_eq
      have hordered : (store₂.orderedSections collation parseRunId).length =
          (store₂.sectionsOf parseRunId).length := List.length_insertionSort _ _
      have hsorted : (sortedSections p).length = p.sections.length := List.length_insertionSort _ _
      have hwritten := hrel.length_eq
      rw [hordered, hrows, List.length_append, hsections] at hread
      exact List.eq_nil_of_length_eq_zero (by omega)
    · rcases pages_readBack hstored with ⟨pages, hread, -, hsorted⟩
      rw [hqpages, Except.ok.injEq] at hread
      rw [← hpages, hread]
      exact hsorted
    · rw [← hsections]
      exact pairwise_sections hqsections
  · intro hrebuild
    rw [hrebuild.fresh] at hstored
    refine ⟨p, getParsedDocument_of_rebuildable hstored hrebuild, rfl, rfl, rfl, rfl, rfl, rfl,
      fun _ _ => rfl, ?_⟩
    intro config fuel documentVersionId drafts drafts' newIds newIds' ids store' hchunk hchunk' hadd
    rw [hchunk, Except.ok.injEq] at hchunk'
    subst hchunk'
    rcases addChunksAndCitations_again newIds' (pairwise_chunkIndex hchunk) hadd with
      ⟨result, hresult⟩
    rw [hresult]
    simp

/-! ## A word that is read back with other metadata -/

/-- A store with one running parse run. -/
def runningStore : DocumentStore where
  versions := .single plainVersion trivial
  parseRuns := .single { plainRun with
    status := .running, canonicalText := none, canonicalTextChecksum := none, completedAt := none }
    trivial
  pages := ∅
  sections := ∅
  chunks := ∅
  citations := ∅
  snapshotVersions := ∅

/-- Storing a document in it. -/
def storing (p : ParsedDocument) : Transaction String DocumentStore Unit := do
  replaceRunningArtifacts 1 p fun n => ⟨100 + n⟩
  finishParseRun 1 p filingTime

lemma stored_of_isOk {p : ParsedDocument} (h : (storing p runningStore).isOk = true) :
    ∃ store₁ store₂,
      replaceRunningArtifacts 1 p (fun n => ⟨100 + n⟩) runningStore = .ok ((), store₁) ∧
      finishParseRun 1 p filingTime store₁ = .ok ((), store₂) := by
  rcases Checked.exists_of_isOk h with ⟨⟨⟨⟩, store₂⟩, hstored⟩
  rcases bind_ok.mp hstored with ⟨⟨⟩, store₁, hreplace, hfinish⟩
  exact ⟨store₁, store₂, hreplace, hfinish⟩

/-- A document that is its own reading. -/
def storedDocument : ParsedDocument :=
  { plainDocument [78, 101, 116] with
    safetyMarkers := [], parserMetadata := [("persistence", "postgresql")] }

/-- A document that was read from the database is read back as it is. -/
theorem rebuildLaw_storedDocument : ∃ store₁ store₂,
    replaceRunningArtifacts 1 storedDocument (fun n => ⟨100 + n⟩) runningStore =
      .ok ((), store₁) ∧
    finishParseRun 1 storedDocument filingTime store₁ = .ok ((), store₂) ∧
    RebuildLaw .codePoints asciiFolding default store₂ 1 storedDocument := by
  rcases stored_of_isOk (p := storedDocument) (by decide +kernel) with
    ⟨store₁, store₂, hreplace, hfinish⟩
  refine ⟨store₁, store₂, hreplace, hfinish, ?_⟩
  refine (rebuildLaw_iff .codePoints asciiFolding default hreplace hfinish).mpr
    ⟨rfl, rfl, rfl, ?_, ?_⟩
  · have hpages : storedDocument.pages.length = 0 := by decide +kernel
    rw [List.length_eq_zero_iff.mp hpages]
    exact .nil
  · have hsections : storedDocument.sections.length = 0 := by decide +kernel
    rw [List.length_eq_zero_iff.mp hsections]
    exact .nil

/-- A plain text is read back without the metadata of its parser. -/
theorem not_rebuildLaw_word : ∃ store₁ store₂,
    replaceRunningArtifacts 1 (plainDocument [78, 101, 116]) (fun n => ⟨100 + n⟩) runningStore =
      .ok ((), store₁) ∧
    finishParseRun 1 (plainDocument [78, 101, 116]) filingTime store₁ = .ok ((), store₂) ∧
    ¬ RebuildLaw .codePoints asciiFolding default store₂ 1 (plainDocument [78, 101, 116]) := by
  rcases stored_of_isOk (p := plainDocument [78, 101, 116]) (by decide +kernel) with
    ⟨store₁, store₂, hreplace, hfinish⟩
  refine ⟨store₁, store₂, hreplace, hfinish, ?_⟩
  rintro ⟨q, hq, -, -, -, -, -, hmetadata, -⟩
  rcases getParsedDocument_ok hq with ⟨-, -, -, -, hqmetadata⟩
  rw [hqmetadata] at hmetadata
  revert hmetadata
  decide +kernel

end StockResearch.Documents
