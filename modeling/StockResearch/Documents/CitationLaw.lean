import StockResearch.Documents.Rebuild

/-!
# When a citation is valid

A chunk's offsets come from a cursor that runs over the pages of a document, or from its sections;
the verifier lays the stored pages out again, looks the section up and takes every checksum anew.
The two agree.

* **Completeness**: the citation of a chunk of a stored document is valid in every scope that its
  version and its blob are `Consistent` with.
* **Soundness**: a valid citation with offsets `Quotes` its source.  Its excerpt is the text between
  the offsets, stands on the pages or in the section that its locator names, and was published by
  the time of the scope.

Only a strict scope asks for a time of publication at all, and a locator of plain text names neither
pages nor a section.
-/

namespace StockResearch.Documents

open PyText PyTime Txn Slice

variable {hash : PyJson.IdealHash} {storage : BlobStorage} {scope : CitationScope}
  {context : CitationContext}

/-! ## Soundness -/

/-- A range on the pages or in the section that a locator names. -/
def CitationContext.Inside (context : CitationContext) (start stop : Int) : Prop :=
  match context.citation.1.locator.locatorType with
  | .pdfPageRange => start < stop ∧
      (∃ page ∈ pageSpans context,
        context.citation.1.locator.startPage = some (page.1.1 : Int) ∧ page.2.1 ≤ start) ∧
      ∃ page ∈ pageSpans context,
        context.citation.1.locator.endPage = some (page.1.1 : Int) ∧ stop ≤ page.2.2
  | .htmlAnchorRange | .jsonPointer | .sectionRange => start < stop ∧
      ∃ id first last, context.citation.1.sectionId = some id ∧
        context.sectionRanges.lookup id = some (some first, some last) ∧
        first ≤ start ∧ stop ≤ last
  | .textOffsetRange => True

/-- What a citation with offsets says of its source, as a scope sees it. -/
structure CitationContext.Quotes (context : CitationContext) (scope : CitationScope)
    (start stop : Int) : Prop where
  excerpt : slice context.canonicalSourceText start stop = context.citation.1.excerpt
  inside : context.Inside start stop
  published : ∀ asOf ∈ scope.researchAsOfTime,
    (∃ time, context.documentVersion.publishedAt = some time ∧ ¬ asOf < time) ∨
      scope.strictHistorical = false ∧ context.documentVersion.publishedAt = none

lemma exists_page_of_spanOf {number : Int} {span : Nat × Nat}
    (h : spanOf context number = some span) :
    ∃ page ∈ pageSpans context, (page.1.1 : Int) = number ∧ page.2 = span := by
  rcases Option.map_eq_some_iff.mp h with ⟨page, hfound, hspan⟩
  exact ⟨page, List.mem_of_find?_eq_some hfound, by simpa using List.find?_some hfound, hspan⟩

lemma exists_section_of_range {start stop : Int}
    (h : (match context.citation.1.sectionId.bind fun id => context.sectionRanges.lookup id with
      | some (some first, some last) => decide (first ≤ start ∧ start < stop ∧ stop ≤ last)
      | _ => false) = true) :
    start < stop ∧ ∃ id first last, context.citation.1.sectionId = some id ∧
      context.sectionRanges.lookup id = some (some first, some last) ∧
      first ≤ start ∧ stop ≤ last := by
  split at h
  · next first last hrange =>
    rcases Option.bind_eq_some_iff.mp hrange with ⟨id, hid, hlookup⟩
    rw [decide_eq_true_iff] at h
    exact ⟨h.2.1, id, first, last, hid, hlookup, h.1, h.2.2⟩
  · cases h

lemma inside_of_rangeIsInsideLocator {start stop : Int}
    (h : rangeIsInsideLocator context start stop = true) : context.Inside start stop := by
  unfold CitationContext.Inside
  cases htype : context.citation.1.locator.locatorType with
  | pdfPageRange =>
      simp only [rangeIsInsideLocator, htype] at h
      split at h
      · next first last hfirst hlast =>
        split at h
        · next locatorStart _ _ locatorEnd hspan hspan' =>
          rcases exists_page_of_spanOf hspan with ⟨page, hpage, hnumber, heq⟩
          rcases exists_page_of_spanOf hspan' with ⟨page', hpage', hnumber', heq'⟩
          rw [decide_eq_true_iff] at h
          refine ⟨h.2.1, ⟨page, hpage, by rw [hfirst, hnumber], ?_⟩,
            page', hpage', by rw [hlast, hnumber'], ?_⟩
          · rw [heq]
            exact h.1
          · rw [heq']
            exact h.2.2
        · cases h
      · cases h
  | htmlAnchorRange =>
      simp only [rangeIsInsideLocator, htype] at h
      exact exists_section_of_range h
  | jsonPointer =>
      simp only [rangeIsInsideLocator, htype] at h
      exact exists_section_of_range h
  | sectionRange =>
      simp only [rangeIsInsideLocator, htype] at h
      exact exists_section_of_range h
  | textOffsetRange => trivial

/-- An excerpt with offsets matches when its range is inside the locator and holds it. -/
lemma excerptMatches_iff {start stop : Int}
    (hstart : context.citation.1.locator.startOffset = some start)
    (hstop : context.citation.1.locator.endOffset = some stop) :
    excerptMatches hash context = true ↔ rangeIsInsideLocator context start stop = true ∧
      slice context.canonicalSourceText start stop = context.citation.1.excerpt ∧
      hash.digest context.citation.1.excerpt = context.citation.1.excerptChecksum ∧
      ∀ chunk ∈ context.chunkText, context.citation.1.excerpt <:+: chunk := by
  unfold excerptMatches
  simp only [hstart, hstop]
  by_cases hinside : rangeIsInsideLocator context start stop = true
  · rw [if_pos hinside]
    simp only [Option.any_some, Bool.and_eq_true, decide_eq_true_eq, beq_iff_eq, hinside, true_and,
      Option.all_eq_true, and_assoc]
    refine and_congr_right ?_
    intro hexcerpt
    rw [hexcerpt]
    rfl
  · simp [hinside]

/-- **A valid citation with offsets quotes its source.** -/
lemma BlobStorage.quotes_of_valid {citationId : Uuid}
    (h : (storage.verify hash citationId scope (some context)).status = .valid) {start stop : Int}
    (hstart : context.citation.1.locator.startOffset = some start)
    (hstop : context.citation.1.locator.endOffset = some stop) :
    context.Quotes scope start stop := by
  rcases BlobStorage.verify_valid.mp h with
    ⟨-, -, -, -, -, -, -, -, hknown, hpublished, -, -, -, hexcerpt⟩
  rcases (excerptMatches_iff hstart hstop).mp hexcerpt with ⟨hinside, hslice, -, -⟩
  refine ⟨hslice, inside_of_rangeIsInsideLocator hinside, ?_⟩
  intro asOf hasOf
  rcases htime : context.documentVersion.publishedAt with _ | time
  · refine Or.inr ⟨?_, rfl⟩
    rw [← Bool.not_eq_true]
    intro hstrict
    exact hknown hstrict htime
  · exact Or.inl ⟨time, rfl, hpublished asOf hasOf time htime⟩

/-! ## What was stored of a citation -/

variable {store : DocumentStore} {run : DocumentParseRun} {version : DocumentVersion}
  {draft : DocumentChunkDraft} {p : ParsedDocument}

lemma optionalInt_jsonInt {fields : List (String × PyJson.Value)} {key : String} {x : Option Int}
    (h : (PyJson.Value.obj fields).get? key = some (jsonInt x)) : optionalInt fields key = x := by
  rw [optionalInt, h]
  cases x <;> rfl

lemma optionalStr_jsonStr {fields : List (String × PyJson.Value)} {key : String}
    {x : Option String} (h : (PyJson.Value.obj fields).get? key = some (jsonStr x)) :
    optionalStr fields key = x := by
  rw [optionalStr, h]
  cases x <;> rfl

/-- A citation is read back as it was written. -/
lemma anchorOfRow_anchorRow (id : Uuid) (sectionPath : Option String)
    (citation : CitationAnchorDraft) :
    DocumentStore.anchorOfRow (anchorRow id sectionPath citation) = citation.1 := by
  have hstartPage : optionalInt (anchorRow id sectionPath citation).locator "start_page" =
      citation.1.locator.startPage := optionalInt_jsonInt rfl
  have hendPage : optionalInt (anchorRow id sectionPath citation).locator "end_page" =
      citation.1.locator.endPage := optionalInt_jsonInt rfl
  have hanchor : optionalStr (anchorRow id sectionPath citation).locator "html_anchor" =
      citation.1.locator.htmlAnchor := optionalStr_jsonStr rfl
  have hpointer : optionalStr (anchorRow id sectionPath citation).locator "json_pointer" =
      citation.1.locator.jsonPointer := optionalStr_jsonStr rfl
  have hstart : optionalInt (anchorRow id sectionPath citation).locator "start_offset" =
      citation.1.locator.startOffset := optionalInt_jsonInt rfl
  have hstop : optionalInt (anchorRow id sectionPath citation).locator "end_offset" =
      citation.1.locator.endOffset := optionalInt_jsonInt rfl
  rw [DocumentStore.anchorOfRow, hstartPage, hendPage, hanchor, hpointer, hstart, hstop]
  rfl

/-- **What a citation of a chunk is.** -/
lemma fields_of_citeChunk {checksum : String} {pageId sectionId : Option Uuid} {chunkId : Uuid}
    {citation : CitationAnchorDraft}
    (h : citeChunk hash run version checksum pageId sectionId chunkId draft = .ok citation) :
    citation.1 =
      { citationFields hash run version checksum pageId sectionId chunkId draft with
        locatorChecksum := locatorChecksum hash
          (citationFields hash run version checksum pageId sectionId chunkId draft) } ∧
    ∀ start ∈ draft.1.locator.startOffset, ∀ stop ∈ draft.1.locator.endOffset,
      stop - start = draft.1.text.length := by
  rcases Checked.bind_ok.mp h with ⟨request, hrequest, h⟩
  have hfields := Checked.validated_ok.mp hrequest
  rw [createCitation, Checked.check_bind_ok, Checked.check_bind_ok] at h
  rcases h with ⟨-, hlength, h⟩
  rw [Checked.validated_ok, hfields] at h
  refine ⟨h, ?_⟩
  rw [hfields] at hlength
  intro start hstart stop hstop
  by_contra hne
  exact hlength ⟨start, hstart, stop, hstop, hne⟩

/-- The checksum of a locator matches when the citation could be made again, as it is. -/
lemma locatorChecksumMatches_of_fields {citation : CitationAnchorDraft}
    (hexcerpt : citation.1.excerptChecksum = hash.digest citation.1.excerpt)
    (hlength : ∀ start ∈ citation.1.locator.startOffset, ∀ stop ∈ citation.1.locator.endOffset,
      stop - start = citation.1.excerpt.length)
    (hlocator : citation.1.locatorChecksum = locatorChecksum hash citation.1.toCitationFields) :
    locatorChecksumMatches hash citation = true := by
  have hvalid := citation.2
  rw [AnchorFields.validate, Checked.unit_bind_ok] at hvalid
  have hagain : (Checked.validated CitationFields.validate citation.1.toCitationFields >>=
      createCitation hash) = .ok citation := by
    refine Checked.bind_ok.mpr ⟨⟨_, hvalid.1⟩, Checked.validated_ok.mpr rfl, ?_⟩
    rw [createCitation, Checked.check_bind_ok, Checked.check_bind_ok]
    refine ⟨not_not.mpr hexcerpt, ?_, Checked.validated_ok.mpr ?_⟩
    · rintro ⟨start, hstart, stop, hstop, hne⟩
      exact hne (hlength start hstart stop hstop)
    · rw [← hlocator]
  unfold locatorChecksumMatches
  rw [hagain]
  exact beq_self_eq_true _

/-! ## Where a citation stands -/

section Placed

variable {parseRunId : Uuid} {earlier : List DocumentSection}

lemma pageTexts_stored (hstored : Stored store parseRunId earlier p) :
    (store.pagesOf parseRunId).map (fun page => (page.pageNumber, page.text)) =
      p.pages.map fun page => (page.1.pageNumber, page.1.text) := by
  have hrel := Checked.forall₂_mapM (fun _ _ h => h) hstored.pages
  rw [← List.forall₂_eq_eq_eq, List.forall₂_map_left_iff, List.forall₂_map_right_iff]
  refine hrel.imp ?_
  intro row page hrow
  rw [Checked.validated_ok.mp hrow]
  rfl

/-- Page numbers that count up are in order, and none is met twice. -/
lemma numbers_lt (hlaid : p.Laid hash) :
    p.pages.Pairwise fun a b => a.1.pageNumber < b.1.pageNumber := by
  rw [← List.pairwise_map (f := fun page : ParsedPage => page.1.pageNumber), hlaid.numbers]
  exact List.pairwise_lt_range'

/-- **The verifier finds a page where the chunker has put it.** -/
lemma spanOf_stored (hlaid : p.Laid hash)
    (hpages : context.pageTexts = p.pages.map fun page => (page.1.pageNumber, page.1.text))
    {page : ParsedPage} {start stop : Nat}
    (hmem : (page, start, stop) ∈ laidOut (fun page : ParsedPage => page.1.text) 3 0 p.pages) :
    spanOf context page.1.pageNumber = some (start, stop) := by
  have hnumbers := numbers_lt hlaid
  have hsorted : (p.pages.map fun page => (page.1.pageNumber, page.1.text)).Pairwise
      fun a b => a.1 ≤ b.1 := by
    rw [List.pairwise_map]
    exact hnumbers.imp fun hlt => hlt.le
  have hspans : pageSpans context =
      (laidOut (fun page : ParsedPage => page.1.text) 3 0 p.pages).map fun laid =>
        ((laid.1.1.pageNumber, laid.1.1.text), laid.2) := by
    rw [pageSpans, hpages, hsorted.insertionSort_eq, laidOut_map]
    rfl
  have hdistinct : ((laidOut (fun page : ParsedPage => page.1.text) 3 0 p.pages).map
      fun laid => laid.1.1.pageNumber).Nodup := by
    have hmap : (laidOut (fun page : ParsedPage => page.1.text) 3 0 p.pages).map
        (fun laid => laid.1.1.pageNumber) = p.pages.map fun page => page.1.pageNumber := by
      conv_rhs => rw [← map_fst_laidOut (fun page : ParsedPage => page.1.text) 3 0 p.pages]
      rw [List.map_map]
      rfl
    rw [hmap, hlaid.numbers]
    exact List.nodup_range'
  rw [spanOf, hspans, Dict.find?_of_unique (List.mem_map_of_mem hmem) (by simp)]
  · rfl
  · rintro span hspan hnumber
    rcases List.mem_map.mp hspan with ⟨laid, hlaidMem, rfl⟩
    have hequal : (laid.1.1.pageNumber : Int) = page.1.pageNumber := by simpa using hnumber
    have hsame : laid = (page, start, stop) :=
      List.inj_on_of_nodup_map hdistinct hlaidMem hmem (by dsimp only; omega)
    rw [hsame]

/-- A section of the document is stored under its run. -/
lemma exists_section_stored (hstored : Stored store parseRunId earlier p) {s : ParsedSection}
    (hs : s ∈ p.sections) : ∃ row ∈ store.sectionsOf parseRunId,
      row = sectionRow parseRunId row.id row.parentSectionId s := by
  rcases hstored.sections with ⟨rows, hrows, hrel⟩
  have hsorted : s ∈ sortedSections p := (List.mem_insertionSort _).mpr hs
  rcases Checked.exists_of_forall₂ hrel hsorted with ⟨row, hrow, ⟨id, heq⟩, -⟩
  refine ⟨row, by simp [hrows, hrow], ?_⟩
  have hid : row.id = id := congrArg DocumentSection.id heq
  rw [hid]
  exact heq

lemma mem_sectionsOf {row : DocumentSection} :
    row ∈ store.sectionsOf parseRunId ↔ row ∈ store.sections.rows ∧ row.parseRunId = parseRunId := by
  rw [DocumentStore.sectionsOf, Table.mem_select, decide_eq_true_iff]

lemma find?_sectionPath {row : DocumentSection} (hrow : row ∈ store.sectionsOf parseRunId) :
    (store.sectionsOf parseRunId).find? (·.sectionPath = row.sectionPath) = some row := by
  refine Dict.find?_of_unique hrow (by simp) ?_
  intro other hother hpath
  rcases mem_sectionsOf.mp hrow with ⟨hmem, hrun⟩
  rcases mem_sectionsOf.mp hother with ⟨hmem', hrun'⟩
  exact store.sections.eq_of_clash hmem' hmem
    (Or.inr ⟨hrun'.trans hrun.symm, by simpa using hpath⟩)

/-- What is noted of a section is found by its identifier. -/
lemma lookup_sectionId {β : Type} (value : DocumentSection → β) {row : DocumentSection}
    (hrow : row ∈ store.sectionsOf parseRunId) :
    ((store.sectionsOf parseRunId).map fun s => (s.id, value s)).lookup row.id =
      some (value row) := by
  refine Dict.lookup_of_unique hrow ?_
  intro other hother hid
  exact store.sections.eq_of_clash (mem_sectionsOf.mp hother).1 (mem_sectionsOf.mp hrow).1
    (Or.inl hid)

/-- A citation names a segment as a chunk of it does, among the stored sections. -/
structure Segment.NamedBy (sections : List DocumentSection) (segment : Segment)
    (citation : AnchorFields) : Prop where
  locatorType : citation.locator.locatorType = segment.locatorType
  startPage : citation.locator.startPage = segment.startPage
  endPage : citation.locator.endPage = segment.endPage
  htmlAnchor : citation.locator.htmlAnchor = segment.htmlAnchor
  jsonPointer : citation.locator.jsonPointer = segment.jsonPointer
  sectionId : citation.sectionId = segment.sectionPath.bind fun path =>
    (sections.find? (·.sectionPath = path)).map (·.id)

variable {citation : CitationAnchorDraft} {text : Text} {metadata : BlobMetadata}
  {content : List UInt8} {segment : Segment} {start stop : Int}

/-- A citation of a page stands on it. -/
lemma placed_page (hlaid : p.Laid hash) (hstored : Stored store run.id earlier p)
    {laid : ParsedPage × Nat × Nat}
    (hmem : laid ∈ laidOut (fun page : ParsedPage => page.1.text) 3 0 p.pages)
    (hsegment : pageSegment laid = some segment)
    (hnamed : segment.NamedBy (store.sectionsOf run.id) citation.1) (hstart : segment.start ≤ start)
    (hlt : start < stop) (hstop : stop ≤ segment.stop) :
    locatorExists (store.contextOf citation version run text metadata content) = true ∧
      rangeIsInsideLocator (store.contextOf citation version run text metadata content) start stop =
        true := by
  rcases laid with ⟨page, first, last⟩
  have hpages := pageTexts_stored hstored
  have hspan := @spanOf_stored hash (store.contextOf citation version run text metadata content) p
    hlaid hpages page first last hmem
  have havailable : ∃ row ∈ store.pagesOf run.id, (row.pageNumber : Int) = page.1.pageNumber := by
    have hpage : page ∈ p.pages := by
      rw [← map_fst_laidOut (fun page : ParsedPage => page.1.text) 3 0 p.pages]
      exact List.mem_map.mpr ⟨_, hmem, rfl⟩
    have hstoredPage : (page.1.pageNumber, page.1.text) ∈
        (store.pagesOf run.id).map fun page => (page.pageNumber, page.text) := by
      rw [hpages]
      exact List.mem_map.mpr ⟨page, hpage, rfl⟩
    rcases List.mem_map.mp hstoredPage with ⟨row, hrow, heq⟩
    exact ⟨row, hrow, congrArg (fun pair : Nat × Text => (pair.1 : Int)) heq⟩
  simp only [pageSegment] at hsegment
  split at hsegment
  · cases hsegment
    have hsection : citation.1.sectionId = none := hnamed.sectionId
    constructor
    · simp only [locatorExists, DocumentStore.contextOf, hsection, hnamed.locatorType,
        hnamed.startPage, hnamed.endPage]
      have hone : ((page.1.pageNumber : Int) + 1 - page.1.pageNumber).toNat = 1 := by omega
      simpa [hone] using havailable
    · have hcitation : (store.contextOf citation version run text metadata content).citation =
        citation := rfl
      simp only [rangeIsInsideLocator, hcitation, hnamed.locatorType, hnamed.startPage,
        hnamed.endPage, hspan]
      rw [decide_eq_true_iff]
      exact ⟨hstart, hlt, hstop⟩
  · cases hsegment

lemma exists_row_of_named (hlaid : p.Laid hash) (hstored : Stored store run.id earlier p)
    {s : ParsedSection} (hs : s ∈ p.sections) (hsegment : sectionSegment s = some segment)
    (hnamed : segment.NamedBy (store.sectionsOf run.id) citation.1) :
    ∃ row ∈ store.sectionsOf run.id, citation.1.sectionId = some row.id ∧
      row.locatorType = citation.1.locator.locatorType ∧
      row.startOffset = some segment.start ∧ row.endOffset = some segment.stop ∧
      (citation.1.locator.locatorType = .htmlAnchorRange ∧
          citation.1.locator.htmlAnchor = some row.sectionPath ∨
        citation.1.locator.locatorType = .sectionRange ∨
        citation.1.locator.locatorType = .jsonPointer ∧
          citation.1.locator.jsonPointer = some row.sectionPath) := by
  rcases exists_section_stored hstored hs with ⟨row, hrow, hfields⟩
  rcases hlaid.sections s hs with ⟨-, -, htype, first, last, hfirst, hlast, hlt, -⟩
  have hpath : row.sectionPath = s.1.sectionPath := by rw [hfields]; rfl
  have hrowType : row.locatorType = s.1.locatorType := by rw [hfields]; rfl
  have hrowStart : row.startOffset = some (first : Int) := by rw [hfields, ← hfirst]; rfl
  have hrowStop : row.endOffset = some (last : Int) := by rw [hfields, ← hlast]; rfl
  simp only [sectionSegment, hfirst, hlast, Int.ofNat_lt, hlt, if_true, Option.some.injEq]
    at hsegment
  subst hsegment
  refine ⟨row, hrow, ?_, hrowType.trans hnamed.locatorType.symm, hrowStart, hrowStop, ?_⟩
  · rw [hnamed.sectionId]
    simp only [Option.bind_some, ← hpath, find?_sectionPath hrow, Option.map_some]
  · rw [hnamed.locatorType, hnamed.htmlAnchor, hnamed.jsonPointer, hpath]
    rcases htype with htype | htype | htype <;> simp [htype]

/-- A citation that names a stored section finds it. -/
lemma locatorExists_of_row {row : DocumentSection} (hrow : row ∈ store.sectionsOf run.id)
    (hsection : citation.1.sectionId = some row.id)
    (hrowType : row.locatorType = citation.1.locator.locatorType)
    (hpath : citation.1.locator.locatorType = .htmlAnchorRange ∧
        citation.1.locator.htmlAnchor = some row.sectionPath ∨
      citation.1.locator.locatorType = .sectionRange ∨
      citation.1.locator.locatorType = .jsonPointer ∧
        citation.1.locator.jsonPointer = some row.sectionPath) :
    locatorExists (store.contextOf citation version run text metadata content) = true := by
  have hpaths := lookup_sectionId DocumentSection.sectionPath hrow
  have havailable : ((some row.id).any fun id => !(((store.sectionsOf run.id).map
      (·.id)).insertionSort fun a b => a.str ≤ b.str).contains id) = false := by
    have hid : row.id ∈ (store.sectionsOf run.id).map (·.id) := List.mem_map.mpr ⟨row, hrow, rfl⟩
    simpa using hid
  have hofType : row.sectionPath ∈ DocumentStore.pathsOfType (store.sectionsOf run.id)
      citation.1.locator.locatorType := by
    refine (List.mem_insertionSort _).mpr (List.mem_map.mpr ⟨row, ?_, rfl⟩)
    exact List.mem_filter.mpr ⟨hrow, by simpa using hrowType⟩
  simp only [locatorExists, DocumentStore.contextOf, hsection, havailable]
  rcases hpath with ⟨htype, hanchor⟩ | htype | ⟨htype, hpointer⟩
  · rw [htype] at hofType
    simpa [htype, hanchor, hpaths] using hofType
  · simp [htype]
  · rw [htype] at hofType
    simpa [htype, hpointer, hpaths] using hofType

lemma rangeIsInsideLocator_of_row {row : DocumentSection} (hrow : row ∈ store.sectionsOf run.id)
    (hsection : citation.1.sectionId = some row.id) {first last : Int}
    (hfirst : row.startOffset = some first) (hlast : row.endOffset = some last)
    (htype : citation.1.locator.locatorType = .htmlAnchorRange ∨
      citation.1.locator.locatorType = .sectionRange ∨
      citation.1.locator.locatorType = .jsonPointer)
    (hstart : first ≤ start) (hlt : start < stop) (hstop : stop ≤ last) :
    rangeIsInsideLocator (store.contextOf citation version run text metadata content) start stop =
      true := by
  have hranges := lookup_sectionId (fun s => (s.startOffset, s.endOffset)) hrow
  rw [hfirst, hlast] at hranges
  have hinside : decide (first ≤ start ∧ start < stop ∧ stop ≤ last) = true :=
    decide_eq_true ⟨hstart, hlt, hstop⟩
  rcases htype with htype | htype | htype <;>
    simp only [rangeIsInsideLocator, DocumentStore.contextOf, htype, hsection, Option.bind_some,
      hranges, hinside]

/-- A citation of a section stands in it. -/
lemma placed_section (hlaid : p.Laid hash) (hstored : Stored store run.id earlier p)
    {s : ParsedSection} (hs : s ∈ p.sections) (hsegment : sectionSegment s = some segment)
    (hnamed : segment.NamedBy (store.sectionsOf run.id) citation.1) (hstart : segment.start ≤ start)
    (hlt : start < stop) (hstop : stop ≤ segment.stop) :
    locatorExists (store.contextOf citation version run text metadata content) = true ∧
      rangeIsInsideLocator (store.contextOf citation version run text metadata content) start stop =
        true := by
  rcases exists_row_of_named hlaid hstored hs hsegment hnamed with
    ⟨row, hrow, hsection, hrowType, hfirst, hlast, hpath⟩
  refine ⟨locatorExists_of_row hrow hsection hrowType hpath, ?_⟩
  refine rangeIsInsideLocator_of_row hrow hsection hfirst hlast ?_ hstart hlt hstop
  exact hpath.imp And.left (Or.imp_right And.left)

/-- **A citation of a segment stands in it.** -/
lemma placed_of_mem_segments (hlaid : p.Laid hash) (hstored : Stored store run.id earlier p)
    (hsegment : segment ∈ segments p)
    (hnamed : segment.NamedBy (store.sectionsOf run.id) citation.1) (hstart : segment.start ≤ start)
    (hlt : start < stop) (hstop : stop ≤ segment.stop) :
    locatorExists (store.contextOf citation version run text metadata content) = true ∧
      rangeIsInsideLocator (store.contextOf citation version run text metadata content) start stop =
        true := by
  unfold segments at hsegment
  split at hsegment
  · rcases List.mem_filterMap.mp hsegment with ⟨laid, hmem, hpage⟩
    exact placed_page hlaid hstored hmem hpage hnamed hstart hlt hstop
  split at hsegment
  · rcases List.mem_filterMap.mp hsegment with ⟨s, hs, hsection⟩
    exact placed_section hlaid hstored hs hsection hnamed hstart hlt hstop
  · rw [List.mem_singleton.mp hsegment] at hnamed
    have hsection : citation.1.sectionId = none := hnamed.sectionId
    have hlocator : citation.1.locator.locatorType = .textOffsetRange := hnamed.locatorType
    have hcitation : (store.contextOf citation version run text metadata content).citation =
      citation := rfl
    constructor
    · simp [locatorExists, hcitation, hsection, hlocator]
    · simp [rangeIsInsideLocator, hcitation, hlocator]

end Placed

/-! ## Completeness -/

/-- A row that was made for the citation of a chunk. -/
structure Cited (hash : PyJson.IdealHash) (store : DocumentStore) (run : DocumentParseRun)
    (version : DocumentVersion) (draft : DocumentChunkDraft) (row : CitationAnchor) : Prop where
  storedRun : store.parseRuns.selectOne (·.id = run.id) = some run
  storedVersion : store.versions.selectOne (·.id = version.id) = some version
  stored : row ∈ store.citations.rows
  made : ∃ checksum chunkId citation, run.canonicalTextChecksum = some checksum ∧
    chunkRow run version chunkId draft ∈ store.chunks.rows ∧
    citeChunk hash run version checksum (draftPageId (store.pagesOf run.id) draft)
      (draftSectionId (store.sectionsOf run.id) draft) chunkId draft = .ok citation ∧
    row = anchorRow row.id draft.1.sectionPath citation

/-- A version and its blob as a scope allows them. -/
structure Consistent (storage : BlobStorage) (store : DocumentStore) (version : DocumentVersion)
    (scope : CitationScope) : Prop where
  active : version.sourceVersionStatus = .active
  current : ∀ later ∈ store.versions.rows, later.supersedesDocumentVersionId = some version.id →
    scope.explicitDocumentVersionId = some version.id ∨
      ∃ asOf ∈ scope.researchAsOfTime, ∃ time ∈ later.publishedAt, asOf < time
  known : scope.strictHistorical = true → version.publishedAt ≠ none
  published : ∀ asOf ∈ scope.researchAsOfTime, ∃ time ∈ version.publishedAt, ¬ asOf < time
  member : ∀ snapshot ∈ scope.snapshotId, ⟨snapshot, version.id⟩ ∈ store.snapshotVersions.rows
  blob : ∃ content, storage.get version.storageUri = some content ∧
    storage.digest content = version.checksum ∧ content.length = version.byteSize ∧
    storage.metadata version.storageUri =
      some ⟨version.checksum, version.byteSize, version.mimeType⟩

lemma mem_of_earliest {times : List Instant} {time : Instant} (h : earliest times = some time) :
    time ∈ times := by
  induction times generalizing time with
  | nil => cases h
  | cons t ts ih =>
      simp only [earliest] at h
      split at h
      · cases h
        simp
      · next u hu =>
        split at h
        · cases h
          simp [ih hu]
        · cases h
          simp

lemma earliest_ne_none {times : List Instant} (h : times ≠ []) : earliest times ≠ none := by
  cases times with
  | nil => exact absurd rfl h
  | cons t ts =>
      simp only [earliest]
      split
      · simp
      · split <;> simp

section Complete

variable {citation : CitationAnchorDraft} {text : Text} {metadata : BlobMetadata}
  {content : List UInt8}

/-- A version that only later ones supersede is not superseded for the scope. -/
lemma supersededForScope_of_consistent (hconsistent : Consistent storage store version scope) :
    supersededForScope (store.contextOf citation version run text metadata content) scope =
      false := by
  by_cases hexplicit : scope.explicitDocumentVersionId = some version.id
  · simp [supersededForScope, DocumentStore.contextOf, hexplicit]
  · generalize hsuperseders : (store.versions.select
        (·.supersedesDocumentVersionId = some version.id)).insertionSort (fun a b =>
      toLex (a.versionNumber, a.id.str) ≤ toLex (b.versionNumber, b.id.str)) = superseders
    have hlater : ∀ later ∈ superseders, ∃ asOf ∈ scope.researchAsOfTime,
        ∃ time ∈ later.publishedAt, asOf < time := by
      intro later hmem
      rw [← hsuperseders, List.mem_insertionSort, Table.mem_select] at hmem
      exact (hconsistent.current later hmem.1 (by simpa using hmem.2)).resolve_left hexplicit
    have hstate : store.supersessionState version.id = (superseders.head?.map (·.id),
        earliest (superseders.filterMap (·.publishedAt)), superseders.any (·.publishedAt.isNone)) := by
      rw [DocumentStore.supersessionState, hsuperseders]
    simp only [supersededForScope, DocumentStore.contextOf, hstate]
    cases superseders with
    | nil => simp
    | cons first rest =>
        rcases hlater first (by simp) with ⟨asOf, hasOf, time, htime, -⟩
        have hknown : (first :: rest).any (·.publishedAt.isNone) = false := by
          rw [List.any_eq_false]
          intro later hmem
          rcases hlater later hmem with ⟨-, -, time, htime, -⟩
          simp [Option.mem_def.mp htime]
        have hsome : (first :: rest).filterMap (·.publishedAt) ≠ [] :=
          List.ne_nil_of_mem (List.mem_filterMap.mpr ⟨first, by simp, htime⟩)
        rcases Option.ne_none_iff_exists'.mp (earliest_ne_none hsome) with ⟨earliestTime, hearliest⟩
        rcases List.mem_filterMap.mp (mem_of_earliest hearliest) with ⟨later, hmem, hpublished⟩
        rcases hlater later hmem with ⟨asOf', hasOf', time', htime', hlt⟩
        rw [Option.mem_unique hasOf' hasOf, Option.mem_unique htime' hpublished] at hlt
        simp [hexplicit, hknown, hearliest, Option.mem_def.mp hasOf, hlt]

/-- The blob of a consistent version is valid, when it was read for the context. -/
lemma validBlob_of_consistent (hget : storage.get version.storageUri = some content)
    (hmetadata : storage.metadata version.storageUri = some metadata)
    (hconsistent : Consistent storage store version scope) :
    storage.validBlob (store.contextOf citation version run text metadata content) = true := by
  rcases hconsistent.blob with ⟨content', hget', hdigest, hlength, hmetadata'⟩
  rw [hget, Option.some.injEq] at hget'
  rw [hmetadata, Option.some.injEq] at hmetadata'
  subst hget' hmetadata'
  simp [BlobStorage.validBlob, DocumentStore.contextOf, hget, hmetadata, hdigest, hlength]

/-- **The context of a stored citation is the one that it was made in.** -/
lemma getCitationContext_of_cited {row : CitationAnchor}
    (hcited : Cited hash store run version draft row) (htext : run.canonicalText = some text)
    (hget : storage.get version.storageUri = some content)
    (hmetadata : storage.metadata version.storageUri = some metadata) :
    ∃ checksum chunkId citation, run.canonicalTextChecksum = some checksum ∧
      chunkRow run version chunkId draft ∈ store.chunks.rows ∧
      citeChunk hash run version checksum (draftPageId (store.pagesOf run.id) draft)
        (draftSectionId (store.sectionsOf run.id) draft) chunkId draft = .ok citation ∧
      store.getCitationContext storage row.id =
        .ok (some (store.contextOf citation version run text metadata content)) := by
  rcases hcited.made with ⟨checksum, chunkId, citation, hchecksum, hchunk, hcite, hrow⟩
  refine ⟨checksum, chunkId, citation, hchecksum, hchunk, hcite, ?_⟩
  have hfields := (fields_of_citeChunk hcite).1
  have hversionId : row.documentVersionId = version.id := by
    rw [hrow]
    exact congrArg (·.documentVersionId) hfields
  have hrunId : row.parseRunId = run.id := by
    rw [hrow]
    exact congrArg (·.parseRunId) hfields
  have hfound : store.citations.selectOne (·.id = row.id) = some row :=
    Table.selectOne_of_mem hcited.stored (by simp) fun r hr => Or.inl (by simpa using hr)
  have hread : Checked.validated AnchorFields.validate (DocumentStore.anchorOfRow row) =
      .ok citation := by
    rw [hrow, anchorOfRow_anchorRow]
    exact Checked.validated_ok.mpr rfl
  unfold DocumentStore.getCitationContext
  rw [hfound]
  dsimp only
  rw [hversionId, hrunId, hcited.storedVersion, hcited.storedRun]
  dsimp only
  rw [htext, hget, hmetadata, hread]
  rfl

lemma named_of_citeChunk {folding : Folding} {config : ChunkConfig} {segment : Segment}
    {range : Range} {index : Nat} {checksum : String} {pageId : Option Uuid} {chunkId : Uuid}
    (hdraft : draft.1 = draftFields folding hash p config segment range index)
    (hcite : citeChunk hash run version checksum pageId
      (draftSectionId (store.sectionsOf run.id) draft) chunkId draft = .ok citation) :
    segment.NamedBy (store.sectionsOf run.id) citation.1 := by
  have hfields := (fields_of_citeChunk hcite).1
  have hlocator : citation.1.locator =
      (draftFields folding hash p config segment range index).locator := by
    rw [hfields, ← hdraft]
    rfl
  refine ⟨?_, ?_, ?_, ?_, ?_, ?_⟩
  · rw [hlocator]
    rfl
  · rw [hlocator]
    rfl
  · rw [hlocator]
    rfl
  · rw [hlocator]
    rfl
  · rw [hlocator]
    rfl
  · have hpath : draft.1.sectionPath = segment.sectionPath := by
      rw [hdraft]
      rfl
    rw [hfields, ← hpath]
    rfl

/-- The excerpt of a chunk is found where the chunk was cut, and its locator exists. -/
lemma excerpt_of_cited {folding : Folding} {config : ChunkConfig} {fuel : Nat}
    {earlier : List DocumentSection} {drafts : List DocumentChunkDraft} {checksum : String}
    {pageId : Option Uuid} {chunkId : Uuid} (hlaid : p.Laid hash)
    (hstored : Stored store run.id earlier p)
    (hchunk : chunk folding hash p config fuel = .ok drafts) (hdraft : draft ∈ drafts)
    (hrow : chunkRow run version chunkId draft ∈ store.chunks.rows)
    (hcite : citeChunk hash run version checksum pageId
      (draftSectionId (store.sectionsOf run.id) draft) chunkId draft = .ok citation) :
    locatorExists (store.contextOf citation version run p.canonicalText metadata content) = true ∧
      excerptMatches hash (store.contextOf citation version run p.canonicalText metadata content) =
        true := by
  have hnonempty : p.canonicalText ≠ [] := by
    intro hempty
    simp only [chunk, hempty, if_true, Except.ok.injEq] at hchunk
    simp [← hchunk] at hdraft
  rcases exists_piece_of_mem_chunk hchunk hdraft with ⟨⟨segment, range⟩, hpiece, index, hfields⟩
  rcases fits_of_mem_pieces hlaid hnonempty hpiece with ⟨hsound, hfits⟩
  have hsegment := (mem_pieces.mp hpiece).1
  have hnamed := named_of_citeChunk hfields hcite
  have hcitation := (fields_of_citeChunk hcite).1
  have hwithin := length_slice hsound.start hsound.lt.le hsound.stop
  have hstart := hfits.start
  have hlt := hfits.lt
  have hstop := hfits.stop
  dsimp only at hsegment hnamed hwithin hstart hlt hstop
  rcases @placed_of_mem_segments hash store run version p earlier citation p.canonicalText metadata
    content segment (segment.start + range.start) (segment.start + range.stop) hlaid hstored hsegment
    hnamed (by omega) (by omega) (by omega) with ⟨hexists, hinside⟩
  refine ⟨hexists, (excerptMatches_iff ?_ ?_).mpr ⟨hinside, ?_, ?_, ?_⟩⟩ <;>
    simp only [DocumentStore.contextOf, hcitation, citationFields]
  · rw [hfields]
    rfl
  · rw [hfields]
    rfl
  · rw [hfields]
    rfl
  · have hfound : store.chunks.selectOne (·.id = chunkId) =
        some (chunkRow run version chunkId draft) :=
      Table.selectOne_of_mem hrow (by simp [chunkRow]) fun r hr =>
        Or.inl (by simpa [chunkRow] using hr)
    simp [hfound, chunkRow]

/-- **The citation of a chunk of a stored document is valid.** -/
lemma verify_of_cited {folding : Folding} {config : ChunkConfig} {fuel : Nat}
    {earlier : List DocumentSection} {drafts : List DocumentChunkDraft} {row : CitationAnchor}
    (hlaid : p.Laid hash) (hstored : Stored store run.id earlier p)
    (hchunk : chunk folding hash p config fuel = .ok drafts) (hdraft : draft ∈ drafts)
    (hcited : Cited hash store run version draft row)
    (hconsistent : Consistent storage store version scope) :
    (store.verify hash storage row.id scope).map (·.status) = .ok .valid := by
  rcases hstored.run with ⟨run', hrun, -, htext, hchecksum, -, -⟩
  rw [hcited.storedRun, Option.some.injEq] at hrun
  subst hrun
  rcases hconsistent.blob with ⟨content, hget, -, -, hmetadata⟩
  rcases getCitationContext_of_cited hcited htext hget hmetadata with
    ⟨checksum, chunkId, citation, hchecksum', hrow, hcite, hcontext⟩
  rcases fields_of_citeChunk hcite with ⟨hcitation, hlength⟩
  rcases @excerpt_of_cited hash store run version draft p citation
    ⟨version.checksum, version.byteSize, version.mimeType⟩ content folding config fuel earlier drafts
    checksum _ chunkId hlaid hstored hchunk hdraft hrow hcite with ⟨hexists, hmatches⟩
  rw [DocumentStore.verify, hcontext]
  refine congrArg Except.ok (BlobStorage.verify_valid.mpr ⟨?_, ?_, ?_, ?_, ?_, ?_, ?_,
    supersededForScope_of_consistent hconsistent, hconsistent.known, ?_,
    validBlob_of_consistent hget hmetadata hconsistent, hexists, ?_, hmatches⟩)
  · exact congrArg (·.documentVersionId) hcitation
  · exact congrArg (·.documentChecksum) hcitation
  · refine locatorChecksumMatches_of_fields ?_ ?_ ?_ <;>
      simp only [DocumentStore.contextOf, hcitation]
    · rfl
    · exact hlength
  · exact congrArg (·.parserVersion) hcitation
  · exact congrArg (·.sanitizerVersion) hcitation
  · intro _ snapshot hsnapshot
    refine (List.mem_insertionSort _).mpr (List.mem_map.mpr ⟨⟨snapshot, version.id⟩, ?_, rfl⟩)
    exact Table.mem_select.mpr ⟨hconsistent.member snapshot hsnapshot, by simp⟩
  · change version.sourceVersionStatus ≠ .withdrawn
    rw [hconsistent.active]
    simp
  · intro asOf hasOf time htime
    rcases hconsistent.published asOf hasOf with ⟨time', htime', hle⟩
    rw [Option.mem_unique htime htime']
    exact hle
  · change hash.digest p.canonicalText = citation.1.canonicalTextChecksum
    rw [hchecksum, Option.some.injEq] at hchecksum'
    rw [hcitation, ← hlaid.checksum, hchecksum']
    rfl

end Complete

/-- The citations that `add_chunks_and_citations` adds are made of the chunks that it adds. -/
theorem cited_of_adds {store store' : DocumentStore} {parseRunId documentVersionId : Uuid}
    {drafts : List DocumentChunkDraft} {newIds : Nat → Uuid × Uuid} {ids : List Uuid}
    (hnone : store.chunksOf parseRunId = [])
    (h : addChunksAndCitations hash parseRunId documentVersionId drafts newIds store =
      .ok (ids, store')) {draft : DocumentChunkDraft} (hdraft : draft ∈ drafts) :
    ∃ run version row, run.id = parseRunId ∧ version.id = documentVersionId ∧
      Cited hash store' run version draft row := by
  rcases addChunksAndCitations_ok h with
    ⟨run, version, checksum, hrun, -, hversion, hchecksum, ⟨hsome, -⟩ | ⟨-, hadded⟩⟩
  · exact absurd hnone hsome
  · have hrunId : run.id = parseRunId := by simpa using (Table.mem_of_selectOne hrun).2
    have hversionId : version.id = documentVersionId := by
      simpa using (Table.mem_of_selectOne hversion).2
    rcases addDrafts_ok hadded with ⟨hstore, hchunks, anchors, hanchors, hrel⟩
    rw [← List.zipIdx_map_fst 0 drafts] at hdraft
    rcases List.mem_map.mp hdraft with ⟨item, hitem, rfl⟩
    have hmem : (item.1, newIds item.2) ∈ drafts.zipIdx.map fun draft => (draft.1, newIds draft.2) :=
      List.mem_map.mpr ⟨item, hitem, rfl⟩
    rcases Checked.exists_of_forall₂ hrel hmem with ⟨row, hrow, citation, hcite, heq⟩
    refine ⟨run, version, row, hrunId, hversionId, ?_, ?_, ?_, checksum, (newIds item.2).1, citation,
      hchecksum, ?_, ?_, ?_⟩
    · rw [hstore, hrunId]
      exact hrun
    · rw [hstore, hversionId]
      exact hversion
    · simp [hanchors, hrow]
    · rw [hchunks]
      exact List.mem_append_right _ (List.mem_map.mpr ⟨_, hmem, rfl⟩)
    · rw [hstore, hrunId]
      exact hcite
    · have hid : row.id = (newIds item.2).2 := congrArg CitationAnchor.id heq
      rw [hid]
      exact heq

/-! ## The law of the verifier -/

/-- **What the verifier accepts.**  Of a document from a parser that is stored, the citation of
every chunk is valid; and a valid citation with offsets quotes its source. -/
theorem verify_law (lib : Libraries) (storage : BlobStorage) :
    (∀ (parser : DocumentParser) content parserConfig p, parser.parse lib content parserConfig = .ok p →
      ∀ store run earlier, Stored store run.id earlier p →
      ∀ config fuel drafts, chunk lib.folding lib.hash p config fuel = .ok drafts →
      ∀ draft ∈ drafts, ∀ version row, Cited lib.hash store run version draft row →
      ∀ scope, Consistent storage store version scope →
        (store.verify lib.hash storage row.id scope).map (·.status) = .ok .valid) ∧
    ∀ citationId scope context,
      (storage.verify lib.hash citationId scope context).status = .valid →
      ∃ source, context = some source ∧
        ∀ start ∈ source.citation.1.locator.startOffset,
        ∀ stop ∈ source.citation.1.locator.endOffset, source.Quotes scope start stop := by
  constructor
  · intro parser content parserConfig p hparse store run earlier hstored config fuel drafts hchunk
      draft hdraft version row hcited scope hconsistent
    have hlaid := DocumentParser.laid_of_parse hparse
    exact verify_of_cited hlaid hstored hchunk hdraft hcited hconsistent
  · intro citationId scope context hvalid
    rcases context with _ | source
    · cases hvalid
    · refine ⟨source, rfl, ?_⟩
      intro start hstart stop hstop
      exact BlobStorage.quotes_of_valid hvalid hstart hstop

/-- A storage with one blob, whose digest is its text. -/
def wordStorage : BlobStorage where
  metadata uri := if uri = "blob" then some ⟨"Net", 3, "text/plain"⟩ else none
  get uri := if uri = "blob" then some [78, 101, 116] else none
  digest bytes := String.ofList (bytes.map fun byte => Char.ofNat byte.toNat)

/-- The scope of a time. -/
def asOfScope (time : Instant) (strictHistorical : Bool) : CitationScope where
  researchAsOfTime := some time
  strictHistorical := strictHistorical
  snapshotId := none
  explicitDocumentVersionId := none
  exact_scope := by simp

/-- A word is chunked, and its chunk can be cited. -/
lemma exists_citation_word : ∃ drafts draft citation,
    chunk asciiFolding default (plainDocument [78, 101, 116]) .default 0 = .ok drafts ∧
    draft ∈ drafts ∧ draft.1.locator.locatorType = .textOffsetRange ∧
    citeChunk default plainRun plainVersion "Net" none none 7 draft = .ok citation := by
  have htext : (plainDocument [78, 101, 116]).canonicalText = "Net".toList := by decide +kernel
  have hnonempty : (plainDocument [78, 101, 116]).canonicalText ≠ [] := by simp [htext]
  have hsegments : segments (plainDocument [78, 101, 116]) = [wholeSegment "Net".toList] := by
    decide +kernel
  have hlaid : (plainDocument [78, 101, 116]).Laid default := laid_plainText _ _ _
  have hcuts : ranges 0 (slice "Net".toList (wholeSegment "Net".toList).start
      (wholeSegment "Net".toList).stop) .default = some [⟨0, 3, false⟩] := by decide +kernel
  have hcut : Cut (plainDocument [78, 101, 116]) .default 0 := by
    intro segment hsegment
    rw [hsegments, List.mem_singleton] at hsegment
    rw [hsegment, htext, hcuts]
    rfl
  have hpiece : (wholeSegment "Net".toList, ⟨0, 3, false⟩) ∈
      pieces (plainDocument [78, 101, 116]) .default 0 := by
    refine mem_pieces.mpr ⟨by simp [hsegments], [⟨0, 3, false⟩], ?_, by simp⟩
    rw [htext]
    exact hcuts
  have hchunk : ∃ drafts, chunk asciiFolding default (plainDocument [78, 101, 116]) .default 0 =
      .ok drafts := by
    refine (exists_chunk_iff hnonempty hcut).mpr ?_
    intro piece hmem
    rcases fits_of_mem_pieces hlaid hnonempty hmem with ⟨hsound, hfits⟩
    rcases mem_pieces.mp hmem with ⟨hsegment, cuts, hcuts', hrange⟩
    rw [hsegments, List.mem_singleton] at hsegment
    rw [hsegment, htext, hcuts, Option.some.injEq] at hcuts'
    rw [← hcuts', List.mem_singleton] at hrange
    refine (validate_draftFields_ok asciiFolding default hsound hfits 0).mpr ?_
    rw [hsegment, hrange, htext]
    decide +kernel
  rcases hchunk with ⟨drafts, hchunk⟩
  rcases exists_mem_chunk_of_piece hnonempty hchunk hpiece with ⟨draft, hdraft, index, hfields⟩
  rcases fits_of_mem_pieces hlaid hnonempty hpiece with ⟨hsound, hfits⟩
  have hshort : draft.1.text.length ≤ 1000 := by
    rw [hfields, text_draftFields asciiFolding default hsound hfits, htext]
    decide +kernel
  have hcitable : ∃ citation,
      citeChunk default plainRun plainVersion "Net" none none 7 draft = .ok citation :=
    (citeChunk_ok asciiFolding default plainVersion "Net" none none 7 (by decide +kernel)
      (by decide +kernel) hsound hfits hfields).mpr hshort
  rcases hcitable with ⟨citation, hcite⟩
  refine ⟨drafts, draft, citation, hchunk, hdraft, ?_, hcite⟩
  rw [hfields]
  rfl

/-- The citation of a stored word is valid at the time that the word was published. -/
theorem verify_law_word : ∃ store drafts draft row,
    Stored store 1 [] (plainDocument [78, 101, 116]) ∧
    chunk asciiFolding default (plainDocument [78, 101, 116]) .default 0 = .ok drafts ∧
    draft ∈ drafts ∧ Cited default store plainRun plainVersion draft row ∧
    Consistent wordStorage store plainVersion (asOfScope filingTime true) ∧
    (store.verify default wordStorage row.id (asOfScope filingTime true)).map (·.status) =
      .ok .valid := by
  rcases exists_citation_word with ⟨drafts, draft, citation, hchunk, hdraft, htype, hcite⟩
  have hfields := (fields_of_citeChunk hcite).1
  have hcheck : Schema.check (anchorRow 8 draft.1.sectionPath citation) := by
    have hvalid := citation.2
    rw [AnchorFields.validate, Checked.unit_bind_ok] at hvalid
    have hlocator : citation.1.locator.locatorType = .textOffsetRange := by
      rw [hfields]
      exact htype
    refine ⟨(CitationFields.validate_ok.mp hvalid.1).2.1, ?_, ?_⟩ <;> simp [anchorRow, hlocator]
  let store : DocumentStore := {
    versions := .single plainVersion trivial
    parseRuns := .single plainRun trivial
    pages := ∅
    sections := ∅
    chunks := .single (chunkRow plainRun plainVersion 7 draft) trivial
    citations := .single (anchorRow 8 draft.1.sectionPath citation) hcheck
    snapshotVersions := ∅ }
  have htext : (plainDocument [78, 101, 116]).canonicalText = "Net".toList := by decide +kernel
  have hpages : (plainDocument [78, 101, 116]).pages = [] := by
    rw [← List.length_eq_zero_iff]
    decide +kernel
  have hsections : (plainDocument [78, 101, 116]).sections = [] := by
    rw [← List.length_eq_zero_iff]
    decide +kernel
  have hstored : Stored store 1 [] (plainDocument [78, 101, 116]) := by
    refine ⟨⟨plainRun, rfl, by decide, ?_, ?_, ?_, ?_⟩, ?_, [], rfl, ?_⟩
    · rw [htext]
      rfl
    · decide +kernel
    · decide +kernel
    · decide +kernel
    · rw [hpages]
      rfl
    · rw [sortedSections, hsections]
      exact .nil
  have hcited : Cited default store plainRun plainVersion draft
      (anchorRow 8 draft.1.sectionPath citation) := by
    refine ⟨rfl, rfl, List.mem_singleton_self _, "Net", 7, citation, rfl, List.mem_singleton_self _,
      ?_, rfl⟩
    have hpage : draftPageId (store.pagesOf plainRun.id) draft = none := by
      have hnone : store.pagesOf plainRun.id = [] := rfl
      simp [draftPageId, hnone]
    have hsection : draftSectionId (store.sectionsOf plainRun.id) draft = none := by
      have hnone : store.sectionsOf plainRun.id = [] := rfl
      simp [draftSectionId, hnone]
    rw [hpage, hsection]
    exact hcite
  have hconsistent : Consistent wordStorage store plainVersion (asOfScope filingTime true) := by
    refine ⟨rfl, ?_, by simp [plainVersion], ?_, by simp [asOfScope], [78, 101, 116], rfl,
      by decide +kernel, rfl, rfl⟩
    · intro later hlater hsupersedes
      rw [List.mem_singleton.mp hlater] at hsupersedes
      cases hsupersedes
    · rintro asOf ⟨⟩
      exact ⟨filingTime, rfl, by decide⟩
  refine ⟨store, drafts, draft, _, hstored, hchunk, hdraft, hcited, hconsistent, ?_⟩
  exact (verify_law plainLibraries wordStorage).1 .text [78, 101, 116] .default _ rfl store plainRun []
    hstored .default 0 drafts hchunk draft hdraft plainVersion _ hcited _ hconsistent

/-- A citation of the first three characters, under the name of a section. -/
def sectionCitation : CitationFields where
  documentVersionId := 2
  parseRunId := 1
  pageId := none
  sectionId := some 9
  chunkId := none
  locator := ⟨.textOffsetRange, none, none, none, none, some 0, some 3⟩
  excerpt := "Net".toList
  excerptChecksum := "Net"
  canonicalTextChecksum := "Net"
  documentChecksum := "Net"
  citationVersion := "citation-v1"
  parserVersion := "text-parser-v1"
  sanitizerVersion := sanitizerVersion

lemma validate_sectionCitation : AnchorFields.validate
    { sectionCitation with locatorChecksum := locatorChecksum default sectionCitation } =
      .ok () := by
  rw [AnchorFields.validate, Checked.unit_bind_ok]
  constructor
  · decide +kernel
  · rfl

/-- It is read from a document of unknown date, and the section has only its first character. -/
def undatedContext : CitationContext where
  citation := ⟨_, validate_sectionCitation⟩
  documentVersion := { plainVersion with publishedAt := none }
  canonicalSourceText := "Net".toList
  blobBytes := [78, 101, 116]
  blobMimeType := "text/plain"
  blobChecksum := "Net"
  blobSize := 3
  versionInSnapshot := none
  snapshotIds := []
  supersededByDocumentVersionId := none
  supersededAt := none
  supersessionTimeUnknown := false
  availablePageNumbers := []
  pageTexts := []
  availableSectionIds := [9]
  sectionPaths := [(9, "s")]
  sectionRanges := [(9, some 0, some 1)]
  availableHtmlAnchors := []
  availableJsonPointers := []
  chunkText := none
  parserVersion := "text-parser-v1"
  sanitizerVersion := sanitizerVersion

/-- Outside of a strict scope a citation may be valid whose source was published at no known time,
and a locator of plain text may leave the section that the citation names. -/
theorem valid_undatedContext :
    (wordStorage.verify default 8 (asOfScope filingTime false) (some undatedContext)).status =
      .valid ∧
    (¬ ∃ time ∈ undatedContext.documentVersion.publishedAt, ¬ filingTime < time) ∧
    ∃ id first last start stop, undatedContext.citation.1.sectionId = some id ∧
      undatedContext.sectionRanges.lookup id = some (some first, some last) ∧
      undatedContext.citation.1.locator.startOffset = some start ∧
      undatedContext.citation.1.locator.endOffset = some stop ∧ last < stop := by
  refine ⟨BlobStorage.verify_valid.mpr ?_, ?_, 9, 0, 1, 0, 3, rfl, rfl, rfl, rfl, by decide⟩
  · refine ⟨rfl, rfl, ?_, rfl, rfl, ?_, by decide, rfl, ?_, ?_, by decide +kernel,
      by decide +kernel, by decide +kernel, ?_⟩
    · refine locatorChecksumMatches_of_fields (by decide +kernel) ?_ rfl
      rintro start ⟨⟩ stop ⟨⟩
      decide +kernel
    · rintro - snapshot ⟨⟩
    · rintro ⟨⟩
    · rintro asOf - time ⟨⟩
    · refine (excerptMatches_iff rfl rfl).mpr ⟨rfl, by decide +kernel, by decide +kernel, ?_⟩
      rintro chunk ⟨⟩
  · rintro ⟨time, ⟨⟩, -⟩

end StockResearch.Documents
