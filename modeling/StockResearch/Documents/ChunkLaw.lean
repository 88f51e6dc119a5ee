import StockResearch.Documents.Citations
import StockResearch.Documents.Parsers

/-!
# Which documents can be chunked and cited

A document that a parser has made is cut into pieces, each piece makes a chunk and each chunk a
citation.  The limits of the three models do not agree: a chunk may have 1600 characters and an
excerpt only 1000, the normal form of a chunk has at least one character and white space has none,
and a section path may be twice as long as an anchor.

**`chunkedAndCited_iff`**: of a document from a parser, cut by a loop that terminates, all chunks and
all citations can be made exactly when it is `Quotable`: every cut of a page, of a section or of the
whole text is at most 1000 characters long, has a normal form of 1 to 1600 characters, and no anchor
has more than 256.
-/

namespace StockResearch.Documents

open PyText Slice

/-! ## Segments of a document that a parser has laid out -/

/-- What a segment of such a document is like. -/
structure Segment.Sound (p : ParsedDocument) (segment : Segment) : Prop where
  start : 0 ≤ segment.start
  lt : segment.start < segment.stop
  stop : segment.stop ≤ p.canonicalText.length
  path : ∀ path ∈ segment.sectionPath, path.length ≤ 512
  pointer : ∀ pointer ∈ segment.jsonPointer, pointer.length ≤ 512
  pages : segment.endPage = segment.startPage
  page : ∀ n ∈ segment.startPage, 1 ≤ n
  pdf : segment.locatorType = .pdfPageRange → segment.startPage ≠ none
  html : segment.locatorType = .htmlAnchorRange → segment.htmlAnchor ≠ none
  json : segment.locatorType = .jsonPointer → segment.jsonPointer ≠ none

variable {hash : PyJson.IdealHash} {p : ParsedDocument}

lemma pageNumber_pos (page : ParsedPage) : 1 ≤ page.1.pageNumber := by
  have hvalid := page.2
  simp only [PageFields.validate, Checked.check_bind_ok, Checked.check_ok] at hvalid
  omega

lemma length_sectionPath (s : ParsedSection) : s.1.sectionPath.length ≤ 512 := by
  have hvalid := s.2
  simp only [SectionFields.validate, Checked.check_bind_ok] at hvalid
  omega

/-- A page is the slice of the text between its bounds. -/
lemma slice_page (hlaid : p.Laid hash) {page : ParsedPage} {start stop : Nat}
    (hmem : (page, start, stop) ∈ laidOut (fun page : ParsedPage => page.1.text) 3 0 p.pages) :
    slice p.canonicalText start stop = page.1.text ∧ stop = start + page.1.text.length ∧
      stop ≤ p.canonicalText.length := by
  have hpages : p.pages ≠ [] := by
    intro hnil
    simp [hnil, laidOut] at hmem
  rw [hlaid.pages hpages, joinPages]
  exact @slice_of_mem_laidOut _ _ (fun page : ParsedPage => page.1.text) pageSeparator p.pages page
    start stop hmem

lemma sound_pageSegment (hlaid : p.Laid hash) {laid : ParsedPage × Nat × Nat} {segment : Segment}
    (hmem : laid ∈ laidOut (fun page : ParsedPage => page.1.text) 3 0 p.pages)
    (hsegment : pageSegment laid = some segment) : segment.Sound p := by
  rcases laid with ⟨page, start, stop⟩
  have hspan := slice_page hlaid hmem
  have hpositive := pageNumber_pos page
  simp only [pageSegment] at hsegment
  split at hsegment
  · cases hsegment
    refine ⟨by simp, by simpa, by simpa using hspan.2.2, by simp, by simp, rfl, ?_, by simp,
      by simp, by simp⟩
    simp only [Option.mem_def, Option.some.injEq, forall_eq']
    omega
  · cases hsegment

lemma sound_sectionSegment (hlaid : p.Laid hash) {s : ParsedSection} {segment : Segment}
    (hs : s ∈ p.sections) (hsegment : sectionSegment s = some segment) : segment.Sound p := by
  rcases hlaid.sections s hs with ⟨hfirst, hlast, htype, start, stop, hstart, hstop, hlt, hle⟩
  have hpath := length_sectionPath s
  simp only [sectionSegment, hstart, hstop] at hsegment
  split at hsegment
  · cases hsegment
    refine ⟨by simp, by simpa, by simpa, by simpa, ?_, by simp [hfirst, hlast], by simp [hfirst],
      ?_, by simp, by simp⟩
    · simp only [Option.mem_def]
      split <;> simp [hpath]
    · rcases htype with htype | htype | htype <;> simp [htype]
  · cases hsegment

lemma sound_of_mem_segments (hlaid : p.Laid hash) (htext : p.canonicalText ≠ [])
    {segment : Segment} (h : segment ∈ segments p) : segment.Sound p := by
  unfold segments at h
  split at h
  · rcases List.mem_filterMap.mp h with ⟨laid, hmem, hsegment⟩
    exact sound_pageSegment hlaid hmem hsegment
  split at h
  · rcases List.mem_filterMap.mp h with ⟨s, hs, hsegment⟩
    exact sound_sectionSegment hlaid hs hsegment
  · rw [List.mem_singleton.mp h]
    have hpositive := List.length_pos_of_ne_nil htext
    exact ⟨le_rfl, by simpa [wholeSegment], le_rfl, by simp [wholeSegment], by simp [wholeSegment],
      rfl, by simp [wholeSegment], by simp [wholeSegment], by simp [wholeSegment],
      by simp [wholeSegment]⟩

/-! ## Drafts and citations of a piece -/

section Piece

variable (folding : Folding) (hash : PyJson.IdealHash) {config : ChunkConfig} {segment : Segment}
  {range : Range}

lemma text_draftFields (hsound : segment.Sound p)
    (hfits : range.Fits (slice p.canonicalText segment.start segment.stop) config) (index : Nat) :
    (draftFields folding hash p config segment range index).text =
      slice (slice p.canonicalText segment.start segment.stop) range.start range.stop := by
  have hlength := length_slice hsound.start hsound.lt.le hsound.stop
  have hstop := hfits.stop
  rw [slice_slice hsound.start hfits.start hfits.lt.le (by omega) hsound.stop]
  rfl

lemma length_text_draftFields (hsound : segment.Sound p)
    (hfits : range.Fits (slice p.canonicalText segment.start segment.stop) config) (index : Nat) :
    ((draftFields folding hash p config segment range index).text.length : Int) =
      range.stop - range.start := by
  rw [text_draftFields folding hash hsound hfits]
  exact length_slice hfits.start hfits.lt.le hfits.stop

/-- The locator of a draft is in order, up to the length of its anchor. -/
lemma validateLimits_draftFields (hsound : segment.Sound p)
    (hfits : range.Fits (slice p.canonicalText segment.start segment.stop) config) (index : Nat) :
    (draftFields folding hash p config segment range index).locator.validateLimits = .ok () ↔
      ∀ anchor ∈ segment.htmlAnchor, anchor.length ≤ 256 := by
  have hstart := hsound.start
  have hrange := hfits.start
  have hlt := hfits.lt
  have hpages : ∀ n ∈ segment.endPage, 1 ≤ n := by
    rw [hsound.pages]
    exact hsound.page
  have hpointer : ∀ pointer ∈ segment.jsonPointer, pointer.length ≤ 1000 := by
    intro pointer hpointer
    have := hsound.pointer pointer hpointer
    omega
  rw [Locator.validateLimits_ok]
  constructor
  · rintro ⟨-, -, hanchor, -⟩
    exact hanchor
  · intro hanchor
    refine ⟨hsound.page, hpages, hanchor, hpointer, ?_, ?_⟩
    · simp only [draftFields, Option.mem_def, Option.some.injEq, forall_eq']
      omega
    · simp only [draftFields, Option.mem_def, Option.some.injEq, forall_eq']
      omega

lemma validateRanges_draftFields (hsound : segment.Sound p)
    (hfits : range.Fits (slice p.canonicalText segment.start segment.stop) config) (index : Nat)
    (anchorMissing pointerMissing : String) :
    (draftFields folding hash p config segment range index).locator.validateRanges anchorMissing
      pointerMissing = .ok () := by
  have hlt := hfits.lt
  rw [Locator.validateRanges_ok, validateLocatorRanges_ok]
  refine ⟨⟨?_, ?_, rfl, ?_, hsound.pdf, by simp [draftFields]⟩, hsound.html, hsound.json⟩
  · simp [draftFields, hsound.pages]
  · intro s hs e he
    simp only [draftFields, hsound.pages] at hs he
    rw [Option.mem_unique hs he]
  · simp only [draftFields, Option.mem_def, Option.some.injEq, forall_eq']
    omega

/-- What can go wrong with a draft: its anchor is too long, or its normal form is empty or too
long. -/
lemma validate_draftFields_ok (hsound : segment.Sound p)
    (hfits : range.Fits (slice p.canonicalText segment.start segment.stop) config) (index : Nat) :
    (draftFields folding hash p config segment range index).validate = .ok () ↔
      (∀ anchor ∈ segment.htmlAnchor, anchor.length ≤ 256) ∧
      1 ≤ (folding.normalize (slice (slice p.canonicalText segment.start segment.stop)
        range.start range.stop)).length ∧
      (folding.normalize (slice (slice p.canonicalText segment.start segment.stop)
        range.start range.stop)).length ≤ 1600 := by
  have hlength := length_text_draftFields folding hash hsound hfits index
  have hlt := hfits.lt
  have hshort := hfits.short
  have hmaximum := config.maximum_ok.2
  have hnormal : (draftFields folding hash p config segment range index).normalizedText =
      folding.normalize (slice (slice p.canonicalText segment.start segment.stop)
        range.start range.stop) := by
    rw [← text_draftFields folding hash hsound hfits index]
    rfl
  rw [ChunkFields.validate_ok, validateLimits_draftFields folding hash hsound hfits,
    hnormal]
  constructor
  · rintro ⟨-, -, hnormal, -, hanchor, -⟩
    exact ⟨hanchor, hnormal⟩
  · rintro ⟨hanchor, hnormal⟩
    refine ⟨config.version_ok, ⟨by omega, by omega⟩, hnormal, hsound.path, hanchor, ?_⟩
    exact validateRanges_draftFields folding hash hsound hfits index _ _

lemma isVersion_citation : isVersion "citation-v1" = true := by decide +kernel

/-- **A chunk can be cited exactly when it is no longer than an excerpt.** -/
lemma citeChunk_ok {run : DocumentParseRun} (version : DocumentVersion)
    (canonicalTextChecksum : String) (pageId sectionId : Option Uuid) (chunkId : Uuid)
    (hparser : isVersion run.parserVersion = true)
    (hsanitizer : isVersion run.sanitizerVersion = true) (hsound : segment.Sound p)
    (hfits : range.Fits (slice p.canonicalText segment.start segment.stop) config) {index : Nat}
    {draft : DocumentChunkDraft}
    (hdraft : draft.1 = draftFields folding hash p config segment range index) :
    (∃ citation, citeChunk hash run version canonicalTextChecksum pageId sectionId chunkId draft =
      .ok citation) ↔ draft.1.text.length ≤ 1000 := by
  have hvalid := ChunkFields.validate_ok.mp draft.2
  have hlength := length_text_draftFields folding hash hsound hfits index
  have hrequest : (citationFields hash run version canonicalTextChecksum pageId sectionId chunkId
      draft).validate = .ok () ↔ draft.1.text.length ≤ 1000 := by
    rw [CitationFields.validate_ok]
    constructor
    · rintro ⟨-, hexcerpt, -⟩
      exact hexcerpt.2
    · intro hexcerpt
      exact ⟨hvalid.2.2.2.2.1, ⟨hvalid.2.1.1, hexcerpt⟩, isVersion_citation, hparser, hsanitizer⟩
  rw [← hrequest, ← Checked.exists_validated]
  constructor
  · rintro ⟨citation, hcite⟩
    rcases Checked.bind_ok.mp hcite with ⟨request, hvalidated, -⟩
    exact ⟨request, hvalidated⟩
  · rintro ⟨request, hvalidated⟩
    have hfields := Checked.validated_ok.mp hvalidated
    have hanchor : AnchorFields.validate
        { request.1 with locatorChecksum := locatorChecksum hash request.1 } = .ok () := by
      rw [AnchorFields.validate, Checked.unit_bind_ok]
      refine ⟨request.2, ?_⟩
      rw [hfields]
      change draft.1.locator.validateRanges _ _ = _
      rw [hdraft]
      exact validateRanges_draftFields folding hash hsound hfits index _ _
    rcases Checked.exists_validated.mpr hanchor with ⟨citation, hcitation⟩
    refine ⟨citation, Checked.bind_ok.mpr ⟨request, hvalidated, ?_⟩⟩
    rw [createCitation, Checked.check_bind_ok, Checked.check_bind_ok]
    refine ⟨?_, ?_, hcitation⟩
    · rw [hfields]
      simp [citationFields]
    · rw [hfields]
      simp only [citationFields, hdraft, hlength, not_exists, not_and, not_not]
      rintro s ⟨⟩ e ⟨⟩
      omega

end Piece

/-! ## Documents that can be chunked and cited -/

/-- The texts that a document is cut from: its pages, its sections, or the whole. -/
def ParsedDocument.units (p : ParsedDocument) : List Text :=
  if p.pages ≠ [] then p.pages.map (·.1.text)
  else if p.sections ≠ [] then p.sections.map fun s =>
    slice p.canonicalText (s.1.startOffset.getD 0) (s.1.endOffset.getD 0)
  else [p.canonicalText]

/-- No anchor is too long, and every cut of a text that is not empty keeps to the limits of an
excerpt and of a normal form. -/
structure ParsedDocument.Quotable (folding : Folding) (config : ChunkConfig) (p : ParsedDocument) :
    Prop where
  anchors : ∀ s ∈ p.sections, s.1.locatorType = .htmlAnchorRange → s.1.sectionPath.length ≤ 256
  cuts : ∀ unit ∈ p.units, unit ≠ [] → ∀ fuel cuts, ranges fuel unit config = some cuts →
    ∀ range ∈ cuts, (slice unit range.start range.stop).length ≤ 1000 ∧
      1 ≤ (folding.normalize (slice unit range.start range.stop)).length ∧
      (folding.normalize (slice unit range.start range.stop)).length ≤ 1600

/-- `_ranges` returns for every segment of the document. -/
def RangesTerminate (p : ParsedDocument) (config : ChunkConfig) : Prop := ∃ fuel, Cut p config fuel

/-- `chunk` returns drafts, and each of them can be cited, whatever the rows around it are called. -/
def ChunkedAndCited (folding : Folding) (hash : PyJson.IdealHash) (p : ParsedDocument)
    (config : ChunkConfig) (run : DocumentParseRun) (version : DocumentVersion)
    (canonicalTextChecksum : String) : Prop :=
  ∃ fuel drafts, chunk folding hash p config fuel = .ok drafts ∧
    ∀ draft ∈ drafts, ∀ pageId sectionId chunkId, ∃ citation,
      citeChunk hash run version canonicalTextChecksum pageId sectionId chunkId draft = .ok citation

lemma mem_laidOut_of_mem {α β : Type} {piece : α → List β} {gap cursor : Nat} {as : List α} {a : α}
    (h : a ∈ as) : ∃ start stop, (a, start, stop) ∈ laidOut piece gap cursor as := by
  rw [← map_fst_laidOut piece gap cursor as] at h
  rcases List.mem_map.mp h with ⟨⟨_, start, stop⟩, hmem, rfl⟩
  exact ⟨start, stop, hmem⟩

lemma exists_pageSegment_iff (hlaid : p.Laid hash) {unit : Text} :
    (∃ segment ∈ (laidOut (fun page : ParsedPage => page.1.text) 3 0 p.pages).filterMap pageSegment,
      slice p.canonicalText segment.start segment.stop = unit) ↔
      unit ∈ p.pages.map (·.1.text) ∧ unit ≠ [] := by
  constructor
  · rintro ⟨segment, hsegment, rfl⟩
    rcases List.mem_filterMap.mp hsegment with ⟨⟨page, start, stop⟩, hmem, hpage⟩
    rcases slice_page hlaid hmem with ⟨hslice, hlength, -⟩
    have hpages : page ∈ p.pages := by
      rw [← map_fst_laidOut (fun page : ParsedPage => page.1.text) 3 0 p.pages]
      exact List.mem_map.mpr ⟨_, hmem, rfl⟩
    simp only [pageSegment] at hpage
    split at hpage
    · next hlt =>
      cases hpage
      rw [hslice]
      refine ⟨List.mem_map.mpr ⟨page, hpages, rfl⟩, ?_⟩
      intro hnil
      simp only [hnil, List.length_nil] at hlength
      omega
    · cases hpage
  · rintro ⟨hunit, hnonempty⟩
    rcases List.mem_map.mp hunit with ⟨page, hpage, rfl⟩
    rcases @mem_laidOut_of_mem _ _ (fun page : ParsedPage => page.1.text) 3 0 p.pages page hpage
      with ⟨start, stop, hmem⟩
    rcases slice_page hlaid hmem with ⟨hslice, hlength, -⟩
    have hpositive := List.length_pos_of_ne_nil hnonempty
    have hlt : start < stop := by omega
    refine ⟨_, List.mem_filterMap.mpr ⟨_, hmem, by simp only [pageSegment, hlt, if_true]; rfl⟩, ?_⟩
    exact hslice

lemma sectionSegment_of_laid (hlaid : p.Laid hash) {s : ParsedSection} (hs : s ∈ p.sections) :
    ∃ segment, sectionSegment s = some segment ∧
      slice p.canonicalText segment.start segment.stop =
        slice p.canonicalText (s.1.startOffset.getD 0) (s.1.endOffset.getD 0) ∧
      segment.htmlAnchor =
        if s.1.locatorType = .htmlAnchorRange then some s.1.sectionPath else none := by
  rcases hlaid.sections s hs with ⟨-, -, -, start, stop, hstart, hstop, hlt, -⟩
  refine ⟨_, by simp only [sectionSegment, hstart, hstop, Int.ofNat_lt, hlt, if_true]; rfl, ?_, rfl⟩
  simp [hstart, hstop]

lemma exists_sectionSegment_iff (hlaid : p.Laid hash) {unit : Text} :
    (∃ segment ∈ p.sections.filterMap sectionSegment,
      slice p.canonicalText segment.start segment.stop = unit) ↔
      unit ∈ (p.sections.map fun s =>
        slice p.canonicalText (s.1.startOffset.getD 0) (s.1.endOffset.getD 0)) ∧ unit ≠ [] := by
  constructor
  · rintro ⟨segment, hsegment, rfl⟩
    rcases List.mem_filterMap.mp hsegment with ⟨s, hs, hsome⟩
    rcases sectionSegment_of_laid hlaid hs with ⟨segment', hsome', hslice, -⟩
    rw [hsome, Option.some.injEq] at hsome'
    subst hsome'
    have hsound := sound_sectionSegment hlaid hs hsome
    refine ⟨List.mem_map.mpr ⟨s, hs, hslice.symm⟩, ?_⟩
    intro hnil
    have hlength := length_slice hsound.start hsound.lt.le hsound.stop
    have hlt := hsound.lt
    simp only [hnil, List.length_nil] at hlength
    omega
  · rintro ⟨hunit, -⟩
    rcases List.mem_map.mp hunit with ⟨s, hs, rfl⟩
    rcases sectionSegment_of_laid hlaid hs with ⟨segment, hsome, hslice, -⟩
    exact ⟨segment, List.mem_filterMap.mpr ⟨s, hs, hsome⟩, hslice⟩

/-- The segments are the units that are not empty. -/
lemma exists_segment_iff (hlaid : p.Laid hash) (htext : p.canonicalText ≠ []) {unit : Text} :
    (∃ segment ∈ segments p, slice p.canonicalText segment.start segment.stop = unit) ↔
      unit ∈ p.units ∧ unit ≠ [] := by
  unfold segments ParsedDocument.units
  split_ifs
  · exact exists_pageSegment_iff hlaid
  · exact exists_sectionSegment_iff hlaid
  · simp only [List.mem_singleton, exists_eq_left, wholeSegment, slice_zero_length]
    constructor
    · rintro rfl
      exact ⟨rfl, htext⟩
    · rintro ⟨rfl, -⟩
      rfl

/-- The anchors of the segments are the paths of the sections that have one. -/
lemma anchors_iff (hlaid : p.Laid hash) :
    (∀ segment ∈ segments p, ∀ anchor ∈ segment.htmlAnchor, anchor.length ≤ 256) ↔
      ∀ s ∈ p.sections, s.1.locatorType = .htmlAnchorRange → s.1.sectionPath.length ≤ 256 := by
  unfold segments
  split_ifs with hpages hsections
  · -- a document with pages has no sections, and no page has an anchor
    have hnone : p.sections = [] := hlaid.onlyOne.resolve_left hpages
    constructor
    · intro _ s hs
      simp [hnone] at hs
    · intro _ segment hsegment anchor hanchor
      rcases List.mem_filterMap.mp hsegment with ⟨laid, -, hpage⟩
      simp only [pageSegment] at hpage
      split at hpage
      · cases hpage
        cases hanchor
      · cases hpage
  · constructor
    · intro h s hs htype
      rcases sectionSegment_of_laid hlaid hs with ⟨segment, hsome, -, hanchor⟩
      refine h segment (List.mem_filterMap.mpr ⟨s, hs, hsome⟩) _ ?_
      rw [hanchor, if_pos htype]
      rfl
    · intro h segment hsegment anchor hanchor
      rcases List.mem_filterMap.mp hsegment with ⟨s, hs, hsome⟩
      rcases sectionSegment_of_laid hlaid hs with ⟨segment', hsome', -, hanchor'⟩
      rw [hsome, Option.some.injEq] at hsome'
      subst hsome'
      rw [hanchor'] at hanchor
      split at hanchor
      · next htype =>
        cases hanchor
        exact h s hs htype
      · cases hanchor
  · have hnone : p.sections = [] := not_not.mp hsections
    simp [hnone, wholeSegment]

/-- An empty document is cut from nothing. -/
lemma quotable_of_empty (hlaid : p.Laid hash) (htext : p.canonicalText = []) (folding : Folding)
    (config : ChunkConfig) : p.Quotable folding config := by
  have hsections : p.sections = [] := by
    rw [List.eq_nil_iff_forall_not_mem]
    intro s hs
    rcases hlaid.sections s hs with ⟨-, -, -, start, stop, -, -, hlt, hle⟩
    simp only [htext, List.length_nil] at hle
    omega
  refine ⟨by simp [hsections], ?_⟩
  intro unit hunit hnonempty
  exfalso
  simp only [ParsedDocument.units, hsections, ne_eq, not_true, if_false] at hunit
  split at hunit
  · rcases (exists_pageSegment_iff hlaid).mpr ⟨hunit, hnonempty⟩ with ⟨segment, -, hslice⟩
    rw [htext, slice, List.take_nil, List.drop_nil] at hslice
    exact hnonempty hslice.symm
  · exact hnonempty (by simpa [htext] using hunit)

section Law

variable {folding : Folding} {config : ChunkConfig} {fuel : Nat}

/-- The pieces are the ranges of the segments. -/
lemma mem_pieces {piece : Segment × Range} :
    piece ∈ pieces p config fuel ↔ piece.1 ∈ segments p ∧ ∃ cuts,
      ranges fuel (slice p.canonicalText piece.1.start piece.1.stop) config = some cuts ∧
        piece.2 ∈ cuts := by
  rcases piece with ⟨segment, range⟩
  simp only [pieces, List.mem_flatMap, piecesOf, List.mem_map, Prod.mk.injEq]
  constructor
  · rintro ⟨segment, hsegment, range, hrange, rfl, rfl⟩
    rcases hranges : ranges fuel (slice p.canonicalText segment.start segment.stop) config with
      _ | cuts
    · simp [hranges] at hrange
    · exact ⟨hsegment, cuts, rfl, by simpa [hranges] using hrange⟩
  · rintro ⟨hsegment, cuts, hcuts, hrange⟩
    exact ⟨segment, hsegment, range, by simpa [hcuts] using hrange, rfl, rfl⟩

lemma fits_of_mem_pieces (hlaid : p.Laid hash) (htext : p.canonicalText ≠ [])
    {piece : Segment × Range} (hpiece : piece ∈ pieces p config fuel) :
    piece.1.Sound p ∧
      piece.2.Fits (slice p.canonicalText piece.1.start piece.1.stop) config := by
  rcases mem_pieces.mp hpiece with ⟨hsegment, cuts, hcuts, hrange⟩
  have hsound := sound_of_mem_segments hlaid htext hsegment
  have hunit := (exists_segment_iff hlaid htext).mp ⟨piece.1, hsegment, rfl⟩
  exact ⟨hsound, fits_of_ranges hunit.2 hcuts piece.2 hrange⟩

/-- A document is quotable when its pieces are, however they were cut. -/
lemma quotable_iff (hlaid : p.Laid hash) (htext : p.canonicalText ≠ [])
    (hcut : Cut p config fuel) :
    p.Quotable folding config ↔ ∀ piece ∈ pieces p config fuel,
      (∀ anchor ∈ piece.1.htmlAnchor, anchor.length ≤ 256) ∧
      (slice (slice p.canonicalText piece.1.start piece.1.stop)
        piece.2.start piece.2.stop).length ≤ 1000 ∧
      1 ≤ (folding.normalize (slice (slice p.canonicalText piece.1.start piece.1.stop)
        piece.2.start piece.2.stop)).length ∧
      (folding.normalize (slice (slice p.canonicalText piece.1.start piece.1.stop)
        piece.2.start piece.2.stop)).length ≤ 1600 := by
  constructor
  · intro hquotable piece hpiece
    rcases mem_pieces.mp hpiece with ⟨hsegment, cuts, hcuts, hrange⟩
    have hunit := (exists_segment_iff hlaid htext).mp ⟨piece.1, hsegment, rfl⟩
    exact ⟨(anchors_iff hlaid).mpr hquotable.anchors piece.1 hsegment,
      hquotable.cuts _ hunit.1 hunit.2 fuel cuts hcuts piece.2 hrange⟩
  · intro hpieces
    refine ⟨(anchors_iff hlaid).mp ?_, ?_⟩
    · intro segment hsegment
      rcases Option.isSome_iff_exists.mp (hcut segment hsegment) with ⟨cuts, hcuts⟩
      rcases List.exists_mem_of_ne_nil _ (ranges_ne_nil hcuts) with ⟨range, hrange⟩
      exact (hpieces (segment, range) (mem_pieces.mpr ⟨hsegment, cuts, hcuts, hrange⟩)).1
    · intro unit hunit hnonempty fuel' cuts hcuts range hrange
      rcases (exists_segment_iff hlaid htext).mpr ⟨hunit, hnonempty⟩ with ⟨segment, hsegment, rfl⟩
      rcases Option.isSome_iff_exists.mp (hcut segment hsegment) with ⟨cuts', hcuts'⟩
      -- with enough fuel for both, the two runs return the same
      have hsame := ranges_mono (le_max_left fuel fuel') hcuts'
      rw [ranges_mono (le_max_right fuel fuel') hcuts, Option.some.injEq] at hsame
      rw [hsame] at hrange
      exact (hpieces (segment, range) (mem_pieces.mpr ⟨hsegment, cuts', hcuts', hrange⟩)).2

end Law

lemma isVersion_parserVersion (parser : DocumentParser) :
    isVersion parser.parserVersion = true := by
  cases parser with
  | pdf => decide +kernel
  | html => decide +kernel
  | text => decide +kernel
  | json parser =>
      change isVersion "json-parser-v1" = true
      decide +kernel

def sanitizerVersion : String := "sanitizer-v1"

/-- **When a document can be chunked and cited.** -/
theorem chunkedAndCited_iff {lib : Libraries} {parser : DocumentParser} {content : List UInt8}
    {parserConfig : ParserConfig} (hparse : parser.parse lib content parserConfig = .ok p)
    {config : ChunkConfig} (hterminates : RangesTerminate p config) {run : DocumentParseRun}
    (hparser : run.parserVersion = parser.parserVersion)
    (hsanitizer : run.sanitizerVersion = sanitizerVersion) (version : DocumentVersion)
    (canonicalTextChecksum : String) :
    ChunkedAndCited lib.folding lib.hash p config run version canonicalTextChecksum ↔
      p.Quotable lib.folding config := by
  have hlaid := DocumentParser.laid_of_parse hparse
  by_cases htext : p.canonicalText = []
  · refine iff_of_true ⟨0, [], by simp [chunk, htext], by simp⟩ ?_
    exact quotable_of_empty hlaid htext lib.folding config
  have hpversion : isVersion run.parserVersion = true := by
    rw [hparser]
    exact isVersion_parserVersion parser
  have hsversion : isVersion run.sanitizerVersion = true := by
    rw [hsanitizer]
    decide +kernel
  constructor
  · rintro ⟨fuel, drafts, hchunk, hcited⟩
    have hcut := ((chunk_ok htext).mp hchunk).1
    have hvalid := (exists_chunk_iff htext hcut).mp ⟨drafts, hchunk⟩
    refine (quotable_iff hlaid htext hcut).mpr ?_
    intro piece hpiece
    rcases fits_of_mem_pieces hlaid htext hpiece with ⟨hsound, hfits⟩
    rcases exists_mem_chunk_of_piece htext hchunk hpiece with ⟨draft, hdraft, index, hfields⟩
    have hdraftOk := (validate_draftFields_ok lib.folding lib.hash hsound hfits 0).mp
      (hvalid piece hpiece)
    have hshort := (citeChunk_ok lib.folding lib.hash version canonicalTextChecksum none none 0
      hpversion hsversion hsound hfits hfields).mp (hcited draft hdraft none none 0)
    rw [hfields, text_draftFields lib.folding lib.hash hsound hfits] at hshort
    exact ⟨hdraftOk.1, hshort, hdraftOk.2⟩
  · intro hquotable
    rcases hterminates with ⟨fuel, hcut⟩
    have hpieces := (quotable_iff hlaid htext hcut).mp hquotable
    have hchunk : ∃ drafts, chunk lib.folding lib.hash p config fuel = .ok drafts := by
      refine (exists_chunk_iff htext hcut).mpr ?_
      intro piece hpiece
      rcases fits_of_mem_pieces hlaid htext hpiece with ⟨hsound, hfits⟩
      rcases hpieces piece hpiece with ⟨hanchor, -, hnormal⟩
      exact (validate_draftFields_ok lib.folding lib.hash hsound hfits 0).mpr ⟨hanchor, hnormal⟩
    rcases hchunk with ⟨drafts, hchunk⟩
    refine ⟨fuel, drafts, hchunk, ?_⟩
    intro draft hdraft pageId sectionId chunkId
    rcases exists_piece_of_mem_chunk hchunk hdraft with ⟨piece, hpiece, index, hfields⟩
    rcases fits_of_mem_pieces hlaid htext hpiece with ⟨hsound, hfits⟩
    refine (citeChunk_ok lib.folding lib.hash version canonicalTextChecksum pageId sectionId chunkId
      hpversion hsversion hsound hfits hfields).mpr ?_
    rw [hfields, text_draftFields lib.folding lib.hash hsound hfits]
    exact (hpieces piece hpiece).2.1

/-- Libraries that read no PDF and report nothing of a page, on ASCII texts. -/
def plainLibraries : Libraries where
  readPdf _ := none
  readHtml _ := []
  folding := asciiFolding
  hash := default
  limits := ⟨1000, 4300⟩

/-- A plain text as the parser reads it. -/
def plainDocument (content : List UInt8) : ParsedDocument :=
  PlainTextParser.parse default content .default

def filingTime : PyTime.Instant where
  date := ⟨2024, 7, 1, PyTime.validYear_2024, PyTime.validMonth_7, by decide⟩
  hour := 0
  minute := 0
  second := 0
  microsecond := 0
  validHour := PyTime.validHour_0
  validMinute := PyTime.validMinute_0
  validSecond := PyTime.validMinute_0
  validMicrosecond := PyTime.validMicrosecond_0

/-- The parse run of a plain text. -/
def plainRun : DocumentParseRun where
  id := 1
  documentVersionId := 2
  parserVersion := "text-parser-v1"
  sanitizerVersion := sanitizerVersion
  status := .pass
  canonicalText := some "Net".toList
  canonicalTextChecksum := some "Net"
  warnings := []
  completedAt := some filingTime

/-- The version of a document that it is a run of. -/
def plainVersion : DocumentVersion where
  id := 2
  logicalDocumentId := 3
  sourceDocumentId := 4
  providerId := 5
  versionNumber := 1
  supersedesDocumentVersionId := none
  storageUri := "blob"
  mimeType := "text/plain"
  checksum := "Net"
  byteSize := 3
  publishedAt := some filingTime
  trustLevel := .officialCompany
  evidenceOrigin := .source
  accessMode := .online
  liveStatus := .live
  sourceVersionStatus := .active

/-- A word can be chunked and cited. -/
theorem chunkedAndCited_word :
    ChunkedAndCited asciiFolding default (plainDocument [78, 101, 116]) .default plainRun
      plainVersion "Net" := by
  have htext : (plainDocument [78, 101, 116]).canonicalText = "Net".toList := by decide +kernel
  have hsegments : segments (plainDocument [78, 101, 116]) = [wholeSegment "Net".toList] := by
    decide +kernel
  have hunits : (plainDocument [78, 101, 116]).units = ["Net".toList] := by decide +kernel
  have hterminates : RangesTerminate (plainDocument [78, 101, 116]) .default := by
    refine ⟨0, ?_⟩
    rw [Cut, hsegments, htext]
    decide +kernel
  refine (@chunkedAndCited_iff _ plainLibraries .text [78, 101, 116] .default rfl .default
    hterminates plainRun rfl rfl plainVersion "Net").mpr ⟨?_, ?_⟩
  · have hnone : (plainDocument [78, 101, 116]).sections.length = 0 := by decide +kernel
    intro s hs
    change s ∈ (plainDocument [78, 101, 116]).sections at hs
    rw [List.length_eq_zero_iff.mp hnone] at hs
    cases hs
  · change ∀ unit ∈ (plainDocument [78, 101, 116]).units, _
    rw [hunits]
    simp only [List.mem_singleton, forall_eq]
    intro _ fuel cuts hcuts range hrange
    have hwhole : ranges fuel "Net".toList .default = some [⟨0, 3, false⟩] := rfl
    rw [hwhole, Option.some.injEq] at hcuts
    rw [← hcuts, List.mem_singleton] at hrange
    rw [hrange]
    decide +kernel

lemma text_lineBreak : (plainDocument [10]).canonicalText = ['\n'] := by decide +kernel

lemma segments_lineBreak : segments (plainDocument [10]) = [wholeSegment ['\n']] := by
  decide +kernel

/-- A text that is a line break has no normal form, so the chunker raises. -/
theorem not_chunkedAndCited_lineBreak :
    DocumentParser.text.parse plainLibraries [10] .default = .ok (plainDocument [10]) ∧
      RangesTerminate (plainDocument [10]) .default ∧
      ∀ run version canonicalTextChecksum, ¬ ChunkedAndCited asciiFolding default
        (plainDocument [10]) .default run version canonicalTextChecksum := by
  refine ⟨rfl, ⟨0, ?_⟩, ?_⟩
  · rw [Cut, segments_lineBreak, text_lineBreak]
    decide +kernel
  · rintro run version checksum ⟨fuel, drafts, hchunk, -⟩
    have htext : (plainDocument [10]).canonicalText ≠ [] := by simp [text_lineBreak]
    have hpiece : (wholeSegment ['\n'], ⟨0, 1, false⟩) ∈
        pieces (plainDocument [10]) .default fuel := by
      refine mem_pieces.mpr ⟨by simp [segments_lineBreak], [⟨0, 1, false⟩], ?_, by simp⟩
      rw [text_lineBreak]
      rfl
    rcases exists_mem_chunk_of_piece htext hchunk hpiece with ⟨draft, -, index, hfields⟩
    have hnormal := (ChunkFields.validate_ok.mp draft.2).2.2.1.1
    rw [hfields] at hnormal
    have hempty : (draftFields asciiFolding default (plainDocument [10]) .default
        (wholeSegment ['\n']) ⟨0, 1, false⟩ index).normalizedText = [] := by
      simp only [draftFields, text_lineBreak]
      decide +kernel
    simp [hempty] at hnormal

end StockResearch.Documents
