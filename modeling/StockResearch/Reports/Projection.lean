import StockResearch.Reports.References

/-!
# Projections and checksums of a report

The canonical JSON text of a value, the Markdown projection of a content, and the three checksums
that a report carries.

* `normalize` is what the canonical text is taken of: texts and keys in NFKC.  A binary
  floating-point number has no canonical text, and neither has an object two of whose keys have one
  normal form.
* `render` projects a content to Markdown.
* `verifyReportProjection_ok`: what the verification of the checksums requires.
-/

namespace StockResearch.Reports

open PyText PyJson Checked ResearchAgent

variable (lib : ReportLibrary)

/-! ## Canonical texts -/

/-- `unicodedata.normalize("NFKC", s)` -/
def nfkcString (s : String) : String := String.ofList (lib.nfkc s.toList)

mutual

def normalize : Value → Except String Value
  | .null => .ok .null
  | .bool b => .ok (.bool b)
  | .int n => .ok (.int n)
  | .real _ => .error "binary floating-point values are not canonical"
  | .str s => .ok (.str (nfkcString lib s))
  | .arr items => (normalizeItems items).map .arr
  | .obj fields => (normalizeFields [] fields).map .obj

def normalizeItems : List Value → Except String (List Value)
  | [] => .ok []
  | v :: vs => do
      let v ← normalize v
      let vs ← normalizeItems vs
      return v :: vs

/-- `_normalize_mapping`, with the members before. -/
def normalizeFields (done : List (String × Value)) :
    List (String × Value) → Except String (List (String × Value))
  | [] => .ok done
  | (k, v) :: fs => do
      let key := nfkcString lib k
      check (key ∈ done.map Prod.fst) "normalized mapping keys must be unique"
      let v ← normalize v
      normalizeFields (done ++ [(key, v)]) fs

end

def canonicalReportJson (v : Value) : Except String Text := (normalize lib v).map canonicalText

def reportChecksum (v : Value) : Except String String := (canonicalReportJson lib v).map lib.hash.digest

def textValue (t : Text) : Value := .str (String.ofList t)

/-- `block.model_dump()` -/
def BlockFields.dump (b : BlockFields) : Value :=
  .obj [("block_key", textValue b.blockKey), ("block_index", .int b.blockIndex),
    ("block_type", .str b.blockType.value), ("status", .str b.status.value),
    ("text", b.text.elim .null textValue), ("payload", .obj b.payload)]

/-- `section.model_dump()` -/
def SectionFields.dump (s : SectionFields) : Value :=
  .obj [("section", .str s.reportSection.value), ("section_index", .int s.sectionIndex),
    ("title", textValue s.title), ("status", .str s.status.value),
    ("blocks", .arr (s.blocks.map (·.dump)))]

/-- `content.model_dump()` -/
def ContentFields.dump (c : ContentFields) : Value :=
  .obj [("schema_version", textValue c.schemaVersion), ("locale", .str c.locale.value),
    ("sections", .arr (c.sections.map (·.dump)))]

def structuredReportChecksum (content : ContentFields) : Except String String :=
  reportChecksum lib content.dump

def markdownChecksum (markdown : Text) : Except String String :=
  reportChecksum lib (textValue markdown)

/-! ## Markdown -/

def markdownRendererVersion : String := "deterministic-markdown-v1"

/-- `_escape` -/
def escapeMarkdown (t : Text) : Text :=
  let escaped := replace "\\" "\\\\" t
  let escaped := replace "\r" "\n" (replace "\r\n" "\n" escaped)
  let escaped := replace "\n" "\\n" escaped
  let escaped := replace ">" "&gt;" (replace "<" "&lt;" escaped)
  ["`", "*", "_", "[", "]", "#", "|"].foldl (fun text marker => replace marker ("\\" ++ marker) text)
    escaped

/-- `f"{mark} {a} [{b}] [{c}]"`, with the three escaped. -/
def headingLine (mark : String) (a b c : Text) : Text :=
  mark.toList ++ ' ' :: (escapeMarkdown a ++ " [".toList ++ escapeMarkdown b ++ "] [".toList ++
    escapeMarkdown c ++ "]".toList)

/-- `f"- {key}: {value}"` for a member of a payload. -/
def payloadLine (field : String × Value) : Except String Text := do
  let json ← canonicalReportJson lib field.2
  return "- ".toList ++ escapeMarkdown field.1.toList ++ ": ".toList ++ escapeMarkdown json

def blockLines (b : BlockFields) : Except String (List Text) := do
  let fields ← (b.payload.insertionSort keyLE).mapM (payloadLine lib)
  return headingLine "###" b.blockKey b.blockType.value.toList b.status.value.toList ::
    (b.text.map escapeMarkdown).toList ++ fields ++ [[]]

def sectionLines (s : SectionFields) : Except String (List Text) := do
  let blocks ← collect (blockLines lib) s.blocks
  return headingLine "##" s.title s.reportSection.value.toList s.status.value.toList :: [] :: blocks

structure RenderedMarkdown where
  markdownContent : Text
  markdownChecksum : String

/-- The field checks of `RenderedMarkdown`. -/
def canonicalMarkdown (t : Text) : Prop :=
  1 ≤ t.length ∧ t.length ≤ 1048576 ∧ '\r' ∉ t ∧ ['\n'].isSuffixOf t = true ∧
    ['\n', '\n'].isSuffixOf t = false

instance (t : Text) : Decidable (canonicalMarkdown t) := inferInstanceAs (Decidable (_ ∧ _))

/-- The lines of a content without the empty ones at its end. -/
def markdownText (content : ContentFields) : Except String Text := do
  let sections ← collect (sectionLines lib) content.sections
  let lines := headingLine "#" "Research Report".toList content.schemaVersion
    content.locale.value.toList :: [] :: sections
  return ['\n'].intercalate (lines.reverse.dropWhile (· = [])).reverse ++ ['\n']

/-- `DeterministicMarkdownRenderer.render` -/
def render (content : ContentFields) : Except String RenderedMarkdown := do
  let markdown ← markdownText lib content
  let digest ← markdownChecksum lib markdown
  check (¬ canonicalMarkdown markdown) "ValidationError"
  return ⟨markdown, digest⟩

/-! ## Checksums -/

/-- `ReportChecksumContext` -/
structure ReportChecksumContext where
  schemaVersion : Text
  templateName : Text
  templateVersion : Text
  rendererVersion : Text
  markdownRendererVersion : String
  locale : ReportLocale
  inputManifestChecksum : String
  visibleReferences : List ReferenceEntry

structure ReportProjectionChecksums where
  structuredChecksum : String
  markdownChecksum : String
  contentChecksum : String

/-- `entry.model_dump()` -/
def ReferenceEntry.dump (e : ReferenceEntry) : Value :=
  .obj [("kind", .str e.kind.value), ("record_id", .str e.recordId.str),
    ("label", textValue e.label)]

def combinedReportChecksum (structured markdown : String) (context : ReportChecksumContext) :
    Except String String :=
  reportChecksum lib <| .obj [("schema_version", textValue context.schemaVersion),
    ("structured_checksum", .str structured), ("markdown_checksum", .str markdown),
    ("template_name", textValue context.templateName),
    ("template_version", textValue context.templateVersion),
    ("renderer_version", textValue context.rendererVersion),
    ("markdown_renderer_version", .str context.markdownRendererVersion),
    ("locale", .str context.locale.value),
    ("input_manifest_checksum", .str context.inputManifestChecksum),
    ("visible_references", .arr (context.visibleReferences.map (·.dump)))]

def verifyReportProjection (content : ContentFields) (markdown : Text)
    (context : ReportChecksumContext) (expected : ReportProjectionChecksums) :
    Except String Unit := do
  check (content.schemaVersion ≠ context.schemaVersion ∨ content.locale ≠ context.locale)
    "REPORT_CHECKSUM_CONTEXT_MISMATCH"
  let rendered ← render lib content
  check (context.markdownRendererVersion ≠ markdownRendererVersion ∨
    rendered.markdownContent ≠ markdown) "REPORT_MARKDOWN_PROJECTION_MISMATCH"
  let structured ← structuredReportChecksum lib content
  check (structured ≠ expected.structuredChecksum) "REPORT_STRUCTURED_CHECKSUM_MISMATCH"
  let digest ← markdownChecksum lib markdown
  check (digest ≠ expected.markdownChecksum ∨ rendered.markdownChecksum ≠ digest)
    "REPORT_MARKDOWN_CHECKSUM_MISMATCH"
  let combined ← combinedReportChecksum lib structured digest context
  check (combined ≠ expected.contentChecksum) "REPORT_CONTENT_CHECKSUM_MISMATCH"

/-! ## What they require -/

variable {lib} {content : ContentFields} {markdown : Text}

lemma render_ok {rendered : RenderedMarkdown} : render lib content = .ok rendered ↔
    markdownText lib content = .ok rendered.markdownContent ∧
      markdownChecksum lib rendered.markdownContent = .ok rendered.markdownChecksum ∧
      canonicalMarkdown rendered.markdownContent := by
  unfold render
  constructor
  · intro h
    obtain ⟨text, htext, h⟩ := bind_ok.mp h
    obtain ⟨digest, hdigest, h⟩ := bind_ok.mp h
    obtain ⟨hcanonical, h⟩ := check_bind_ok.mp h
    cases h
    exact ⟨htext, hdigest, not_not.mp hcanonical⟩
  · rintro ⟨htext, hdigest, hcanonical⟩
    rw [htext, ok_bind, hdigest, ok_bind, check_bind_ok]
    exact ⟨not_not.mpr hcanonical, rfl⟩

/-- What the verification of a projection requires. -/
structure Projected (lib : ReportLibrary) (content : ContentFields) (markdown : Text)
    (context : ReportChecksumContext) (expected : ReportProjectionChecksums) : Prop where
  version : content.schemaVersion = context.schemaVersion
  locale : content.locale = context.locale
  rendererVersion : context.markdownRendererVersion = markdownRendererVersion
  rendered : render lib content = .ok ⟨markdown, expected.markdownChecksum⟩
  structured : structuredReportChecksum lib content = .ok expected.structuredChecksum
  combined : combinedReportChecksum lib expected.structuredChecksum expected.markdownChecksum
    context = .ok expected.contentChecksum

lemma verifyReportProjection_ok {context : ReportChecksumContext}
    {expected : ReportProjectionChecksums} :
    verifyReportProjection lib content markdown context expected = .ok () ↔
      Projected lib content markdown context expected := by
  unfold verifyReportProjection
  constructor
  · intro h
    obtain ⟨hcontext, h⟩ := check_bind_ok.mp h
    obtain ⟨rendered, hrendered, h⟩ := bind_ok.mp h
    obtain ⟨hmarkdown, h⟩ := check_bind_ok.mp h
    obtain ⟨structured, hstructured, h⟩ := bind_ok.mp h
    obtain ⟨hsame, h⟩ := check_bind_ok.mp h
    obtain ⟨digest, -, h⟩ := bind_ok.mp h
    obtain ⟨hdigests, h⟩ := check_bind_ok.mp h
    obtain ⟨combined, hcombined, h⟩ := bind_ok.mp h
    have hcontent := check_ok.mp h
    push Not at hcontext hmarkdown hsame hdigests hcontent
    obtain ⟨hrenderer, rfl⟩ := hmarkdown
    obtain ⟨rfl, hdigest⟩ := hdigests
    subst hsame
    subst hcontent
    refine ⟨hcontext.1, hcontext.2, hrenderer, ?_, hstructured, hcombined⟩
    rw [hrendered, ← hdigest]
  · intro h
    have hdigest := (render_ok.mp h.rendered).2.1
    rw [check_bind_ok, h.rendered, ok_bind, check_bind_ok, h.structured, ok_bind, check_bind_ok,
      hdigest, ok_bind, check_bind_ok, h.combined, ok_bind, check_ok]
    push Not
    exact ⟨⟨h.version, h.locale⟩, ⟨h.rendererVersion, rfl⟩, rfl, ⟨rfl, rfl⟩, rfl⟩

end StockResearch.Reports
