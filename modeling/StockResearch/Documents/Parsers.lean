import StockResearch.Core.Slice
import StockResearch.Core.StrictJson
import StockResearch.Documents.Schemas

/-!
# The four parsers

`PdfTextParser`, `SafeHtmlParser`, `PlainTextParser` and `JsonDocumentParser`, from bytes to a
`ParsedDocument`.  A document that a parser refuses is `BLOCKED` and empty.  A page or a section that
does not pass its own model makes the parser raise.

What a PDF reader makes of a file, and the events that `html.parser` reports of a text before it is
done or raises, are `Libraries` and arbitrary; so are the limits of the interpreter on reading JSON.

**The layout.**  The text of a PDF is its pages, joined by a separator of three characters; that of an
HTML or JSON document its blocks or values, joined by a line break, with a section for each.
`ParsedDocument.Laid` says so, and `DocumentParser.laid_of_parse` that every parser keeps to it.
-/

namespace StockResearch.Documents

open PyText Slice
open PyJson hiding isSpace

/-! ## What the parsers share -/

structure ParserConfig where
  maxDocumentBytes : Nat
  maxPdfPages : Nat
  maxCharactersPerPage : Nat
  maxDocumentCharacters : Nat
  maxHtmlNodes : Nat
  maxHtmlDepth : Nat
  maxJsonDepth : Nat
  maxJsonArrayItems : Nat
  approvedJsonPointers : List String
  bytes_ok : 1 ≤ maxDocumentBytes ∧ maxDocumentBytes ≤ 10000000
  pages_ok : 1 ≤ maxPdfPages ∧ maxPdfPages ≤ 500
  perPage_ok : 1 ≤ maxCharactersPerPage ∧ maxCharactersPerPage ≤ 100000
  characters_ok : 1 ≤ maxDocumentCharacters ∧ maxDocumentCharacters ≤ 5000000
  nodes_ok : 1 ≤ maxHtmlNodes ∧ maxHtmlNodes ≤ 50000
  htmlDepth_ok : 1 ≤ maxHtmlDepth ∧ maxHtmlDepth ≤ 64
  jsonDepth_ok : 1 ≤ maxJsonDepth ∧ maxJsonDepth ≤ 32
  items_ok : 1 ≤ maxJsonArrayItems ∧ maxJsonArrayItems ≤ 10000

/-- A text within the limit of a configuration is within the bound of a parsed document. -/
lemma ParserConfig.fits (config : ParserConfig) {text : Text}
    (h : ¬ config.maxDocumentCharacters < text.length) : text.length ≤ 5000000 :=
  (not_lt.mp h).trans config.characters_ok.2

/-- `ParserConfig()` -/
def ParserConfig.default : ParserConfig where
  maxDocumentBytes := 10000000
  maxPdfPages := 500
  maxCharactersPerPage := 100000
  maxDocumentCharacters := 5000000
  maxHtmlNodes := 50000
  maxHtmlDepth := 64
  maxJsonDepth := 32
  maxJsonArrayItems := 10000
  approvedJsonPointers := []
  bytes_ok := by omega
  pages_ok := by omega
  perPage_ok := by omega
  characters_ok := by omega
  nodes_ok := by omega
  htmlDepth_ok := by omega
  jsonDepth_ok := by omega
  items_ok := by omega

/-- `content.decode("utf-8-sig")` -/
def decodeUtf8Sig (content : List UInt8) : Option Text :=
  (String.fromUTF8? ⟨content.toArray⟩).map fun s =>
    match s.toList with
    | '\uFEFF' :: rest => rest
    | text => text

def blocked (hash : IdealHash) (warning : String) (parserMetadata : List (String × String)) :
    ParsedDocument where
  canonicalText := []
  canonicalTextChecksum := hash.digest []
  pages := []
  sections := []
  status := .blocked
  warnings := [warning]
  safetyMarkers := []
  parserMetadata := parserMetadata
  text_ok := by simp

/-! ### Markers of untrusted instructions -/

/-- Two characters that `re.I` takes for the same, the first one of them lower case. -/
def sameLetter (c d : Char) : Bool :=
  d.toLower == c || (c == 'i' && (d == 'ı' || d == 'İ')) || (c == 's' && d == 'ſ') ||
    (c == 'k' && d == '\u212A')

/-- A text in either case. -/
def word (t : String) : Regex := .textBy sameLetter t.toList

def spaces (lo : Nat) : Regex := .rep lo none (.char isSpace)

/-- `.` up to so many times. -/
def upToAny (hi : Nat) : Regex := .rep 0 (some hi) (.char (· != '\n'))

def maybe (r : Regex) : Regex := .rep 0 (some 1) r

/-- `_RULES` -/
def markerRules : List (SafetyMarker × Regex) := [
  (.promptInjectionCandidate, .anyOf
    (.inTurn (word "ignore") [spaces 1, maybe (.inTurn (word "all") [spaces 1]), word "previous",
      spaces 1, word "instructions"]) [
    .inTurn (word "忽略") [.anyOf (word "之前") [word "以上"], upToAny 8, word "指令"],
    .inTurn (word "无视") [.anyOf (word "所有") [word "全部"], upToAny 8,
      .anyOf (word "规则") [word "指令"]]]),
  (.systemPromptImitation, .anyOf (.inTurn (word "system") [spaces 0, word "prompt"])
    [word "系统提示词"]),
  (.credentialRequest, .inTurn (.anyOf (word "reveal") [word "show", word "发送", word "提供"]) [
    upToAny 24, .anyOf (.inTurn (word "api") [upToAny 1, word "key"]) [word "password",
      word "token", word "密钥", word "密码"]]),
  (.toolInvocationText, .anyOf (.inTurn (.anyOf (word "tool") [word "function"]) [
    maybe (.oneOf "_. -"), .anyOf (word "call") [word "use"]]) [word "调用工具"]),
  (.exfiltrationUrl, .inTurn (word "http") [maybe (word "s"), word "://",
    .rep 1 (some 512) (.char (!isSpace ·)), .oneOf "?/", .rep 0 (some 64) (.char (!isSpace ·)),
    .anyOf (word "token") [word "secret", word "key"], word "="])]

def markUntrustedInstructions (text : Text) : List SafetyMarker :=
  (markerRules.filter fun rule => rule.2.search (text.take 100000)).map Prod.fst

/-- The markers as a document holds them. -/
def safetyMarkers (text : Text) : List String := (markUntrustedInstructions text).map (·.value)

/-! ## Plain text -/

/-- `unicodedata.category(c) == "Cc"` -/
def isControl (c : Char) : Bool := c.toNat < 0x20 || (0x7f ≤ c.toNat && c.toNat ≤ 0x9f)

def PlainTextParser.parse (hash : IdealHash) (content : List UInt8) (config : ParserConfig) :
    ParsedDocument :=
  match decodeUtf8Sig content with
  | none => blocked hash "TEXT_DECODING_FAILED" []
  | some source =>
      let text := replace "\r" "\n" (replace "\r\n" "\n" source)
      if hlimit : config.maxDocumentCharacters < text.length then
        blocked hash "DOCUMENT_CHARACTER_LIMIT_EXCEEDED" []
      else if text.any fun c => isControl c && !(c == '\n' || c == '\t') then
        blocked hash "UNSAFE_CONTROL_CHARACTER" []
      else {
        canonicalText := text
        canonicalTextChecksum := hash.digest text
        pages := []
        sections := []
        status := .pass
        warnings := []
        safetyMarkers := safetyMarkers text
        parserMetadata := [("encoding", "utf-8"), ("offset_model", "half-open")]
        text_ok := config.fits hlimit }

/-! ## PDF -/

/-- What a PDF reader makes of a file.  The text of a page is missing when its extraction raises. -/
structure PdfReader where
  isEncrypted : Bool
  pages : List (Option Text)

/-- The text, the status and the warnings of a page. -/
def readPage (config : ParserConfig) (number : Nat) : Option Text → Text × PageStatus × List String
  | none => ([], .partly, [s!"PDF_PAGE_{number}_EXTRACTION_FAILED"])
  | some text =>
      if strip text = [] then (text, .noText, [s!"PDF_PAGE_{number}_HAS_NO_TEXT_LAYER"])
      else if config.maxCharactersPerPage < text.length then
        (text.take config.maxCharactersPerPage, .partly,
          [s!"PDF_PAGE_{number}_CHARACTER_LIMIT_EXCEEDED"])
      else (text, .pass, [])

/-- The loop over the pages, with the warnings so far. -/
def readPages (hash : IdealHash) (config : ParserConfig) :
    Nat → List String → List (Option Text) → Except String (List ParsedPage × List String)
  | _, warnings, [] => .ok ([], warnings)
  | number, warnings, extracted :: rest => do
      let (text, status, added) := readPage config number extracted
      let warnings := warnings ++ added
      let page ← Checked.validated PageFields.validate {
        pageNumber := number
        text := text
        textChecksum := hash.digest text
        characterCount := text.length
        status := status
        warnings := warnings.filter fun item =>
          decide ((s!"PAGE_{number}_").toList <:+: item.toList) }
      let (pages, warnings) ← readPages hash config (number + 1) warnings rest
      return (page :: pages, warnings)

/-- What stands between two pages. -/
def pageSeparator : Text := ['\n', '\x0c', '\n']

def joinPages (pages : List ParsedPage) : Text := pageSeparator.intercalate (pages.map (·.1.text))

def pdfBlockedMetadata : List (String × String) :=
  [("ocr_used", "false"), ("reading_order", "unavailable")]

/-- `PdfTextParser.parse`, where `reader` is what `PdfReader(…)` gives, if it does not raise. -/
def PdfTextParser.parse (hash : IdealHash) (reader : Option PdfReader) (content : List UInt8)
    (config : ParserConfig) : Except String ParsedDocument :=
  if ¬ "%PDF-".toUTF8.toList <+: content then
    .ok (blocked hash "PDF_MAGIC_MISMATCH" pdfBlockedMetadata)
  else if config.maxDocumentBytes < content.length then
    .ok (blocked hash "DOCUMENT_BYTE_LIMIT_EXCEEDED" pdfBlockedMetadata)
  else match reader with
    | none => .ok (blocked hash "PDF_DECODING_FAILED" pdfBlockedMetadata)
    | some reader =>
        if reader.isEncrypted then .ok (blocked hash "PDF_ENCRYPTED" pdfBlockedMetadata)
        else if config.maxPdfPages < reader.pages.length then
          .ok (blocked hash "PDF_PAGE_LIMIT_EXCEEDED" pdfBlockedMetadata)
        else do
          let (pages, warnings) ← readPages hash config 1 [] reader.pages
          if hlimit : config.maxDocumentCharacters < (joinPages pages).length then
            return blocked hash "DOCUMENT_CHARACTER_LIMIT_EXCEEDED" pdfBlockedMetadata
          else return {
            canonicalText := joinPages pages
            canonicalTextChecksum := hash.digest (joinPages pages)
            pages := pages
            sections := []
            status := if warnings = [] then .pass else .partly
            warnings := warnings
            safetyMarkers := safetyMarkers (joinPages pages)
            parserMetadata := [("ocr_used", "false"), ("reading_order", "best-effort"),
              ("physical_page_numbers", "one-based")]
            text_ok := config.fits hlimit }

/-! ## Sections one after the other -/

/-- The loop that gives each block its section, a line break after each. -/
def readSections {α : Type} (text : α → Text) (fields : α → Int → Int → SectionFields)
    (blocks : List α) : Except String (List ParsedSection) :=
  (laidOut text 1 0 blocks).mapM fun laid =>
    Checked.validated SectionFields.validate (fields laid.1 laid.2.1 laid.2.2)

def joinLines (texts : List Text) : Text := ['\n'].intercalate texts

/-! ## HTML -/

/-- What `html.parser` reports: a tag opens with its attributes, a tag closes, or there is text; or
it raises on markup it cannot read. -/
inductive HtmlEvent where
  | starttag (tag : String) (attrs : List (String × Option String))
  | endtag (tag : String)
  | data (data : Text)
  | failure

/-- Why collecting stops before the end. -/
inductive HtmlStop where
  /-- `_BoundExceeded` -/
  | boundExceeded
  | failure
deriving DecidableEq, Repr

def activeTags : List String :=
  ["script", "style", "iframe", "object", "embed", "form", "noscript"]

def headingTags : List String := ["h1", "h2", "h3", "h4", "h5", "h6"]

def blockTags : List String := ["p", "div", "li", "br", "tr", "table"] ++ headingTags

/-- `_Block` -/
structure Block where
  kind : ContentKind
  title : Text
  text : Text
  anchor : Option String

/-- `_Collector`, its stack of open tags with the last one first. -/
structure Collector where
  nodes : Nat
  stack : List String
  suppressed : Nat
  current : List Text
  blocks : List Block
  heading : Option (String × Option String)
  inTable : Nat

def Collector.init : Collector := ⟨0, [], 0, [], [], none, 0⟩

def Collector.flush (c : Collector) : Collector :=
  let text := strip ([' '].intercalate (c.current.filter (· ≠ [])))
  let c := { c with current := [] }
  if text = [] then c
  else match c.heading with
    | some (_, anchor) =>
        { c with blocks := c.blocks ++ [⟨.heading, text, text, anchor⟩], heading := none }
    | none =>
        if 0 < c.inTable then
          { c with blocks := c.blocks ++ [⟨.table, "Table".toList, text, none⟩] }
        else { c with blocks := c.blocks ++ [⟨.text, "Text".toList, text, none⟩] }

/-- `safe_attrs.get(key)`: of a repeated attribute the last one counts. -/
def lastAttr (attrs : List (String × Option String)) (key : String) : Option String :=
  (attrs.filter fun a => a.1 = key).getLast?.bind Prod.snd

/-- `safe_attrs.get("id") or safe_attrs.get("name")` -/
def anchorOf (attrs : List (String × Option String)) : Option String :=
  match lastAttr attrs "id" with
  | some value => if value = "" then lastAttr attrs "name" else some value
  | none => lastAttr attrs "name"

/-- `handle_starttag`, where nothing means that a bound is exceeded. -/
def Collector.handleStarttag (config : ParserConfig) (c : Collector) (tag : String)
    (attrs : List (String × Option String)) : Option Collector :=
  let c := { c with nodes := c.nodes + 1 }
  if config.maxHtmlNodes < c.nodes then none
  else
    let c := { c with stack := tag :: c.stack }
    if config.maxHtmlDepth < c.stack.length then none
    else if tag ∈ activeTags then some { c with suppressed := c.suppressed + 1 }
    else if 0 < c.suppressed then some c
    else
      let c := if tag = "table" then { c.flush with inTable := c.inTable + 1 } else c
      let c := if (tag = "td" ∨ tag = "th") ∧ c.current ≠ [] then
        { c with current := c.current ++ [" | ".toList] } else c
      if tag ∈ headingTags then some { c.flush with heading := some (tag, anchorOf attrs) }
      else some c

def Collector.handleEndtag (c : Collector) (tag : String) : Collector :=
  let c :=
    if tag ∈ activeTags ∧ 0 < c.suppressed then { c with suppressed := c.suppressed - 1 }
    else if c.suppressed = 0 ∧ tag ∈ blockTags then
      if tag = "table" ∧ 0 < c.inTable then { c.flush with inTable := c.inTable - 1 } else c.flush
    else c
  if tag ∈ c.stack then { c with stack := (c.stack.dropWhile (· ≠ tag)).drop 1 } else c

def Collector.handleData (c : Collector) (data : Text) : Collector :=
  if c.suppressed = 0 ∧ strip data ≠ [] then { c with current := c.current ++ [strip data] } else c

def Collector.handle (config : ParserConfig) (c : Collector) : HtmlEvent → Except HtmlStop Collector
  | .starttag tag attrs => Checked.require (c.handleStarttag config tag attrs) .boundExceeded
  | .endtag tag => .ok (c.handleEndtag tag)
  | .data data => .ok (c.handleData data)
  | .failure => .error .failure

/-- `block.anchor or f"/block/{index}"` -/
def blockPath (anchor : Option String) (index : Nat) : String :=
  match anchor with
  | some anchor => if anchor = "" then s!"/block/{index}" else anchor
  | none => s!"/block/{index}"

def blockSection (hash : IdealHash) (block : Block × Nat) (start stop : Int) : SectionFields where
  sectionPath := blockPath block.1.anchor block.2
  parentSectionPath := none
  level := 1
  title := block.1.title
  locatorType := if block.1.anchor.isSome then .htmlAnchorRange else .sectionRange
  startPage := none
  endPage := none
  startOffset := some start
  endOffset := some stop
  textChecksum := hash.digest block.1.text
  contentKind := block.1.kind

/-- `SafeHtmlParser.parse`, where `events` is what `html.parser` reports of a text. -/
def SafeHtmlParser.parse (hash : IdealHash) (events : Text → List HtmlEvent)
    (content : List UInt8) (config : ParserConfig) : Except String ParsedDocument :=
  match decodeUtf8Sig content with
  | none => .ok (blocked hash "HTML_DECODING_FAILED" [])
  | some source =>
      match (events source).foldlM (Collector.handle config) .init with
      | .error .boundExceeded => .ok (blocked hash "HTML_NODE_LIMIT_EXCEEDED" [])
      | .error .failure => .error "html.parser raised"
      | .ok collector => do
          let blocks := collector.flush.blocks
          let text := joinLines (blocks.map (·.text))
          if hlimit : config.maxDocumentCharacters < text.length then
            return blocked hash "DOCUMENT_CHARACTER_LIMIT_EXCEEDED" []
          else
            let sections ← readSections (·.1.text) (blockSection hash) blocks.zipIdx
            return {
              canonicalText := text
              canonicalTextChecksum := hash.digest text
              pages := []
              sections := sections
              status := if collector.stack = [] then .pass else .partly
              warnings := if collector.stack = [] then [] else ["HTML_STRUCTURE_UNCERTAIN"]
              safetyMarkers := safetyMarkers text
              parserMetadata := [("reading_order", "best-effort"), ("resources_loaded", "false")]
              text_ok := config.fits hlimit }

/-! ## JSON -/

/-- A parser with the pointers that its constructor has accepted. -/
structure JsonDocumentParser where
  approved : List String
  approved_ok : ∀ pointer ∈ approved, pointer.toList.head? = some '/'
  approved_nodup : approved.Nodup

/-- `_resolve`, from a value on along the rest of a pointer. -/
def resolveParts (folding : Folding) (limits : ReaderLimits) :
    Doc → List Text → Except String (Option Doc)
  | value, [] => .ok (some value)
  | value, raw :: rest =>
      let part := replace "~0" "~" (replace "~1" "/" raw)
      match value with
      | .obj fields =>
          match fields.lookup (part.map Char.toNat) with
          | some value => resolveParts folding limits value rest
          | none => .ok none
      | .arr items =>
          match folding.decimalValue part with
          | none => .ok none
          | some index =>
              if limits.digits < part.length then .error "integer string conversion"
              else match items[index]? with
                | some value => resolveParts folding limits value rest
                | none => .ok none
      | _ => .ok none

def resolve (folding : Folding) (limits : ReaderLimits) (root : Doc) (pointer : String) :
    Except String (Option Doc) :=
  resolveParts folding limits root ((pointer.toList.splitOn '/').drop 1)

mutual

/-- `_check_bounds`, which takes up what it has met last. -/
def checkBounds (maxDepth maxItems depth : Nat) : Doc → Except String Unit
  | .arr items => do
      Checked.check (maxDepth < depth) "JSON_DEPTH_LIMIT_EXCEEDED"
      Checked.check (maxItems < items.length) "JSON_ARRAY_LIMIT_EXCEEDED"
      checkItems maxDepth maxItems (depth + 1) items
  | .obj fields => do
      Checked.check (maxDepth < depth) "JSON_DEPTH_LIMIT_EXCEEDED"
      checkFields maxDepth maxItems (depth + 1) fields
  | _ => Checked.check (maxDepth < depth) "JSON_DEPTH_LIMIT_EXCEEDED"

def checkItems (maxDepth maxItems depth : Nat) : List Doc → Except String Unit
  | [] => .ok ()
  | v :: vs => do
      checkItems maxDepth maxItems depth vs
      checkBounds maxDepth maxItems depth v

def checkFields (maxDepth maxItems depth : Nat) : List (List Nat × Doc) → Except String Unit
  | [] => .ok ()
  | (_, v) :: fs => do
      checkFields maxDepth maxItems depth fs
      checkBounds maxDepth maxItems depth v

end

/-- The pointers that name a string, with the string. -/
def approvedValues (folding : Folding) (limits : ReaderLimits) (root : Doc)
    (pointers : List String) : Except String (List (String × List Nat)) := do
  let found ← pointers.mapM fun pointer => do
    match ← resolve folding limits root pointer with
    | some (.str value) => return some (pointer, value)
    | _ => return none
  return found.reduceOption

/-- `value.encode()`, which refuses half of a surrogate pair. -/
def encodeValue (value : String × List Nat) : Except String (String × Text) :=
  match value.2.mapM scalar with
  | some text => .ok (value.1, text)
  | none => .error "surrogates not allowed"

lemma encodeValue_ok {value : String × List Nat} {text : String × Text}
    (h : encodeValue value = .ok text) : value.2.mapM scalar = some text.2 ∧ value.1 = text.1 := by
  unfold encodeValue at h
  split at h
  · cases h
    exact ⟨‹_›, rfl⟩
  · cases h

lemma length_of_mapM_scalar {points : List Nat} {text : Text} (h : points.mapM scalar = some text) :
    points.length = text.length := by
  induction points generalizing text with
  | nil =>
      cases h
      rfl
  | cons point points ih =>
      simp only [List.mapM_cons, Option.bind_eq_bind, Option.bind_eq_some_iff] at h
      obtain ⟨c, -, cs, hcs, h⟩ := h
      cases h
      rw [List.length_cons, List.length_cons, ih hcs]

/-- Encoding keeps the number of characters of a joined text. -/
lemma length_joinLines_of_encode {values : List (String × List Nat)} {texts : List (String × Text)}
    (h : values.mapM encodeValue = .ok texts) :
    (joinLines (texts.map Prod.snd)).length = ([10].intercalate (values.map Prod.snd)).length := by
  have hrelated : List.Forall₂ (fun value text => value.2.length = text.2.length) values texts := by
    refine Checked.forall₂_mapM (fun value text hvalue => ?_) h
    exact length_of_mapM_scalar (encodeValue_ok hvalue).1
  have hlengths : (texts.map Prod.snd).map List.length = (values.map Prod.snd).map List.length := by
    rw [List.map_map, List.map_map]
    exact (Checked.map_eq_of_forall₂ hrelated fun _ _ hlength => hlength).symm
  have hcount : texts.length = values.length := by simpa using congrArg List.length hlengths
  rw [joinLines, length_intercalate, length_intercalate, hlengths, List.length_map, List.length_map,
    hcount]

def valueSection (hash : IdealHash) (value : String × Text) (start stop : Int) : SectionFields where
  sectionPath := value.1
  parentSectionPath := none
  level := 1
  title := value.1.toList
  locatorType := .jsonPointer
  startPage := none
  endPage := none
  startOffset := some start
  endOffset := some stop
  textChecksum := hash.digest value.2
  contentKind := .json

def JsonDocumentParser.parse (hash : IdealHash) (folding : Folding) (limits : ReaderLimits)
    (parser : JsonDocumentParser) (content : List UInt8) (config : ParserConfig) :
    Except String ParsedDocument :=
  match (decoded (decodeUtf8Sig content)).bind (strictLoads limits) with
  | .error .duplicateKey => .ok (blocked hash "JSON_DUPLICATE_KEY" [])
  | .error .decoding => .ok (blocked hash "JSON_DECODING_FAILED" [])
  | .error .recursion => .error "maximum recursion depth exceeded"
  | .error .digits => .error "integer string conversion"
  | .ok root =>
      if config.approvedJsonPointers ≠ [] ∧ config.approvedJsonPointers ≠ parser.approved then
        .ok (blocked hash "JSON_POINTER_CONFIGURATION_MISMATCH" [])
      else match checkBounds config.maxJsonDepth config.maxJsonArrayItems 1 root with
        | .error warning => .ok (blocked hash warning [])
        | .ok () => do
            let values ← approvedValues folding limits root parser.approved
            if hlimit : config.maxDocumentCharacters <
                ([10].intercalate (values.map Prod.snd)).length then
              return blocked hash "DOCUMENT_CHARACTER_LIMIT_EXCEEDED" []
            else match hencoded : values.mapM encodeValue with
              | .error e => .error e
              | .ok texts => do
                  let text := joinLines (texts.map Prod.snd)
                  let sections ← readSections Prod.snd (valueSection hash) texts
                  return {
                    canonicalText := text
                    canonicalTextChecksum := hash.digest text
                    pages := []
                    sections := sections
                    status := .pass
                    warnings := []
                    safetyMarkers := safetyMarkers text
                    parserMetadata := [("pointer_order", "lexical"),
                      ("unknown_fields", "not-searchable")]
                    text_ok := by
                      have hlength := length_joinLines_of_encode hencoded
                      have := config.characters_ok
                      show (joinLines (texts.map Prod.snd)).length ≤ 5000000
                      omega }

/-! ## The registry -/

/-- What the parsers are linked with. -/
structure Libraries where
  /-- `PdfReader(BytesIO(content), strict=False)`, if it does not raise. -/
  readPdf : List UInt8 → Option PdfReader
  /-- What `html.parser` reports of a text, up to its end or up to where it raises. -/
  readHtml : Text → List HtmlEvent
  folding : Folding
  hash : IdealHash
  limits : ReaderLimits

inductive DocumentParser where
  | pdf | html | text
  | json (parser : JsonDocumentParser)

def DocumentParser.parserVersion : DocumentParser → String
  | .pdf => "pdf-parser-v1"
  | .html => "html-parser-v1"
  | .text => "text-parser-v1"
  | .json _ => "json-parser-v1"

/-- `parser.parse(content, config)` -/
def DocumentParser.parse (lib : Libraries) (parser : DocumentParser) (content : List UInt8)
    (config : ParserConfig) : Except String ParsedDocument :=
  match parser with
  | .pdf => PdfTextParser.parse lib.hash (lib.readPdf content) content config
  | .html => SafeHtmlParser.parse lib.hash lib.readHtml content config
  | .text => .ok (PlainTextParser.parse lib.hash content config)
  | .json parser => JsonDocumentParser.parse lib.hash lib.folding lib.limits parser content config

/-! ## The layout -/

/-- How a parser lays a document out. -/
structure ParsedDocument.Laid (hash : IdealHash) (p : ParsedDocument) : Prop where
  checksum : p.canonicalTextChecksum = hash.digest p.canonicalText
  onlyOne : p.pages = [] ∨ p.sections = []
  pages : p.pages ≠ [] → p.canonicalText = joinPages p.pages
  numbers : p.pages.map (·.1.pageNumber) = List.range' 1 p.pages.length
  sections : ∀ s ∈ p.sections, s.1.startPage = none ∧ s.1.endPage = none ∧
    (s.1.locatorType = .htmlAnchorRange ∨ s.1.locatorType = .sectionRange ∨
      s.1.locatorType = .jsonPointer) ∧
    ∃ start stop : Nat, s.1.startOffset = some (start : Int) ∧ s.1.endOffset = some (stop : Int) ∧
      start < stop ∧ stop ≤ p.canonicalText.length

lemma laid_blocked (hash : IdealHash) (warning : String)
    (parserMetadata : List (String × String)) : (blocked hash warning parserMetadata).Laid hash where
  checksum := rfl
  onlyOne := Or.inl rfl
  pages h := absurd rfl h
  numbers := rfl
  sections s hs := by simp [blocked] at hs

lemma laid_plainText (hash : IdealHash) (content : List UInt8) (config : ParserConfig) :
    (PlainTextParser.parse hash content config).Laid hash := by
  unfold PlainTextParser.parse
  split
  · exact laid_blocked ..
  · simp only
    split_ifs
    · exact laid_blocked ..
    · exact laid_blocked ..
    · exact ⟨rfl, Or.inl rfl, fun h => absurd rfl h, rfl, by simp⟩

lemma numbers_readPages {hash : IdealHash} {config : ParserConfig} {extracted : List (Option Text)}
    {number : Nat} {warnings : List String} {pages : List ParsedPage} {warnings' : List String}
    (h : readPages hash config number warnings extracted = .ok (pages, warnings')) :
    pages.map (·.1.pageNumber) = List.range' number pages.length := by
  induction extracted generalizing number warnings pages with
  | nil =>
      cases h
      rfl
  | cons e extracted ih =>
      simp only [readPages] at h
      rcases Checked.bind_ok.mp h with ⟨page, hpage, h⟩
      rcases Checked.bind_ok.mp h with ⟨⟨rest, restWarnings⟩, hrest, h⟩
      cases h
      rw [Checked.validated_ok] at hpage
      simp [hpage, ih hrest, List.range'_succ]

lemma laid_pdf {hash : IdealHash} {reader : Option PdfReader} {content : List UInt8}
    {config : ParserConfig} {p : ParsedDocument}
    (h : PdfTextParser.parse hash reader content config = .ok p) : p.Laid hash := by
  unfold PdfTextParser.parse at h
  split at h
  · cases h
    exact laid_blocked ..
  split at h
  · cases h
    exact laid_blocked ..
  split at h
  · cases h
    exact laid_blocked ..
  split at h
  · cases h
    exact laid_blocked ..
  split at h
  · cases h
    exact laid_blocked ..
  rcases Checked.bind_ok.mp h with ⟨⟨pages, warnings⟩, hpages, h⟩
  simp only at h
  split at h
  · cases h
    exact laid_blocked ..
  · cases h
    exact ⟨rfl, Or.inr rfl, fun _ => rfl, numbers_readPages hpages, by simp⟩

/-- A section stands where its block does. -/
lemma mem_readSections {α : Type} {text : α → Text} {fields : α → Int → Int → SectionFields}
    {blocks : List α} {sections : List ParsedSection}
    (h : readSections text fields blocks = .ok sections) {s : ParsedSection} (hs : s ∈ sections) :
    ∃ block, ∃ start stop : Nat, s.1 = fields block start stop ∧
      stop ≤ (joinLines (blocks.map text)).length := by
  unfold readSections at h
  have hrel : List.Forall₂ (fun laid s => s.1 = fields laid.1 laid.2.1 laid.2.2)
      (laidOut text 1 0 blocks) sections := by
    refine Checked.forall₂_mapM ?_ h
    intro laid s hs
    exact Checked.validated_ok.mp hs
  rcases Checked.exists_of_forall₂ hrel.flip hs with ⟨⟨block, start, stop⟩, hmem, hfields⟩
  have hspan := @slice_of_mem_laidOut _ _ text ['\n'] blocks block start stop hmem
  exact ⟨block, start, stop, hfields, hspan.2.2⟩

/-- The offsets of a section do not meet. -/
lemma offsets_lt (s : ParsedSection) {start stop : Int} (hstart : s.1.startOffset = some start)
    (hstop : s.1.endOffset = some stop) : start < stop := by
  have hvalid := s.2
  simp only [SectionFields.validate, validateLocatorRanges, Checked.check_bind_ok,
    Checked.check_ok, hstart, hstop] at hvalid
  have hranges := hvalid.2.2.2.2.2.2.2.2.2.2.2.1
  simpa using hranges

/-- A text with a section for each of its blocks. -/
lemma laid_of_readSections {α : Type} {hash : IdealHash} {text : α → Text}
    {fields : α → Int → Int → SectionFields} {blocks : List α} {p : ParsedDocument}
    (hsections : readSections text fields blocks = .ok p.sections)
    (htext : p.canonicalText = joinLines (blocks.map text)) (hpages : p.pages = [])
    (hchecksum : p.canonicalTextChecksum = hash.digest p.canonicalText)
    (hfields : ∀ block start stop, (fields block start stop).startPage = none ∧
      (fields block start stop).endPage = none ∧
      ((fields block start stop).locatorType = .htmlAnchorRange ∨
        (fields block start stop).locatorType = .sectionRange ∨
        (fields block start stop).locatorType = .jsonPointer) ∧
      (fields block start stop).startOffset = some start ∧
      (fields block start stop).endOffset = some stop) : p.Laid hash where
  checksum := hchecksum
  onlyOne := Or.inl hpages
  pages h := absurd hpages h
  numbers := by simp [hpages]
  sections s hs := by
    rcases mem_readSections hsections hs with ⟨block, start, stop, hs, hle⟩
    rcases hfields block start stop with ⟨hfirst, hlast, htype, hstart, hstop⟩
    rw [← hs] at hfirst hlast htype hstart hstop
    have hlt := offsets_lt s hstart hstop
    exact ⟨hfirst, hlast, htype, start, stop, hstart, hstop, by omega, by rw [htext]; exact hle⟩

lemma laid_html {hash : IdealHash} {events : Text → List HtmlEvent} {content : List UInt8}
    {config : ParserConfig} {p : ParsedDocument}
    (h : SafeHtmlParser.parse hash events content config = .ok p) : p.Laid hash := by
  unfold SafeHtmlParser.parse at h
  split at h
  · cases h
    exact laid_blocked ..
  split at h
  · cases h
    exact laid_blocked ..
  · cases h
  simp only at h
  split at h
  · cases h
    exact laid_blocked ..
  rcases Checked.bind_ok.mp h with ⟨sections, hsections, h⟩
  cases h
  refine laid_of_readSections hsections ?_ rfl rfl ?_
  · change joinLines _ = joinLines (List.map (Block.text ∘ Prod.fst) _)
    rw [← List.map_map, List.zipIdx_map_fst]
  intro block start stop
  refine ⟨rfl, rfl, ?_, rfl, rfl⟩
  rcases h : block.1.anchor with _ | anchor <;> simp [blockSection, h]

lemma laid_json {hash : IdealHash} {folding : Folding} {limits : ReaderLimits}
    {parser : JsonDocumentParser} {content : List UInt8} {config : ParserConfig} {p : ParsedDocument}
    (h : parser.parse hash folding limits content config = .ok p) : p.Laid hash := by
  unfold JsonDocumentParser.parse at h
  split at h
  · cases h
    exact laid_blocked ..
  · cases h
    exact laid_blocked ..
  · cases h
  · cases h
  split at h
  · cases h
    exact laid_blocked ..
  split at h
  · cases h
    exact laid_blocked ..
  rcases Checked.bind_ok.mp h with ⟨values, -, h⟩
  split at h
  · cases h
    exact laid_blocked ..
  split at h
  · cases h
  rcases Checked.bind_ok.mp h with ⟨sections, hsections, h⟩
  cases h
  refine laid_of_readSections hsections rfl rfl rfl ?_
  intro value start stop
  exact ⟨rfl, rfl, Or.inr (Or.inr rfl), rfl, rfl⟩

/-- **Every parser keeps to the layout.** -/
theorem DocumentParser.laid_of_parse {lib : Libraries} {parser : DocumentParser}
    {content : List UInt8} {config : ParserConfig} {p : ParsedDocument}
    (h : parser.parse lib content config = .ok p) : p.Laid lib.hash := by
  cases parser with
  | pdf => exact laid_pdf h
  | html => exact laid_html h
  | text =>
      cases h
      exact laid_plainText ..
  | json parser => exact laid_json h

end StockResearch.Documents
