import StockResearch.Documents.Parsers

/-!
# When a parser returns

A parser that refuses a document returns it `BLOCKED`; a section that does not pass its own model, or
an exception of the interpreter, goes through the parser to its caller, which has acquired the parse
run by then.  What is returned is `Sound` if each section names the text between its offsets, the
sections stand one after the other, and no two have the same path.

The first two hold of whatever is returned (`sound_of_readSections`).  So it remains to say which
documents are returned and have distinct paths: `json_sound_iff` and `html_sound_iff` do.
-/

namespace StockResearch.Documents

open PyText Slice
open PyJson hiding isSpace

/-- A parsed document is sound: it is finished, every section names the text between its offsets, the
sections stand one after the other, and no two have the same path. -/
structure ParsedDocument.Sound (hash : IdealHash) (p : ParsedDocument) : Prop where
  finished : p.status = .pass ∨ p.status = .partly ∨ p.status = .blocked
  checksums : ∀ s ∈ p.sections, ∃ start stop : Int, s.1.startOffset = some start ∧
    s.1.endOffset = some stop ∧ s.1.textChecksum = hash.digest (slice p.canonicalText start stop)
  ordered : p.sections.Pairwise fun s t => ∃ stop start : Int, s.1.endOffset = some stop ∧
    t.1.startOffset = some start ∧ stop ≤ start
  distinct : (p.sections.map (·.1.sectionPath)).Nodup

lemma sound_blocked (hash : IdealHash) (warning : String) (metadata : List (String × String)) :
    (blocked hash warning metadata).Sound hash :=
  ⟨.inr (.inr rfl), by simp [blocked], by simp [blocked], by simp [blocked]⟩

/-! ## Sections one after the other -/

section

variable {α : Type} {hash : IdealHash} {text title : α → Text} {path : α → String}
  {locator : α → LocatorType} {kind : α → ContentKind} {fields : α → Int → Int → SectionFields}

/-- How the sections of HTML blocks and of JSON values are made. -/
def Describes (hash : IdealHash) (text title : α → Text) (path : α → String)
    (locator : α → LocatorType) (kind : α → ContentKind)
    (fields : α → Int → Int → SectionFields) : Prop :=
  ∀ block start stop, fields block start stop = {
    sectionPath := path block
    parentSectionPath := none
    level := 1
    title := title block
    locatorType := locator block
    startPage := none
    endPage := none
    startOffset := some start
    endOffset := some stop
    textChecksum := hash.digest (text block)
    contentKind := kind block }

/-- A block whose section passes its model. -/
def Presentable (text title : α → Text) (path : α → String) (block : α) : Prop :=
  text block ≠ [] ∧ (1 ≤ (path block).length ∧ (path block).length ≤ 512) ∧
    1 ≤ (title block).length ∧ (title block).length ≤ 1000

lemma validate_iff (hfields : Describes hash text title path locator kind fields)
    (hlocator : ∀ block, locator block ≠ .pdfPageRange) (block : α) (start : Nat) :
    (fields block start ((start + (text block).length : Nat) : Int)).validate = .ok () ↔
      Presentable text title path block := by
  rw [hfields]
  simp only [SectionFields.validate, Checked.check_bind_ok, validateLocatorRanges_ok, Presentable,
    ← List.length_pos_iff]
  have := hlocator block
  simp only [Option.mem_def, reduceCtorEq, false_and, exists_false, not_false_eq_true,
    Option.some.injEq, exists_eq_left', true_and, Option.isNone_some, IsEmpty.forall_iff,
    implies_true, forall_eq', ne_eq, this, and_true, not_or, Nat.not_lt]
  omega

/-- The sections of blocks that are laid out, when all of them pass their model. -/
lemma exists_readSections (hfields : Describes hash text title path locator kind fields)
    (hlocator : ∀ block, locator block ≠ .pdfPageRange) {blocks : List α} :
    (∃ sections, readSections text fields blocks = .ok sections) ↔
      ∀ block ∈ blocks, Presentable text title path block := by
  have hlaid : ∀ laid ∈ laidOut text 1 0 blocks,
      (∃ s, Checked.validated SectionFields.validate (fields laid.1 laid.2.1 laid.2.2) = .ok s) ↔
        Presentable text title path laid.1 := by
    rintro ⟨block, start, stop⟩ hmem
    obtain ⟨-, hstop, -⟩ := @slice_of_mem_laidOut _ _ text ['\n'] blocks block start stop hmem
    rw [Checked.exists_validated, hstop]
    exact validate_iff hfields hlocator block start
  unfold readSections
  rw [Checked.exists_mapM_ok]
  constructor
  · intro h block hblock
    rw [← map_fst_laidOut text 1 0 blocks, List.mem_map] at hblock
    obtain ⟨laid, hmem, rfl⟩ := hblock
    exact (hlaid laid hmem).mp (h laid hmem)
  · intro h laid hmem
    refine (hlaid laid hmem).mpr (h laid.1 ?_)
    rw [← map_fst_laidOut text 1 0 blocks]
    exact List.mem_map_of_mem hmem

/-- What such sections say of the joined text. -/
lemma sound_of_readSections (hfields : Describes hash text title path locator kind fields)
    {blocks : List α} {p : ParsedDocument}
    (hsections : readSections text fields blocks = .ok p.sections)
    (htext : p.canonicalText = joinLines (blocks.map text))
    (hstatus : p.status = .pass ∨ p.status = .partly) :
    p.Sound hash ↔ (blocks.map path).Nodup := by
  unfold readSections at hsections
  have hrelated : List.Forall₂ (fun laid s => s.1 = fields laid.1 laid.2.1 laid.2.2)
      (laidOut text 1 0 blocks) p.sections := by
    refine Checked.forall₂_mapM ?_ hsections
    intro laid s hs
    exact Checked.validated_ok.mp hs
  have hpaths : p.sections.map (·.1.sectionPath) = blocks.map path := by
    have hmap : (laidOut text 1 0 blocks).map (fun laid => path laid.1) =
        p.sections.map (·.1.sectionPath) :=
      Checked.map_eq_of_forall₂ hrelated fun laid s hs => by rw [hs, hfields]
    rw [← hmap, ← map_fst_laidOut text 1 0 blocks, List.map_map, map_fst_laidOut]
    rfl
  refine ⟨fun h => hpaths ▸ h.distinct, fun hnodup => ⟨?_, ?_, ?_, hpaths ▸ hnodup⟩⟩
  · exact hstatus.elim .inl (.inr ∘ .inl)
  · intro s hs
    obtain ⟨⟨block, start, stop⟩, hmem, hs⟩ := Checked.exists_of_forall₂ hrelated.flip hs
    obtain ⟨hslice, -, -⟩ := @slice_of_mem_laidOut _ _ text ['\n'] blocks block start stop hmem
    rw [hfields] at hs
    refine ⟨start, stop, by rw [hs], by rw [hs], ?_⟩
    rw [hs, htext, joinLines, hslice]
  · have hoffsets : (laidOut text 1 0 blocks).map (fun laid => ((laid.2.1 : Int), (laid.2.2 : Int))) =
        p.sections.map fun s => (s.1.startOffset.getD 0, s.1.endOffset.getD 0) :=
      Checked.map_eq_of_forall₂ hrelated fun laid s hs => by rw [hs, hfields]; rfl
    have hordered : (p.sections.map fun s => (s.1.startOffset.getD 0, s.1.endOffset.getD 0)).Pairwise
        fun x y => x.2 ≤ y.1 := by
      rw [← hoffsets, List.pairwise_map]
      exact (pairwise_laidOut text 1 0 blocks).1.imp fun h => Int.ofNat_le.mpr h
    refine (List.pairwise_map.mp hordered).imp_of_mem fun {s t} hs ht hst => ?_
    obtain ⟨laid, -, hs⟩ := Checked.exists_of_forall₂ hrelated.flip hs
    obtain ⟨laid', -, ht⟩ := Checked.exists_of_forall₂ hrelated.flip ht
    rw [hs, ht, hfields, hfields] at hst
    exact ⟨laid.2.2, laid'.2.1, by rw [hs, hfields], by rw [ht, hfields], hst⟩

/-- A document made of such sections is returned and sound, if and only if every section passes its
model and no path is repeated. -/
lemma exists_sound_iff (hfields : Describes hash text title path locator kind fields)
    (hlocator : ∀ block, locator block ≠ .pdfPageRange) {blocks : List α}
    {make : List ParsedSection → ParsedDocument} (hmake : ∀ sections,
      (make sections).sections = sections ∧
      (make sections).canonicalText = joinLines (blocks.map text) ∧
      ((make sections).status = .pass ∨ (make sections).status = .partly)) :
    (∃ p, (readSections text fields blocks >>= fun sections => pure (make sections)) = .ok p ∧
        p.Sound hash) ↔
      (∀ block ∈ blocks, Presentable text title path block) ∧ (blocks.map path).Nodup := by
  constructor
  · rintro ⟨p, hp, hsound⟩
    obtain ⟨sections, hsections, hp⟩ := Checked.bind_ok.mp hp
    cases hp
    obtain ⟨hmade, htext, hstatus⟩ := hmake sections
    refine ⟨(exists_readSections hfields hlocator).mp ⟨sections, hsections⟩, ?_⟩
    exact (sound_of_readSections hfields (hmade.symm ▸ hsections) htext hstatus).mp hsound
  · rintro ⟨hpresentable, hnodup⟩
    obtain ⟨sections, hsections⟩ := (exists_readSections hfields hlocator).mpr hpresentable
    obtain ⟨hmade, htext, hstatus⟩ := hmake sections
    refine ⟨make sections, Checked.bind_ok.mpr ⟨sections, hsections, rfl⟩, ?_⟩
    exact (sound_of_readSections hfields (hmade.symm ▸ hsections) htext hstatus).mpr hnodup

end

/-! ## HTML -/

/-- Every block that was collected has a text and a title. -/
def Collector.Filled (c : Collector) : Prop := ∀ block ∈ c.blocks, block.text ≠ [] ∧ block.title ≠ []

lemma Collector.Filled.flush {c : Collector} (h : c.Filled) : c.flush.Filled := by
  unfold Collector.flush
  dsimp only
  split
  case isTrue => exact h
  case isFalse htext =>
    have hnew : ∀ block : Block, block.text ≠ [] ∧ block.title ≠ [] →
        ∀ b ∈ c.blocks ++ [block], b.text ≠ [] ∧ b.title ≠ [] := fun block hblock =>
      List.forall_mem_append.mpr ⟨h, by simpa using hblock⟩
    split
    · exact hnew _ ⟨htext, htext⟩
    · split
      · exact hnew _ ⟨htext, by simp⟩
      · exact hnew _ ⟨htext, by simp⟩

/-- A step keeps the blocks filled: it adds one only by `_flush`. -/
lemma Collector.Filled.handle {config : ParserConfig} {c c' : Collector} (h : c.Filled)
    {event : HtmlEvent} (hstep : c.handle config event = .ok c') : c'.Filled := by
  cases event with
  | starttag tag attrs =>
      have hstep := Checked.require_ok.mp hstep
      unfold Collector.handleStarttag at hstep
      dsimp only at hstep
      split at hstep
      · cases hstep
      split at hstep
      · cases hstep
      split at hstep
      · cases hstep
        exact h
      split at hstep
      · cases hstep
        exact h
      -- A table flushes what stands before it, and a cell is set off from the one before.
      generalize htable : (if tag = "table" then _ else _ : Collector) = table at hstep
      have hopened : Collector.Filled { c with nodes := c.nodes + 1, stack := tag :: c.stack } := h
      have hfilled : table.Filled := by
        subst htable
        split
        · exact fun block hblock => hopened.flush block hblock
        · exact h
      generalize hcell : (if (tag = "td" ∨ tag = "th") ∧ table.current ≠ [] then _ else table) = cell
        at hstep
      have hfilled : cell.Filled := by
        subst hcell
        split
        · exact hfilled
        · exact hfilled
      split at hstep
      · cases hstep
        exact fun block hblock => hfilled.flush block hblock
      · cases hstep
        exact hfilled
  | endtag tag =>
      cases hstep
      unfold Collector.handleEndtag
      dsimp only
      split_ifs <;> first
        | exact h
        | exact fun block hblock => Collector.Filled.flush h block hblock
  | data data =>
      cases hstep
      unfold Collector.handleData
      split_ifs <;> exact h
  | failure => cases hstep

lemma filled_of_events {config : ParserConfig} {events : List HtmlEvent} {c c' : Collector}
    (h : c.Filled) (hrun : events.foldlM (Collector.handle config) c = .ok c') : c'.Filled := by
  induction events generalizing c with
  | nil =>
      cases hrun
      exact h
  | cons event events ih =>
      rw [List.foldlM_cons, Checked.bind_ok] at hrun
      obtain ⟨d, hd, hrun⟩ := hrun
      exact ih (h.handle hd) hrun

def numberedPath (block : Block × Nat) : String := blockPath block.1.anchor block.2

/-- **When the HTML parser does its work**: it blocks the document, or `html.parser` reads it, no
heading is longer than a title and no anchor longer than a path may be, and no path is repeated. -/
def HtmlReadable (events : Text → List HtmlEvent) (content : List UInt8) (config : ParserConfig) :
    Prop :=
  match decodeUtf8Sig content with
  | none => True
  | some source =>
      match (events source).foldlM (Collector.handle config) .init with
      | .error .boundExceeded => True
      | .error .failure => False
      | .ok collector =>
          config.maxDocumentCharacters < (joinLines (collector.flush.blocks.map (·.text))).length ∨
            (∀ block ∈ collector.flush.blocks.zipIdx,
              (numberedPath block).length ≤ 512 ∧ block.1.title.length ≤ 1000) ∧
            (collector.flush.blocks.zipIdx.map numberedPath).Nodup

lemma describes_blockSection (hash : IdealHash) :
    Describes hash (fun block : Block × Nat => block.1.text) (·.1.title) numberedPath
      (fun block => if block.1.anchor.isSome then .htmlAnchorRange else .sectionRange) (·.1.kind)
      (blockSection hash) := fun _ _ _ => rfl

lemma one_le_length_numberedPath (block : Block × Nat) : 1 ≤ (numberedPath block).length := by
  have hnumber : 1 ≤ s!"/block/{block.2}".length := by
    have hslash : (toString "/block/").length = 7 := by decide
    rw [String.length_append, hslash]
    omega
  unfold numberedPath blockPath
  cases block.1.anchor with
  | none => exact hnumber
  | some anchor =>
      dsimp only
      split_ifs with hempty
      · exact hnumber
      · exact Nat.one_le_iff_ne_zero.mpr fun h => hempty (String.length_eq_zero_iff.mp h)

theorem html_sound_iff (hash : IdealHash) (events : Text → List HtmlEvent) (content : List UInt8)
    (config : ParserConfig) :
    (∃ p, SafeHtmlParser.parse hash events content config = .ok p ∧ p.Sound hash) ↔
      HtmlReadable events content config := by
  unfold SafeHtmlParser.parse HtmlReadable
  rcases decodeUtf8Sig content with _ | source
  · exact ⟨fun _ => trivial, fun _ => ⟨_, rfl, sound_blocked ..⟩⟩
  dsimp only
  rcases hrun : (events source).foldlM (Collector.handle config) .init with (_ | _) | collector
  · exact ⟨fun _ => trivial, fun _ => ⟨_, rfl, sound_blocked ..⟩⟩
  · simp
  dsimp only
  split
  case isTrue hlimit => exact ⟨fun _ => .inl hlimit, fun _ => ⟨_, rfl, sound_blocked ..⟩⟩
  case isFalse hlimit =>
    have hfilled : collector.flush.Filled :=
      (filled_of_events (by simp [Collector.Filled, Collector.init]) hrun).flush
    have hpresentable : (∀ block ∈ collector.flush.blocks.zipIdx,
        Presentable (fun block : Block × Nat => block.1.text) (·.1.title) numberedPath block) ↔
        ∀ block ∈ collector.flush.blocks.zipIdx,
          (numberedPath block).length ≤ 512 ∧ block.1.title.length ≤ 1000 := by
      refine forall₂_congr fun block hblock => ?_
      obtain ⟨htext, htitle⟩ := hfilled block.1 (List.fst_mem_of_mem_zipIdx hblock)
      have hpath := one_le_length_numberedPath block
      have := List.length_pos_iff.mpr htitle
      simp only [Presentable, ne_eq, htext, not_false_eq_true, hpath, true_and]
      exact and_congr_right fun _ => ⟨And.right, fun h => ⟨this, h⟩⟩
    rw [or_iff_right hlimit, ← hpresentable]
    refine exists_sound_iff (describes_blockSection hash) (fun block => by split_ifs <;> simp)
      fun sections => ⟨rfl, ?_, by split_ifs <;> simp⟩
    change joinLines _ = joinLines (List.map (Block.text ∘ Prod.fst) _)
    rw [← List.map_map, List.zipIdx_map_fst]

/-! ## JSON -/

/-- A string at a pointer that can stand as a section: it is not empty, has no half of a surrogate
pair, and the pointer is no longer than a path may be. -/
def Promotable (value : String × List Nat) : Prop :=
  value.2 ≠ [] ∧ (∀ point ∈ value.2, point.isValidChar) ∧ value.1.length ≤ 512

/-- **When the JSON parser does its work**: the interpreter lets it read the text, and it blocks the
document or finds only strings that can stand as sections. -/
def JsonReadable (folding : Folding) (limits : ReaderLimits) (parser : JsonDocumentParser)
    (content : List UInt8) (config : ParserConfig) : Prop :=
  match (decoded (decodeUtf8Sig content)).bind (strictLoads limits) with
  | .error .duplicateKey => True
  | .error .decoding => True
  | .error .recursion => False
  | .error .digits => False
  | .ok root =>
      (config.approvedJsonPointers ≠ [] ∧ config.approvedJsonPointers ≠ parser.approved) ∨
      checkBounds config.maxJsonDepth config.maxJsonArrayItems 1 root ≠ .ok () ∨
      ∃ values, approvedValues folding limits root parser.approved = .ok values ∧
        (config.maxDocumentCharacters < ([10].intercalate (values.map Prod.snd)).length ∨
          ∀ value ∈ values, Promotable value)

lemma describes_valueSection (hash : IdealHash) :
    Describes hash (Prod.snd : String × Text → Text) (·.1.toList) Prod.fst (fun _ => .jsonPointer)
      (fun _ => .json) (valueSection hash) := fun _ _ _ => rfl

lemma exists_mapM_scalar {points : List Nat} :
    (∃ text, points.mapM scalar = some text) ↔ ∀ point ∈ points, point.isValidChar := by
  induction points with
  | nil => simp
  | cons point points ih =>
      simp only [List.mapM_cons, Option.bind_eq_bind, Option.bind_eq_some_iff, Option.pure_def,
        Option.some.injEq, List.forall_mem_cons, ← ih, scalar]
      constructor
      · rintro ⟨_, c, hc, cs, hcs, -⟩
        split_ifs at hc with hvalid
        exact ⟨hvalid, cs, hcs⟩
      · rintro ⟨hvalid, cs, hcs⟩
        exact ⟨Char.ofNat point :: cs, Char.ofNat point, if_pos hvalid, cs, hcs, rfl⟩

lemma exists_encodeValue {value : String × List Nat} :
    (∃ text, encodeValue value = .ok text) ↔ ∀ point ∈ value.2, point.isValidChar := by
  rw [← exists_mapM_scalar]
  unfold encodeValue
  cases value.2.mapM scalar <;> simp

/-- The strings stand at distinct pointers, in the order of the pointers. -/
lemma sublist_of_approvedValues {folding : Folding} {limits : ReaderLimits} {root : Doc}
    {pointers : List String} {values : List (String × List Nat)}
    (h : approvedValues folding limits root pointers = .ok values) :
    (values.map Prod.fst).Sublist pointers := by
  obtain ⟨found, hfound, hvalues⟩ := Checked.bind_ok.mp h
  cases hvalues
  have hrelated : List.Forall₂ (fun pointer x => ∀ value ∈ x, value.1 = pointer) pointers found := by
    refine Checked.forall₂_mapM (fun pointer x hx value hvalue => ?_) hfound
    obtain ⟨resolved, -, hx⟩ := Checked.bind_ok.mp hx
    split at hx <;> cases hx <;> cases hvalue
    rfl
  clear h hfound
  induction hrelated with
  | nil => exact .slnil
  | @cons pointer x pointers found hx _ ih =>
      cases x with
      | none => exact ih.cons pointer
      | some value =>
          have hvalue := hx value rfl
          subst hvalue
          exact ih.cons₂ value.1

/-- A string that was encoded can stand as a section if and only if its section passes its model. -/
lemma promotable_iff {value : String × List Nat} {text : String × Text}
    (h : encodeValue value = .ok text) :
    (Promotable value ∧ 1 ≤ value.1.length) ↔
      Presentable Prod.snd (·.1.toList) Prod.fst text := by
  have hvalid := exists_encodeValue.mp ⟨text, h⟩
  obtain ⟨htext, hpointer⟩ := encodeValue_ok h
  have hlength := length_of_mapM_scalar htext
  simp only [Promotable, Presentable, ← List.length_pos_iff, hpointer, hlength, String.length_toList]
  constructor
  · rintro ⟨⟨hpos, -, hmax⟩, hmin⟩
    exact ⟨hpos, ⟨hmin, hmax⟩, hmin, by omega⟩
  · rintro ⟨hpos, ⟨hmin, hmax⟩, -⟩
    exact ⟨⟨hpos, hvalid, hmax⟩, hmin⟩

/-- The document of the strings at the approved pointers, unless they are too long together. -/
lemma exists_promoted_iff (hash : IdealHash) {values : List (String × List Nat)}
    (hpointers : ∀ value ∈ values, 1 ≤ value.1.length) (hnodup : (values.map Prod.fst).Nodup)
    {make : (texts : List (String × Text)) → values.mapM encodeValue = .ok texts →
      List ParsedSection → ParsedDocument}
    (hmake : ∀ texts hencoded sections, (make texts hencoded sections).sections = sections ∧
      (make texts hencoded sections).canonicalText = joinLines (texts.map Prod.snd) ∧
      ((make texts hencoded sections).status = .pass ∨
        (make texts hencoded sections).status = .partly)) :
    (∃ p, (match hencoded : values.mapM encodeValue with
        | .error e => .error e
        | .ok texts => readSections Prod.snd (valueSection hash) texts >>= fun sections =>
            pure (make texts hencoded sections)) = (.ok p : Except String ParsedDocument) ∧
        p.Sound hash) ↔
      ∀ value ∈ values, Promotable value := by
  split
  case h_1 e hencoded =>
    constructor
    · rintro ⟨p, hp, -⟩
      cases hp
    · intro h
      obtain ⟨texts, htexts⟩ := Checked.exists_mapM_ok.mpr fun value hvalue =>
        exists_encodeValue.mpr (h value hvalue).2.1
      rw [hencoded] at htexts
      cases htexts
  case h_2 texts hencoded =>
    have hrelated : List.Forall₂ (fun value text => encodeValue value = .ok text) values texts :=
      Checked.forall₂_mapM (fun _ _ h => h) hencoded
    have hpaths : texts.map Prod.fst = values.map Prod.fst :=
      (Checked.map_eq_of_forall₂ hrelated fun value text h => (encodeValue_ok h).2).symm
    have hpresentable : (∀ text ∈ texts, Presentable Prod.snd (·.1.toList) Prod.fst text) ↔
        ∀ value ∈ values, Promotable value := by
      rw [← Checked.forall_iff_of_forall₂ hrelated fun value text h => promotable_iff h]
      exact forall₂_congr fun value hvalue => and_iff_left (hpointers value hvalue)
    rw [exists_sound_iff (describes_valueSection hash) (by simp) (hmake texts hencoded),
      hpresentable, hpaths]
    exact and_iff_left hnodup

theorem json_sound_iff (hash : IdealHash) (folding : Folding) (limits : ReaderLimits)
    (parser : JsonDocumentParser) (content : List UInt8) (config : ParserConfig) :
    (∃ p, parser.parse hash folding limits content config = .ok p ∧ p.Sound hash) ↔
      JsonReadable folding limits parser content config := by
  unfold JsonDocumentParser.parse JsonReadable
  rcases (decoded (decodeUtf8Sig content)).bind (strictLoads limits) with (_ | _ | _ | _) | root
  · exact ⟨fun _ => trivial, fun _ => ⟨_, rfl, sound_blocked ..⟩⟩
  · exact ⟨fun _ => trivial, fun _ => ⟨_, rfl, sound_blocked ..⟩⟩
  · simp
  · simp
  dsimp only
  split
  case isTrue hmismatch => exact ⟨fun _ => .inl hmismatch, fun _ => ⟨_, rfl, sound_blocked ..⟩⟩
  case isFalse hmismatch =>
    rw [or_iff_right hmismatch]
    rcases hbounds : checkBounds config.maxJsonDepth config.maxJsonArrayItems 1 root with warning | ⟨⟩
    · exact ⟨fun _ => .inl (by simp), fun _ => ⟨_, rfl, sound_blocked ..⟩⟩
    rw [or_iff_right (by simp)]
    rcases happroved : approvedValues folding limits root parser.approved with e | values
    · refine ⟨?_, ?_⟩
      · rintro ⟨p, hp, -⟩
        cases hp
      · rintro ⟨values, hvalues, -⟩
        cases hvalues
    have hsublist := sublist_of_approvedValues happroved
    have hpointers : ∀ value ∈ values, 1 ≤ value.1.length := by
      intro value hvalue
      have hhead := parser.approved_ok value.1 (hsublist.subset (List.mem_map_of_mem hvalue))
      rw [← String.length_toList]
      exact List.length_pos_iff.mpr fun hnil => by simp [hnil] at hhead
    simp only [Except.ok.injEq, exists_eq_left', Checked.ok_bind]
    split
    case isTrue hlimit => exact ⟨fun _ => .inl hlimit, fun _ => ⟨_, rfl, sound_blocked ..⟩⟩
    case isFalse hlimit =>
      rw [or_iff_right hlimit]
      exact exists_promoted_iff hash hpointers (parser.approved_nodup.sublist hsublist)
        fun texts hencoded sections => ⟨rfl, rfl, .inl rfl⟩

/-! ## The law -/

/-- **When the JSON and the HTML parser return a sound document.** -/
theorem parse_sound_iff (lib : Libraries) (content : List UInt8) (config : ParserConfig) :
    (∀ parser : JsonDocumentParser,
      (∃ p, (DocumentParser.json parser).parse lib content config = .ok p ∧ p.Sound lib.hash) ↔
        JsonReadable lib.folding lib.limits parser content config) ∧
    ((∃ p, DocumentParser.html.parse lib content config = .ok p ∧ p.Sound lib.hash) ↔
      HtmlReadable lib.readHtml content config) :=
  ⟨fun parser => json_sound_iff lib.hash lib.folding lib.limits parser content config,
    html_sound_iff lib.hash lib.readHtml content config⟩

/-- A parser of one pointer. -/
def onePointer : JsonDocumentParser where
  approved := ["/a"]
  approved_ok := by decide
  approved_nodup := by decide

/-- What `html.parser` reports of two headings with one anchor. -/
def repeatedAnchor : Text → List HtmlEvent := fun _ =>
  [.starttag "h1" [("id", some "a")], .data ['x'], .endtag "h1",
    .starttag "h1" [("id", some "a")], .data ['y'], .endtag "h1"]

def headingLibraries : Libraries where
  readPdf _ := none
  readHtml := repeatedAnchor
  folding := asciiFolding
  hash := default
  limits := ⟨1000, 4300⟩

def emptyValue : List UInt8 := "\x7b\"a\":\"\"\x7d".toUTF8.toList

def twoHeadings : List UInt8 := "<h1 id=a>x</h1><h1 id=a>y</h1>".toUTF8.toList

/-- The paths of the sections that a parser returns. -/
def pathsOf (parser : DocumentParser) (content : List UInt8) : Except String (List String) :=
  (parser.parse headingLibraries content .default).map fun p => p.sections.map (·.1.sectionPath)

/-- **An empty string at an approved pointer makes the JSON parser raise, and a repeated anchor makes
the HTML parser return one path twice.** -/
theorem parse_empty_and_repeated :
    (∀ p, (DocumentParser.json onePointer).parse headingLibraries emptyValue .default ≠ .ok p) ∧
    ∃ p, DocumentParser.html.parse headingLibraries twoHeadings .default = .ok p ∧
      ¬ (p.sections.map (·.1.sectionPath)).Nodup := by
  have hraises : (pathsOf (.json onePointer) emptyValue).isOk = false := by decide +kernel
  have hrepeated : pathsOf .html twoHeadings = .ok ["a", "a"] := by decide +kernel
  constructor
  · intro p hp
    rw [pathsOf, hp] at hraises
    cases hraises
  · obtain ⟨p, hp, hpaths⟩ := Checked.map_ok.mp hrepeated
    exact ⟨p, hp, by rw [hpaths]; decide⟩

end StockResearch.Documents
