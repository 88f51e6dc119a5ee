import StockResearch.Reports.Projection

/-!
# The lines of a Markdown projection

The projection joins lines, and every line is made of fixed pieces and of escaped texts.

**Escaping.**  An escaped text has no line break and no angle bracket (`clean_escapeMarkdown`), a
number sign in it follows a backslash (`guarded_escapeMarkdown`), and it begins with a hyphen only
if the text does.

**Lines.**  `blockLines_ok` and `sectionLines_ok`: the lines of a block and of a section are clean,
and exactly their headings start a heading.

**Both together.**  `markdown_lines`: splitting the projection gives its lines back.
-/

namespace StockResearch.Reports

open PyText PyJson Checked ResearchAgent

variable {lib : ReportLibrary} {t : Text} {c : Char}

/-! ## Escaping -/

/-- What `_escape` replaces, one after the other. -/
def escapes : List (Text × Text) :=
  [(['\\'], ['\\', '\\']), (['\r', '\n'], ['\n']), (['\r'], ['\n']), (['\n'], ['\\', 'n']),
    (['<'], ['&', 'l', 't', ';']), (['>'], ['&', 'g', 't', ';']),
    (['`'], ['\\', '`']), (['*'], ['\\', '*']), (['_'], ['\\', '_']), (['['], ['\\', '[']),
    ([']'], ['\\', ']']), (['#'], ['\\', '#']), (['|'], ['\\', '|'])]

def replaceAll (rules : List (Text × Text)) (t : Text) : Text :=
  rules.foldl (fun t rule => replaceAfter rule.1 rule.2 0 t) t

lemma escapeMarkdown_eq (t : Text) : escapeMarkdown t = replaceAll escapes t := by
  simp only [escapeMarkdown, replaceAll, escapes, replace, List.foldl_cons, List.foldl_nil]
  rfl

/-- No rule brings a character in. -/
lemma not_mem_replaceAll {rules : List (Text × Text)} (hrules : ∀ rule ∈ rules, c ∉ rule.2)
    (h : c ∉ t) : c ∉ replaceAll rules t := by
  induction rules generalizing t with
  | nil => exact h
  | cons rule rules ih =>
      refine ih (fun rule' hrule' => hrules rule' (List.mem_cons_of_mem _ hrule')) fun hc => ?_
      rcases mem_replaceAfter hc with hc | hc
      · exact hrules rule List.mem_cons_self hc
      · exact h hc

/-- A character that is replaced, and brought in neither by its rule nor by a later one. -/
lemma not_mem_of_replaced {rules : List (Text × Text)} (c : Char) (new : Text)
    (front back : List (Text × Text)) (hrules : rules = front ++ ([c], new) :: back)
    (hnew : c ∉ new) (hback : ∀ rule ∈ back, c ∉ rule.2) (t : Text) : c ∉ replaceAll rules t := by
  rw [hrules, replaceAll, List.foldl_append, List.foldl_cons]
  refine not_mem_replaceAll hback fun hc => ?_
  rw [replaceAfter_singleton] at hc
  obtain ⟨d, -, hd⟩ := List.mem_flatMap.mp hc
  split at hd
  · exact hnew hd
  · next hne => exact hne (List.mem_singleton.mp hd).symm

/-- No line break and no angle bracket. -/
def Clean (t : Text) : Prop := ∀ c ∈ t, c ≠ '\n' ∧ c ≠ '\r' ∧ c ≠ '<' ∧ c ≠ '>'

lemma clean_append {s t : Text} : Clean (s ++ t) ↔ Clean s ∧ Clean t := List.forall_mem_append

lemma clean_cons {t : Text} : Clean (c :: t) ↔
    (c ≠ '\n' ∧ c ≠ '\r' ∧ c ≠ '<' ∧ c ≠ '>') ∧ Clean t := List.forall_mem_cons

lemma clean_escapeMarkdown (t : Text) : Clean (escapeMarkdown t) := by
  rw [escapeMarkdown_eq]
  have hline : '\n' ∉ replaceAll escapes t :=
    not_mem_of_replaced '\n' ['\\', 'n'] (escapes.take 3) (escapes.drop 4) rfl (by decide)
      (by decide) t
  have hreturn : '\r' ∉ replaceAll escapes t :=
    not_mem_of_replaced '\r' ['\n'] (escapes.take 2) (escapes.drop 3) rfl (by decide)
      (by decide) t
  have hless : '<' ∉ replaceAll escapes t :=
    not_mem_of_replaced '<' ['&', 'l', 't', ';'] (escapes.take 4) (escapes.drop 5) rfl (by decide)
      (by decide) t
  have hgreater : '>' ∉ replaceAll escapes t :=
    not_mem_of_replaced '>' ['&', 'g', 't', ';'] (escapes.take 5) (escapes.drop 6) rfl (by decide)
      (by decide) t
  exact fun c hc => ⟨ne_of_mem_of_not_mem hc hline, ne_of_mem_of_not_mem hc hreturn,
    ne_of_mem_of_not_mem hc hless, ne_of_mem_of_not_mem hc hgreater⟩

/-- After the given character, every number sign follows a backslash. -/
def Guarded (before : Char) : Text → Prop
  | [] => True
  | c :: cs => (c = '#' → before = '\\') ∧ Guarded c cs

lemma guarded_replace_sign (t : Text) (before : Char) :
    Guarded before (replaceAfter ['#'] ['\\', '#'] 0 t) := by
  rw [replaceAfter_singleton]
  induction t generalizing before with
  | nil => trivial
  | cons c t ih =>
      rw [List.flatMap_cons]
      split
      · exact ⟨fun h => absurd h (by decide), fun _ => rfl, ih '#'⟩
      · next hne => exact ⟨fun h => absurd h hne, ih c⟩

lemma guarded_replace_bar {before : Char} (h : Guarded before t) :
    Guarded before (replaceAfter ['|'] ['\\', '|'] 0 t) := by
  rw [replaceAfter_singleton]
  induction t generalizing before with
  | nil => trivial
  | cons c t ih =>
      rw [List.flatMap_cons]
      split
      · next hbar =>
        subst hbar
        exact ⟨fun h => absurd h (by decide), fun h => absurd h (by decide), ih h.2⟩
      · exact ⟨h.1, ih h.2⟩

/-- Every number sign of an escaped text follows a backslash. -/
lemma guarded_escapeMarkdown (t : Text) (before : Char) : Guarded before (escapeMarkdown t) := by
  have hlast : escapes = escapes.take 11 ++ [(['#'], ['\\', '#']), (['|'], ['\\', '|'])] := rfl
  rw [escapeMarkdown_eq, hlast, replaceAll, List.foldl_append, List.foldl_cons, List.foldl_cons,
    List.foldl_nil]
  exact guarded_replace_bar (guarded_replace_sign _ before)

def isIndent (c : Char) : Bool := c == ' ' || c == '\t'

/-- A line that starts a heading: the number sign may be indented. -/
def startsHeading (line : Text) : Bool := (line.dropWhile isIndent).head? == some '#'

lemma not_startsHeading_of_guarded (before : Char) (hbefore : before ≠ '\\')
    (h : Guarded before t) : startsHeading t = false := by
  induction t generalizing before with
  | nil => rfl
  | cons c t ih =>
      by_cases hc : isIndent c = true
      · have hne : c ≠ '\\' := by
          rintro rfl
          exact absurd hc (by decide)
        have hrest := ih c hne h.2
        rw [startsHeading] at hrest ⊢
        rwa [List.dropWhile_cons_of_pos hc]
      · have hsign : c ≠ '#' := fun hsign => hbefore (h.1 hsign)
        rw [startsHeading, List.dropWhile_cons_of_neg hc]
        simpa using hsign

lemma not_startsHeading_escape (t : Text) : startsHeading (escapeMarkdown t) = false :=
  not_startsHeading_of_guarded ' ' (by decide) (guarded_escapeMarkdown t ' ')

/-- An escaped text begins with a hyphen only if the text does. -/
lemma head?_escapeMarkdown (h : (escapeMarkdown t).head? = some '-') : t.head? = some '-' := by
  have hrules : ∀ rule ∈ escapes, rule.2 ≠ [] ∧ rule.2.head? ≠ some '-' := by decide
  rw [escapeMarkdown_eq] at h
  generalize escapes = rules at h hrules
  induction rules generalizing t with
  | nil => exact h
  | cons rule rules ih =>
      obtain ⟨hne, hhead⟩ := hrules rule List.mem_cons_self
      exact head?_replaceAfter hne hhead
        (ih h fun rule' hrule' => hrules rule' (List.mem_cons_of_mem _ hrule'))

/-! ## Lines -/

def documentHeading (content : ContentFields) : Text :=
  headingLine "#" "Research Report".toList content.schemaVersion content.locale.value.toList

def sectionHeading (s : SectionFields) : Text :=
  headingLine "##" s.title s.reportSection.value.toList s.status.value.toList

def blockHeading (b : BlockFields) : Text :=
  headingLine "###" b.blockKey b.blockType.value.toList b.status.value.toList

/-- The heading of the document, and one for each section and for each block, in order. -/
def headings (content : ContentFields) : List Text :=
  documentHeading content ::
    content.sections.flatMap fun s => sectionHeading s :: s.blocks.map blockHeading

/-- Clean lines, of which exactly the given ones start a heading. -/
structure Lines (lines expected : List Text) : Prop where
  clean : ∀ l ∈ lines, Clean l
  headings : lines.filter startsHeading = expected

lemma Lines.append {as bs hs ks : List Text} (h : Lines as hs) (h' : Lines bs ks) :
    Lines (as ++ bs) (hs ++ ks) where
  clean := List.forall_mem_append.mpr ⟨h.clean, h'.clean⟩
  headings := by rw [List.filter_append, h.headings, h'.headings]

/-- Lines none of which starts a heading. -/
lemma lines_of_forall {lines : List Text} (h : ∀ l ∈ lines, Clean l ∧ startsHeading l = false) :
    Lines lines [] where
  clean l hl := (h l hl).1
  headings := by
    refine List.filter_eq_nil_iff.mpr fun l hl => ?_
    simp [(h l hl).2]

lemma lines_empty : Lines [[]] [] := lines_of_forall (by simp [Clean, startsHeading])

lemma lines_heading (mark : String) (rest : Text) (hmark : mark.toList = '#' :: rest)
    (hrest : Clean rest) (a b c : Text) : Lines [headingLine mark a b c] [headingLine mark a b c] := by
  have hopen : Clean " [".toList := forall_of_all (by decide)
  have hbetween : Clean "] [".toList := forall_of_all (by decide)
  have hclose : Clean "]".toList := forall_of_all (by decide)
  constructor
  · rw [List.forall_mem_singleton, headingLine, hmark]
    simp only [clean_append, clean_cons, clean_escapeMarkdown, hrest, hopen, hbetween, hclose,
      and_true]
    decide
  · have hstarts : startsHeading (headingLine mark a b c) = true := by
      rw [headingLine, hmark]
      rfl
    simp [hstarts]

lemma payloadLine_ok {field : String × Value} {line : Text}
    (h : payloadLine lib field = .ok line) :
    Clean line ∧ startsHeading line = false ∧ line.head? = some '-' := by
  obtain ⟨json, -, h⟩ := bind_ok.mp h
  cases h
  have hdash : Clean "- ".toList := forall_of_all (by decide)
  have hcolon : Clean ": ".toList := forall_of_all (by decide)
  refine ⟨?_, rfl, rfl⟩
  simp only [clean_append, clean_escapeMarkdown, hdash, hcolon, and_self]

/-- The lines of a block: its heading, and none of the others starts one. -/
lemma blockLines_ok {b : BlockFields} {lines : List Text} (h : blockLines lib b = .ok lines) :
    Lines lines [blockHeading b] := by
  obtain ⟨fields, hfields, h⟩ := bind_ok.mp h
  cases h
  have hheading : Lines [blockHeading b] [blockHeading b] :=
    lines_heading "###" ['#', '#'] rfl (forall_of_all (by decide)) _ _ _
  have htext : Lines (b.text.map escapeMarkdown).toList [] := by
    refine lines_of_forall fun l hl => ?_
    cases hb : b.text with
    | none => simp [hb] at hl
    | some t =>
        rw [hb, Option.map_some, Option.toList_some, List.mem_singleton] at hl
        subst hl
        exact ⟨clean_escapeMarkdown t, not_startsHeading_escape t⟩
  have hpayload : Lines fields [] := by
    have hall := forall₂_mapM (fun f line hline => payloadLine_ok hline) hfields
    refine lines_of_forall fun l hl => ?_
    obtain ⟨f, -, hclean, hstarts, -⟩ := exists_of_forall₂ hall.flip hl
    exact ⟨hclean, hstarts⟩
  exact hheading.append ((htext.append hpayload).append lines_empty)

/-- What holds of every round of a loop holds of the loop. -/
lemma collect_lines {α : Type} {f : α → Except String (List Text)} {g : α → List Text}
    (hf : ∀ a lines, f a = .ok lines → Lines lines (g a)) {as : List α} {lines : List Text}
    (h : collect f as = .ok lines) : Lines lines (as.flatMap g) := by
  obtain ⟨rounds, hrounds, rfl⟩ := map_ok.mp h
  have hall := forall₂_mapM hf hrounds
  clear h hrounds
  induction hall with
  | nil => exact ⟨by simp, rfl⟩
  | cons hround _ ih =>
      rw [List.flatMap_cons, List.flatten_cons]
      exact hround.append ih

lemma sectionLines_ok {s : SectionFields} {lines : List Text} (h : sectionLines lib s = .ok lines) :
    Lines lines (sectionHeading s :: s.blocks.map blockHeading) := by
  obtain ⟨blocks, hblocks, h⟩ := bind_ok.mp h
  cases h
  have hheading : Lines [sectionHeading s] [sectionHeading s] :=
    lines_heading "##" ['#'] rfl (forall_of_all (by decide)) _ _ _
  have hblocks' : Lines blocks (s.blocks.map blockHeading) := by
    have hall := collect_lines (fun b lines hlines => blockLines_ok hlines) hblocks
    rwa [← List.map_eq_flatMap] at hall
  exact hheading.append (lines_empty.append hblocks')

/-! ## The whole text -/

/-- Lines without the empty ones at the end. -/
def dropEmpty (lines : List Text) : List Text := (lines.reverse.dropWhile (· = [])).reverse

lemma dropEmpty_append (lines : List Text) :
    ∃ empty : List Text, (∀ l ∈ empty, l = []) ∧ lines = dropEmpty lines ++ empty := by
  refine ⟨(lines.reverse.takeWhile (· = [])).reverse, ?_, ?_⟩
  · intro l hl
    simpa using List.mem_takeWhile_imp (List.mem_reverse.mp hl)
  · rw [dropEmpty, ← List.reverse_append, List.takeWhile_append_dropWhile, List.reverse_reverse]

lemma Lines.dropEmpty {lines expected : List Text} (h : Lines lines expected) :
    Lines (dropEmpty lines) expected := by
  obtain ⟨empty, hempty, heq⟩ := dropEmpty_append lines
  constructor
  · intro l hl
    refine h.clean l ?_
    rw [heq]
    exact List.mem_append_left _ hl
  · have hnone : empty.filter startsHeading = [] := by
      refine List.filter_eq_nil_iff.mpr fun l hl => ?_
      rw [hempty l hl]
      decide
    rw [← h.headings]
    conv_rhs => rw [heq, List.filter_append, hnone, List.append_nil]

lemma intercalate_concat (sep : Text) {lines : List Text} (h : lines ≠ []) (last : Text) :
    sep.intercalate (lines ++ [last]) = sep.intercalate lines ++ (sep ++ last) := by
  induction lines with
  | nil => exact absurd rfl h
  | cons l lines ih =>
      cases lines with
      | nil => simp [List.intercalate_cons_cons]
      | cons l' lines =>
          rw [List.cons_append, List.cons_append, List.intercalate_cons_cons,
            List.intercalate_cons_cons, ← List.cons_append, ih (by simp)]
          simp

lemma mem_intercalate {sep : Text} {lines : List Text} {c : Char}
    (h : c ∈ sep.intercalate lines) : c ∈ sep ∨ ∃ l ∈ lines, c ∈ l := by
  induction lines with
  | nil => simp at h
  | cons l lines ih =>
      cases lines with
      | nil => exact .inr ⟨l, by simp, by simpa using h⟩
      | cons l' lines =>
          rw [List.intercalate_cons_cons, List.mem_append, List.mem_append] at h
          rcases h with (h | h) | h
          · exact .inr ⟨l, by simp, h⟩
          · exact .inl h
          · refine (ih h).imp id ?_
            rintro ⟨m, hm, hc⟩
            exact ⟨m, List.mem_cons_of_mem _ hm, hc⟩

/-- What the projection of a content looks like. -/
structure Projects (lib : ReportLibrary) (content : ContentFields) (markdown : Text) : Prop where
  /-- The lines are those of the sections: no text adds a line. -/
  lines : ∃ body, collect (sectionLines lib) content.sections = .ok body ∧
    markdown.splitOn '\n' = dropEmpty (documentHeading content :: [] :: body) ++ [[]]
  /-- Exactly the headings start a heading, in order. -/
  headings : (markdown.splitOn '\n').filter startsHeading = headings content
  brackets : '<' ∉ markdown ∧ '>' ∉ markdown
  /-- There is one line break at the end, and no other. -/
  ending : ['\n'] <:+ markdown ∧ ¬ ['\n', '\n'] <:+ markdown

/-- **The projection of a content.**  Its lines are the lines of its sections, its headings are one
for the document, one for each section and one for each block, and a text that does not begin with a
hyphen is no line of a payload. -/
theorem markdown_lines (lib : ReportLibrary) (content : ContentFields) (rendered : RenderedMarkdown)
    (h : render lib content = .ok rendered) :
    Projects lib content rendered.markdownContent ∧
      ∀ (t : Text) (field : String × Value) (line : Text), t.head? ≠ some '-' →
        payloadLine lib field = .ok line → escapeMarkdown t ≠ line := by
  obtain ⟨htext, -, hcanonical⟩ := render_ok.mp h
  obtain ⟨body, hbody, htext⟩ := bind_ok.mp htext
  have hmarkdown : ['\n'].intercalate (dropEmpty (documentHeading content :: [] :: body)) ++ ['\n'] =
      rendered.markdownContent := Except.ok.inj htext
  have hlines : Lines (documentHeading content :: [] :: body) (headings content) := by
    have hheading : Lines [documentHeading content] [documentHeading content] :=
      lines_heading "#" [] rfl (forall_of_all (by decide)) _ _ _
    exact hheading.append (lines_empty.append
      (collect_lines (fun s lines hlines => sectionLines_ok hlines) hbody))
  have hkept := hlines.dropEmpty
  have hsplit : rendered.markdownContent.splitOn '\n' =
      dropEmpty (documentHeading content :: [] :: body) ++ [[]] := by
    have hne : dropEmpty (documentHeading content :: [] :: body) ≠ [] := by
      intro hnil
      have hnone := hkept.headings
      rw [hnil] at hnone
      simp [StockResearch.Reports.headings] at hnone
    have hjoin := intercalate_concat ['\n'] hne []
    rw [List.append_nil, hmarkdown] at hjoin
    rw [← hjoin]
    refine List.splitOn_intercalate _ ?_ (by simp)
    intro l hl hc
    rcases List.mem_append.mp hl with hl | hl
    · exact (hkept.clean l hl _ hc).1 rfl
    · simp [List.mem_singleton.mp hl] at hc
  have hbracket : ∀ c, c = '<' ∨ c = '>' → c ∉ rendered.markdownContent := by
    intro c hc hmem
    rw [← hmarkdown, List.mem_append] at hmem
    have hline : c ≠ '\n' := by rcases hc with rfl | rfl <;> decide
    rcases hmem with hmem | hmem
    · rcases mem_intercalate hmem with hmem | ⟨l, hl, hmem⟩
      · exact hline (List.mem_singleton.mp hmem)
      · have hclean := hkept.clean l hl c hmem
        rcases hc with rfl | rfl
        · exact hclean.2.2.1 rfl
        · exact hclean.2.2.2 rfl
    · exact hline (List.mem_singleton.mp hmem)
  refine ⟨⟨⟨body, hbody, hsplit⟩, ?_, ⟨hbracket _ (.inl rfl), hbracket _ (.inr rfl)⟩, ?_⟩, ?_⟩
  · rw [hsplit, List.filter_append, hkept.headings]
    exact List.append_nil _
  · obtain ⟨-, -, -, hone, hmore⟩ := hcanonical
    refine ⟨List.isSuffixOf_iff_suffix.mp hone, fun hsuffix => ?_⟩
    rw [List.isSuffixOf_iff_suffix.mpr hsuffix] at hmore
    cases hmore
  · rintro t field line ht hline rfl
    exact ht (head?_escapeMarkdown (payloadLine_ok hline).2.2)

/-- A block whose text looks like the payload of the next one. -/
def mimickingContent : ContentFields where
  schemaVersion := "research-report-v1".toList
  locale := .enUS
  sections := [{
    reportSection := .financialHealth
    sectionIndex := 0
    title := "Margins".toList
    status := .complete
    blocks := [
      { blockKey := "remark".toList
        blockIndex := 0
        blockType := .paragraph
        status := .complete
        text := some "- margin: 1".toList
        payload := [] },
      { blockKey := "margins".toList
        blockIndex := 1
        blockType := .metricTable
        status := .complete
        text := none
        payload := [("margin", .int 1)] }] }]

/-- Its projection has the lines it should have. -/
theorem mimicking_projects : ∃ rendered, render asciiLibrary mimickingContent = .ok rendered ∧
    Projects asciiLibrary mimickingContent rendered.markdownContent := by
  obtain ⟨rendered, hrendered⟩ : ∃ rendered, render asciiLibrary mimickingContent = .ok rendered :=
    exists_of_isOk (by decide +kernel)
  exact ⟨rendered, hrendered,
    (markdown_lines asciiLibrary mimickingContent rendered hrendered).1⟩

/-- One section and two blocks have four headings, and the text of the first block is the payload
line of the second. -/
theorem mimicking_lines :
    (render asciiLibrary mimickingContent).map (fun rendered =>
      ((rendered.markdownContent.splitOn '\n').filter startsHeading).length) = .ok 4 ∧
    payloadLine asciiLibrary ("margin", .int 1) = .ok (escapeMarkdown "- margin: 1".toList) := by
  constructor
  · decide +kernel
  · decide +kernel

end StockResearch.Reports
