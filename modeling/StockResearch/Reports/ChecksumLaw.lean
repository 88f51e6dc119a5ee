import Mathlib
import StockResearch.Core.JsonMeaning
import StockResearch.Reports.Projection

/-!
# What the structured checksum of a report fixes

The checksum is taken of a canonical text, and the canonical text of texts and keys in NFKC.

**Values.**  `normalize_ok`: what has a canonical text is plain once its texts are normalized, so two
values have one canonical text exactly when they are alike.

**Contents.**  `SameReport` relates contents that differ in nothing but the spelling of texts with
one normal form and the order of payload members; `sameReport_iff` reads it off the dumps.

**Both together.**  `structured_checksum_iff`.
-/

namespace StockResearch.Reports

open PyText PyJson Checked ResearchAgent

variable {lib : ReportLibrary}

/-! ## Normalized values -/

mutual

/-- What has a canonical text, and which value it is the text of. -/
lemma normalize_ok {v v' : Value} (h : normalize lib v = .ok v') :
    v' = mapTexts (nfkcString lib) v ∧ Plain v' := by
  match v with
  | .null =>
      cases h
      exact ⟨rfl, trivial⟩
  | .bool b =>
      cases h
      exact ⟨rfl, trivial⟩
  | .int n =>
      cases h
      exact ⟨rfl, trivial⟩
  | .real _ => cases h
  | .str s =>
      cases h
      exact ⟨rfl, trivial⟩
  | .arr items =>
      rw [normalize] at h
      obtain ⟨items', hitems, rfl⟩ := map_ok.mp h
      obtain ⟨rfl, hplain⟩ := normalizeItems_ok hitems
      exact ⟨rfl, hplain⟩
  | .obj fields =>
      rw [normalize] at h
      obtain ⟨fields', hfields, rfl⟩ := map_ok.mp h
      obtain ⟨rfl, hnodup, hplain⟩ := normalizeFields_ok hfields List.nodup_nil trivial
      exact ⟨rfl, hnodup, hplain⟩

lemma normalizeItems_ok {vs vs' : List Value} (h : normalizeItems lib vs = .ok vs') :
    vs' = mapItems (nfkcString lib) vs ∧ PlainItems vs' := by
  match vs with
  | [] =>
      cases h
      exact ⟨rfl, trivial⟩
  | v :: vs =>
      rw [normalizeItems] at h
      obtain ⟨v', hv, h⟩ := bind_ok.mp h
      obtain ⟨vs', hvs, h⟩ := bind_ok.mp h
      cases h
      obtain ⟨rfl, hplain⟩ := normalize_ok hv
      obtain ⟨rfl, hplains⟩ := normalizeItems_ok hvs
      exact ⟨rfl, hplain, hplains⟩

lemma normalizeFields_ok {done fs fs' : List (String × Value)}
    (h : normalizeFields lib done fs = .ok fs') (hdone : (done.map Prod.fst).Nodup)
    (hplain : PlainFields done) :
    fs' = done ++ mapFields (nfkcString lib) fs ∧ (fs'.map Prod.fst).Nodup ∧ PlainFields fs' := by
  match fs with
  | [] =>
      cases h
      exact ⟨by simp [mapFields], hdone, hplain⟩
  | (k, v) :: fs =>
      rw [normalizeFields] at h
      obtain ⟨hfresh, h⟩ := check_bind_ok.mp h
      obtain ⟨v', hv, h⟩ := bind_ok.mp h
      obtain ⟨rfl, hv'⟩ := normalize_ok hv
      have hnext : ((done ++ [(nfkcString lib k, mapTexts (nfkcString lib) v)]).map
          Prod.fst).Nodup := by
        rw [List.map_append, List.nodup_append]
        refine ⟨hdone, by simp, ?_⟩
        rintro a ha b hb rfl
        obtain rfl := List.mem_singleton.mp hb
        exact hfresh ha
      obtain ⟨rfl, hnodup, hall⟩ := normalizeFields_ok h hnext <| by
        rw [plainFields_iff] at hplain ⊢
        intro f hf
        rcases List.mem_append.mp hf with hf | hf
        · exact hplain f hf
        · obtain rfl := List.mem_singleton.mp hf
          exact hv'
      exact ⟨by simp [mapFields], hnodup, hall⟩

end

/-- Texts with one normal form. -/
abbrev SameText (lib : ReportLibrary) (s t : String) : Prop := nfkcString lib s = nfkcString lib t

/-- The value that a canonical text is the text of. -/
lemma canonicalReportJson_ok {v : Value} {t : Text} (h : canonicalReportJson lib v = .ok t) :
    Plain (mapTexts (nfkcString lib) v) ∧ t = canonicalText (mapTexts (nfkcString lib) v) := by
  obtain ⟨v', hv, rfl⟩ := map_ok.mp h
  obtain ⟨rfl, hplain⟩ := normalize_ok hv
  exact ⟨hplain, rfl⟩

/-- **Two values have one canonical text exactly when they are alike.** -/
theorem canonicalReportJson_iff {v w : Value} {t u : Text} (hv : canonicalReportJson lib v = .ok t)
    (hw : canonicalReportJson lib w = .ok u) : t = u ↔ Alike (SameText lib) v w := by
  obtain ⟨hplain, rfl⟩ := canonicalReportJson_ok hv
  obtain ⟨hplain', rfl⟩ := canonicalReportJson_ok hw
  exact canonicalText_mapTexts_iff hplain hplain'

/-! ## Contents that say the same -/

/-- Blocks that say the same. -/
structure SameBlock (lib : ReportLibrary) (b b' : StructuredReportBlock) : Prop where
  blockKey : b.blockKey = b'.blockKey
  blockIndex : b.blockIndex = b'.blockIndex
  blockType : b.blockType = b'.blockType
  status : b.status = b'.status
  text : b.text.map lib.nfkc = b'.text.map lib.nfkc
  payload : Alike (SameText lib) (.obj b.payload) (.obj b'.payload)

/-- Sections that say the same. -/
structure SameSection (lib : ReportLibrary) (s s' : StructuredReportSection) : Prop where
  reportSection : s.reportSection = s'.reportSection
  sectionIndex : s.sectionIndex = s'.sectionIndex
  title : lib.nfkc s.title = lib.nfkc s'.title
  status : s.status = s'.status
  blocks : List.Forall₂ (SameBlock lib) s.blocks s'.blocks

/-- Contents that differ in nothing but the spelling of texts with one normal form and the order of
payload members. -/
structure SameReport (lib : ReportLibrary) (c c' : StructuredReportContent) : Prop where
  schemaVersion : c.schemaVersion = c'.schemaVersion
  locale : c.locale = c'.locale
  sections : List.Forall₂ (SameSection lib) c.sections c'.sections

/-! ### Texts and tags -/

lemma nfkcString_ofList (t : Text) :
    nfkcString lib (String.ofList t) = String.ofList (lib.nfkc t) := by
  rw [nfkcString, String.toList_ofList]

lemma alike_textValue {s t : Text} :
    Alike (SameText lib) (textValue s) (textValue t) ↔ lib.nfkc s = lib.nfkc t := by
  have hsame : SameText lib (String.ofList s) (String.ofList t) ↔ lib.nfkc s = lib.nfkc t := by
    rw [SameText, nfkcString_ofList, nfkcString_ofList]
    exact ⟨fun h => String.ofList_injective h, congrArg String.ofList⟩
  rw [← hsame]
  constructor
  · intro h
    cases h with
    | str h => exact h
  · exact .str

/-- A text of ASCII characters. -/
abbrev Ascii (t : Text) : Prop := ∀ c ∈ t, c.toNat < 128

lemma alike_asciiText {s t : Text} (hs : Ascii s) (ht : Ascii t) :
    Alike (SameText lib) (textValue s) (textValue t) ↔ s = t := by
  rw [alike_textValue, lib.nfkc_ascii s hs, lib.nfkc_ascii t ht]

lemma alike_tag {s t : String} (hs : Ascii s.toList) (ht : Ascii t.toList) :
    Alike (SameText lib) (.str s) (.str t) ↔ s = t := by
  have h := @alike_asciiText lib s.toList t.toList hs ht
  rwa [textValue, textValue, String.ofList_toList, String.ofList_toList, String.toList_inj] at h

lemma alike_int {m n : Int} : Alike (SameText lib) (.int m) (.int n) ↔ m = n := by
  constructor
  · intro h
    cases h
    rfl
  · rintro rfl
    exact .int m

lemma alike_optionalText {s t : Option Text} :
    Alike (SameText lib) (s.elim .null textValue) (t.elim .null textValue) ↔
      s.map lib.nfkc = t.map lib.nfkc := by
  cases s with
  | none =>
      cases t with
      | none => simp [Alike.null]
      | some t =>
          constructor
          · rintro ⟨⟩
          · intro h
            simp at h
  | some s =>
      cases t with
      | none =>
          constructor
          · rintro ⟨⟩
          · intro h
            simp at h
      | some t =>
          rw [Option.elim_some, Option.elim_some, alike_textValue]
          simp

/-- Names of the members of a vocabulary: ASCII texts, and no two the same. -/
structure Tags {α : Type} (value : α → String) : Prop where
  ascii : ∀ a, Ascii (value a).toList
  injective : ∀ a b, value a = value b → a = b

lemma Tags.alike {α : Type} {value : α → String} (h : Tags value) {a b : α} :
    Alike (SameText lib) (.str (value a)) (.str (value b)) ↔ a = b := by
  rw [alike_tag (h.ascii a) (h.ascii b)]
  exact ⟨h.injective a b, congrArg value⟩

lemma tags_section : Tags ReportSection.value where
  ascii := by rintro ⟨⟩ <;> exact forall_of_all (by decide)
  injective := by intro a b; cases a <;> cases b <;> decide

lemma tags_locale : Tags ReportLocale.value where
  ascii := by rintro ⟨⟩ <;> exact forall_of_all (by decide)
  injective := by intro a b; cases a <;> cases b <;> decide

lemma tags_sectionStatus : Tags ReportSectionStatus.value where
  ascii := by rintro ⟨⟩ <;> exact forall_of_all (by decide)
  injective := by intro a b; cases a <;> cases b <;> decide

lemma tags_blockType : Tags ReportBlockType.value where
  ascii := by rintro ⟨⟩ <;> exact forall_of_all (by decide)
  injective := by intro a b; cases a <;> cases b <;> decide

lemma tags_blockStatus : Tags ReportBlockStatus.value where
  ascii := by rintro ⟨⟩ <;> exact forall_of_all (by decide)
  injective := by intro a b; cases a <;> cases b <;> decide

lemma ascii_of_isLower {c : Char} (h : c.isLower = true) : c.toNat < 128 := by
  simp only [Char.isLower, Bool.and_eq_true, decide_eq_true_eq] at h
  have hle : c.toNat ≤ 'z'.toNat := h.2
  have hz : 'z'.toNat = 122 := by decide
  omega

lemma ascii_of_isDigit {c : Char} (h : c.isDigit = true) : c.toNat < 128 := by
  simp only [Char.isDigit, Bool.and_eq_true, decide_eq_true_eq] at h
  have hle : c.toNat ≤ '9'.toNat := h.2
  have hnine : '9'.toNat = 57 := by decide
  omega

lemma ascii_blockKey {t : Text} (h : isBlockKey t = true) : Ascii t := by
  cases t with
  | nil => cases h
  | cons c rest =>
      simp only [isBlockKey, Bool.and_eq_true, List.all_eq_true, Bool.or_eq_true,
        beq_iff_eq] at h
      obtain ⟨⟨⟨hfirst, -⟩, -⟩, hrest⟩ := h
      intro d hd
      rcases List.mem_cons.mp hd with rfl | hd
      · exact ascii_of_isLower hfirst
      · rcases hrest d hd with (((hlower | hdigit) | rfl) | rfl) | rfl
        · exact ascii_of_isLower hlower
        · exact ascii_of_isDigit hdigit
        · decide
        · decide
        · decide

lemma ascii_schemaVersion {t : Text} (h : isSchemaVersion t = true) : Ascii t := by
  simp only [isSchemaVersion, Bool.and_eq_true, List.isPrefixOf_iff_prefix] at h
  obtain ⟨⟨number, rfl⟩, hnumber⟩ := h
  have hprefix : Ascii "research-report-v".toList := forall_of_all (by decide)
  rw [List.drop_left' (by decide)] at hnumber
  intro c hc
  rcases List.mem_append.mp hc with hc | hc
  · exact hprefix c hc
  · cases number with
    | nil => cases hc
    | cons d rest =>
        simp only [Bool.and_eq_true, List.all_eq_true] at hnumber
        rcases List.mem_cons.mp hc with rfl | hc
        · exact ascii_of_isDigit hnumber.1.1
        · exact ascii_of_isDigit (hnumber.2 c hc)

/-! ### Dumps -/

lemma alike_members {fs gs : List (String × Value)} (hkeys : fs.map Prod.fst = gs.map Prod.fst)
    (hplain : Plain (mapTexts (nfkcString lib) (.obj fs))) :
    Alike (SameText lib) (.obj fs) (.obj gs) ↔ AlikeFields (SameText lib) fs gs :=
  alike_obj_iff hkeys hplain

lemma sameBlock_iff {b b' : StructuredReportBlock}
    (hplain : Plain (mapTexts (nfkcString lib) b.fields.dump)) :
    Alike (SameText lib) b.fields.dump b'.fields.dump ↔ SameBlock lib b b' := by
  refine (alike_members ?_ hplain).trans ?_
  · rfl
  · simp only [alikeFields_cons, true_and, StructuredReportBlock.fields,
      alike_asciiText (ascii_blockKey b.key_ok) (ascii_blockKey b'.key_ok), alike_int,
      tags_blockType.alike, tags_blockStatus.alike, alike_optionalText]
    constructor
    · rintro ⟨hkey, hindex, htype, hstatus, htext, hpayload, -⟩
      exact ⟨hkey, by exact_mod_cast hindex, htype, hstatus, htext, hpayload⟩
    · intro h
      exact ⟨h.blockKey, by exact_mod_cast h.blockIndex, h.blockType, h.status, h.text, h.payload,
        .nil⟩

lemma alike_dumps {α : Type} {dump : α → Value} {R : α → α → Prop} {as bs : List α}
    (h : ∀ a ∈ as, ∀ b, Alike (SameText lib) (dump a) (dump b) ↔ R a b) :
    Alike (SameText lib) (.arr (as.map dump)) (.arr (bs.map dump)) ↔ List.Forall₂ R as bs := by
  have hitems : Alike (SameText lib) (.arr (as.map dump)) (.arr (bs.map dump)) ↔
      List.Forall₂ (fun a b => Alike (SameText lib) (dump a) (dump b)) as bs := by
    rw [← List.forall₂_map_right_iff, ← List.forall₂_map_left_iff, ← alikeItems_iff]
    constructor
    · intro h
      cases h with
      | arr h => exact h
    · exact .arr
  rw [hitems]
  clear hitems
  induction as generalizing bs with
  | nil => cases bs <;> simp
  | cons a as ih =>
      cases bs with
      | nil => simp
      | cons b bs =>
          have hrest : List.Forall₂ (fun a b => Alike (SameText lib) (dump a) (dump b)) as bs ↔
              List.Forall₂ R as bs := ih fun a' ha' => h a' (List.mem_cons_of_mem _ ha')
          rw [List.forall₂_cons, List.forall₂_cons, h a List.mem_cons_self, hrest]

lemma plain_of_mem_dumps {α : Type} {dump : α → Value} {as : List α}
    (h : Plain (mapTexts (nfkcString lib) (.arr (as.map dump)))) {a : α} (ha : a ∈ as) :
    Plain (mapTexts (nfkcString lib) (dump a)) := by
  rw [mapTexts, Plain, mapItems_eq_map, plainItems_iff] at h
  exact h _ (List.mem_map_of_mem (List.mem_map_of_mem ha))

lemma sameSection_iff {s s' : StructuredReportSection}
    (hplain : Plain (mapTexts (nfkcString lib) s.fields.dump)) :
    Alike (SameText lib) s.fields.dump s'.fields.dump ↔ SameSection lib s s' := by
  have hblocks := hplain.2.2.2.2.2.1
  have hsame := @alike_dumps lib _ (fun b => b.fields.dump) (SameBlock lib) s.blocks s'.blocks
    fun b hb b' => sameBlock_iff (plain_of_mem_dumps hblocks (List.mem_map_of_mem hb))
  refine (alike_members ?_ hplain).trans ?_
  · rfl
  · simp only [alikeFields_cons, true_and, StructuredReportSection.fields,
      List.map_map, Function.comp_def, hsame, alike_int, alike_textValue, tags_section.alike,
      tags_sectionStatus.alike]
    constructor
    · rintro ⟨hsection, hindex, htitle, hstatus, hblocks, -⟩
      exact ⟨hsection, by exact_mod_cast hindex, htitle, hstatus, hblocks⟩
    · intro h
      exact ⟨h.reportSection, by exact_mod_cast h.sectionIndex, h.title, h.status, h.blocks, .nil⟩

/-- **Contents have alike dumps exactly when they say the same.** -/
theorem sameReport_iff {c c' : StructuredReportContent}
    (hplain : Plain (mapTexts (nfkcString lib) c.fields.dump)) :
    Alike (SameText lib) c.fields.dump c'.fields.dump ↔ SameReport lib c c' := by
  have hsections := hplain.2.2.2.1
  have hsame := @alike_dumps lib _ (fun s => s.fields.dump) (SameSection lib) c.sections c'.sections
    fun s hs s' => sameSection_iff (plain_of_mem_dumps hsections (List.mem_map_of_mem hs))
  refine (alike_members ?_ hplain).trans ?_
  · rfl
  · simp only [alikeFields_cons, true_and, StructuredReportContent.fields,
      List.map_map, Function.comp_def, hsame, tags_locale.alike,
      alike_asciiText (ascii_schemaVersion c.schema_ok) (ascii_schemaVersion c'.schema_ok)]
    constructor
    · rintro ⟨hversion, hlocale, hsections, -⟩
      exact ⟨hversion, hlocale, hsections⟩
    · intro h
      exact ⟨h.schemaVersion, h.locale, h.sections, .nil⟩

/-! ## Checksums -/

/-- **What the structured checksum fixes.**  Two contents that have canonical texts have the same
text, and the same checksum, exactly when they say the same. -/
theorem structured_checksum_iff (lib : ReportLibrary) (c c' : StructuredReportContent)
    (t t' : Text) (h : canonicalReportJson lib c.fields.dump = .ok t)
    (h' : canonicalReportJson lib c'.fields.dump = .ok t') :
    (t = t' ↔ SameReport lib c c') ∧
      (structuredReportChecksum lib c.fields = structuredReportChecksum lib c'.fields ↔
        SameReport lib c c') := by
  have htext : t = t' ↔ SameReport lib c c' := by
    rw [canonicalReportJson_iff h h', sameReport_iff (canonicalReportJson_ok h).1]
  refine ⟨htext, ?_⟩
  have hdigest : structuredReportChecksum lib c.fields = .ok (lib.hash.digest t) := by
    rw [structuredReportChecksum, reportChecksum, h]
    rfl
  have hdigest' : structuredReportChecksum lib c'.fields = .ok (lib.hash.digest t') := by
    rw [structuredReportChecksum, reportChecksum, h']
    rfl
  rw [hdigest, hdigest', Except.ok.injEq, lib.hash.injective.eq_iff, htext]

/-- A superscript two has the digit two as its normal form. -/
def superscriptLibrary : ReportLibrary :=
  { asciiLibrary with
    nfkc := fun t => t.map fun c => if c = '²' then '2' else c
    nfkc_ascii := by
      intro t ht
      refine (List.map_congr_left fun c hc => if_neg ?_).trans (List.map_id t)
      rintro rfl
      exact absurd (ht _ hc) (by decide) }

def statedContent (figure : Text) (h : figure.length ≤ 10000) : StructuredReportContent where
  schemaVersion := "research-report-v1".toList
  locale := .enUS
  sections := [{
    reportSection := .financialHealth
    sectionIndex := 0
    title := "Figures".toList
    status := .complete
    blocks := [{
      blockKey := "figure".toList
      blockIndex := 0
      blockType := .paragraph
      status := .complete
      text := some figure
      payload := []
      key_ok := by decide
      index_le := firstBlock_le
      text_le := by simpa using h }]
    index_le := firstSection_le
    title_ok := by decide
    blocks_le := by simp
    contiguous := rfl
    uniqueKeys := by simp }]
  schema_ok := schema_valid
  sections_ok := by simp
  contiguous := rfl
  uniqueSections := by simp
  bounded := by simp

def tenSquared : StructuredReportContent := statedContent "10²".toList (by decide)

def hundredTwo : StructuredReportContent := statedContent "102".toList (by decide)

/-- The two have one normal form. -/
lemma squared_canonical : canonicalReportJson superscriptLibrary tenSquared.fields.dump =
    canonicalReportJson superscriptLibrary hundredTwo.fields.dump := by
  have hnormal : normalize superscriptLibrary tenSquared.fields.dump =
      normalize superscriptLibrary hundredTwo.fields.dump := rfl
  rw [canonicalReportJson, hnormal, canonicalReportJson]

/-- Ten squared and a hundred and two say the same. -/
theorem squared_sameReport : SameReport superscriptLibrary tenSquared hundredTwo := by
  obtain ⟨t, ht⟩ : ∃ t, canonicalReportJson superscriptLibrary tenSquared.fields.dump = .ok t :=
    exists_of_isOk (by decide +kernel)
  exact (structured_checksum_iff superscriptLibrary tenSquared hundredTwo t t ht
    (squared_canonical ▸ ht)).1.mp rfl

/-- Their texts are different, and their canonical texts and checksums are not. -/
theorem squared_checksum : tenSquared.fields.blocks.map (·.text) ≠
      hundredTwo.fields.blocks.map (·.text) ∧
    canonicalReportJson superscriptLibrary tenSquared.fields.dump =
      canonicalReportJson superscriptLibrary hundredTwo.fields.dump ∧
    structuredReportChecksum superscriptLibrary tenSquared.fields =
      structuredReportChecksum superscriptLibrary hundredTwo.fields := by
  refine ⟨by decide, squared_canonical, ?_⟩
  rw [structuredReportChecksum, reportChecksum, squared_canonical]
  rfl

end StockResearch.Reports
