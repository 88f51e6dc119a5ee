import StockResearch.Reports.ReferenceLaw
import StockResearch.Reports.ReleaseGate
import StockResearch.Reports.RevisionLaw

/-!
# What a revision hands on

A revised report is rendered from its own content, so it verifies: `revise_intact`.

**Locales.**  The checksums are taken under the locale of the report, and the renderer uses that of
the content.  No action changes the locale of a content (`locale_of_handler`).

**References.**  The content is allocated when the report is built and once more when it is verified;
the second allocation finds what the first has made (`allocate_again`).
-/

namespace StockResearch.Reports

open PyText PyJson PyTime Checked ResearchAgent

variable {lib : ReportLibrary}

/-- The report is the projection of its content, under the checksums that it carries. -/
def Intact (lib : ReportLibrary) (report : ResearchReport) : Prop :=
  ∃ allocation, allocate lib report.structuredContent.fields = .ok allocation ∧
    Projected lib report.structuredContent.fields report.markdownContent
      (checksumContext report allocation.references) (storedChecksums report)

lemma orOther_ok {α : Type} {x : Except String α} {a : α} : orOther x = .ok a ↔ x = .ok a := by
  cases x with
  | error e =>
      constructor
      · rintro ⟨⟩
      · rintro ⟨⟩
  | ok b => simp [orOther, Except.mapError]

/-! ## Locales -/

section Revised

variable {policy : ReportPolicyRecord} {content content' : ContentFields}
  {finding : ReportReflectionFindingRecord}

lemma locale_of_appendBlock {target : ReportSection} {status : ReportSectionStatus}
    {b : BlockFields} (h : appendBlock content target status b = .ok content') :
    content'.locale = content.locale := by
  unfold appendBlock at h
  split at h
  · cases h
    rfl
  · obtain ⟨created, -, h⟩ := bind_ok.mp h
    cases h
    rfl

lemma locale_of_transformBlock {blockKey : Option Text}
    {transform : BlockFields → Except RevisionFailure BlockFields}
    (h : transformBlock content blockKey transform = .ok content') :
    content'.locale = content.locale := by
  obtain ⟨key, -, h⟩ := bind_ok.mp h
  obtain ⟨sections, -, h⟩ := bind_ok.mp h
  cases h
  rfl

lemma locale_of_moveBlock {blockKey : Option Text} {target : ReportSection}
    (h : moveBlock content blockKey target = .ok content') : content'.locale = content.locale := by
  cases blockKey with
  | none => cases h
  | some key =>
      rw [moveBlock] at h
      split at h
      · cases h
      · have hlocale := locale_of_appendBlock h
        exact hlocale

lemma locale_of_canonicalize (h : canonicalize content = .ok content') :
    content'.locale = content.locale := by
  obtain ⟨sections, -, h⟩ := bind_ok.mp h
  obtain ⟨-, h⟩ := check_bind_ok.mp h
  cases h
  rfl

lemma locale_of_allocate {allocation : ReferenceAllocation}
    (h : allocate lib content = .ok allocation) : allocation.content.locale = content.locale := by
  obtain ⟨targets, hallocated⟩ := allocate_ok.mp h
  exact congrArg ContentFields.locale hallocated.content

/-- No action changes the locale. -/
lemma locale_of_handler {code : ReportRevisionActionCode}
    (h : revisionActionHandlers lib code content finding policy = .ok content') :
    content'.locale = content.locale := by
  have hdelete : deleteBlock content finding.blockKey = .ok content' →
      content'.locale = content.locale := by
    intro h
    obtain ⟨key, -, h⟩ := bind_ok.mp h
    cases h
    rfl
  have hdisclose : ∀ {sectionKey blockType blockStatus},
      appendDisclosure lib content finding sectionKey blockType blockStatus = .ok content' →
        content'.locale = content.locale := by
    intro sectionKey blockType blockStatus h
    obtain ⟨block, -, h⟩ := bind_ok.mp h
    exact locale_of_appendBlock h
  cases code with
  | deleteUnboundFactBlock => exact hdelete h
  | deleteUnsupportedFactBlock => exact hdelete h
  | removeInvalidCitationBlock => exact hdelete h
  | removeForbiddenAdviceText => exact hdelete h
  | downgradePartialLanguage => exact locale_of_transformBlock h
  | truncateExistingExcerpt => exact locale_of_transformBlock h
  | moveConflictToConflicts => exact locale_of_moveBlock h
  | moveUnsupportedToAppendix => exact locale_of_moveBlock h
  | moveBlockedToLimitations => exact locale_of_moveBlock h
  | addDataQualityFromExistingState => exact hdisclose h
  | addLimitationsFromExistingState => exact hdisclose h
  | renumberExistingReferences =>
      obtain ⟨allocation, hallocation, rfl⟩ := map_ok.mp h
      exact locale_of_allocate (orOther_ok.mp hallocation)
  | fixDeterministicFormat => exact locale_of_canonicalize h

lemma locale_of_reviseFinding {state next : RevisionState}
    (h : reviseFinding lib policy state finding = .ok next) :
    next.content.locale = state.content.locale := by
  unfold reviseFinding at h
  split at h
  · cases h
    rfl
  · split at h
    · cases h
      rfl
    · cases h
    · next hhandled =>
      cases h
      exact locale_of_handler hhandled

lemma locale_of_loop {findings : List ReportReflectionFindingRecord} {state last : RevisionState}
    (h : findings.foldlM (reviseFinding lib policy) state = .ok last) :
    last.content.locale = state.content.locale := by
  induction findings generalizing state with
  | nil =>
      cases h
      rfl
  | cons finding findings ih =>
      rw [List.foldlM_cons] at h
      obtain ⟨next, hnext, h⟩ := bind_ok.mp h
      exact (ih h).trans (locale_of_reviseFinding hnext)

/-! ## Targets -/

lemma allocate_again {allocation : ReferenceAllocation}
    (h : allocate lib content = .ok allocation) :
    allocate lib allocation.content.fields = .ok allocation := by
  obtain ⟨targets, hallocated⟩ := allocate_ok.mp h
  exact allocate_ok.mpr hallocated.again

/-- The next version of a report is the projection of its content. -/
lemma intact_of_buildTarget {source target : ResearchReport}
    (hlocale : content.locale = source.reportLocale)
    (h : buildTarget lib source content = .ok target) : Intact lib target := by
  obtain ⟨allocation, hallocation, h⟩ := bind_ok.mp h
  obtain ⟨rendered, hrendered, h⟩ := bind_ok.mp h
  obtain ⟨structured, hstructured, h⟩ := bind_ok.mp h
  obtain ⟨markdown, hmarkdown, h⟩ := bind_ok.mp h
  obtain ⟨combined, hcombined, h⟩ := bind_ok.mp h
  cases h
  rw [orOther_ok] at hallocation hrendered hstructured hmarkdown hcombined
  have hchecksum : rendered.markdownChecksum = markdown :=
    Except.ok.inj ((render_ok.mp hrendered).2.1.symm.trans hmarkdown)
  refine ⟨allocation, allocate_again hallocation, rfl, ?_, rfl, ?_, hstructured, hcombined⟩
  · exact (locale_of_allocate hallocation).trans hlocale
  · simp only [storedChecksums, ← hchecksum]
    exact hrendered

/-- Bindings are carried over to the very target. -/
lemma rebaseReportBindings_report {source : AggregateFields}
    {result : ResearchReportAggregate lib.uuid5}
    (h : rebaseReportBindings lib source target = .ok result) : result.report = target := by
  obtain ⟨allocation, -, h⟩ := bind_ok.mp h
  have hfields := AggregateFields.checked_ok.mp (orOther_ok.mp h)
  rw [hfields]

/-- A draft is built from a content in the locale of its source, and given its bindings. -/
lemma exists_of_revise {source : ResearchReportAggregate lib.uuid5}
    {reflection : ReportReflectionResult} {draft : ReportRevisionDraft lib}
    (h : revise lib source reflection policy = .ok draft) :
    ∃ content target, content.locale = source.report.structuredContent.locale ∧
      buildTarget lib source.report content = .ok target ∧
      rebaseReportBindings lib source.toAggregateFields target = .ok draft.target := by
  obtain ⟨-, h⟩ := unit_bind_ok.mp h
  obtain ⟨state, hstate, h⟩ := bind_ok.mp h
  obtain ⟨content, hcontent, h⟩ := bind_ok.mp h
  obtain ⟨target, htarget, h⟩ := bind_ok.mp h
  obtain ⟨aggregate, haggregate, h⟩ := bind_ok.mp h
  obtain ⟨-, h⟩ := check_bind_ok.mp h
  cases h
  exact ⟨content, target, (locale_of_canonicalize hcontent).trans (locale_of_loop hstate), htarget,
    haggregate⟩

lemma intact_of_revise {source : ResearchReportAggregate lib.uuid5}
    {reflection : ReportReflectionResult} {draft : ReportRevisionDraft lib}
    (hlocale : source.report.structuredContent.locale = source.report.reportLocale)
    (h : revise lib source reflection policy = .ok draft) : Intact lib draft.target.report := by
  obtain ⟨content, target, hkept, htarget, hrebased⟩ := exists_of_revise h
  rw [rebaseReportBindings_report hrebased]
  exact intact_of_buildTarget (hkept.trans hlocale) htarget

end Revised

/-- **A revision verifies.**  The revision of a report in its own locale is the projection of its
content under the checksums it carries, whatever the findings were and whatever became of them. -/
theorem revise_intact (lib : ReportLibrary) (source : ResearchReportAggregate lib.uuid5)
    (reflection : ReportReflectionResult) (policy : ReportPolicyRecord)
    (draft : ReportRevisionDraft lib)
    (hlocale : source.report.structuredContent.locale = source.report.reportLocale)
    (h : revise lib source reflection policy = .ok draft) :
    Intact lib draft.target.report ∧ verifyReport lib draft.target.report = .ok () := by
  have hintact := intact_of_revise hlocale h
  obtain ⟨allocation, hallocation, hprojected⟩ := hintact
  exact ⟨⟨allocation, hallocation, hprojected⟩,
    bind_ok.mpr ⟨allocation, hallocation, verifyReportProjection_ok.mpr hprojected⟩⟩

/-! ## A report without a section on its data -/

/-- Six digits for each character. -/
def digitsOf (t : Text) : Text := t.flatMap fun c => Uuid.hexDigits 6 c.toNat

lemma digitsOf_injective {t t' : Text} (h : digitsOf t = digitsOf t') : t = t' := by
  have hlt : ∀ d : Char, d.toNat < 16 ^ 6 := by
    intro d
    have hval : d.toNat = d.val.toNat := rfl
    rcases d.valid with hv | ⟨-, hv⟩
    · omega
    · omega
  induction t generalizing t' with
  | nil =>
      cases t' with
      | nil => rfl
      | cons c' t' => cases h
  | cons c t ih =>
      cases t' with
      | nil => cases h
      | cons c' t' =>
          obtain ⟨hdigits, hrest⟩ := List.append_inj h (by simp)
          rw [Char.toNat_inj.mp (Uuid.hexDigits_inj (hlt c) (hlt c') hdigits), ih hrest]

/-- A digest that spells its text. -/
def spellingHash : IdealHash :=
  ⟨fun t => String.ofList (digitsOf t),
    fun _ _ h => digitsOf_injective (String.ofList_injective h)⟩

/-- Identifiers are told apart by what follows the first one in their name. -/
def textUuid (t : Text) : Uuid := ⟨BitVec.ofNat 128 ((t.drop 37).headD ' ').toNat⟩

def spellingLibrary : ReportLibrary := { asciiLibrary with hash := spellingHash, uuid5 := textUuid }

lemma limits_title : 1 ≤ "Limits".toList.length ∧ "Limits".toList.length ≤ 160 := by decide

lemma noBlocks_le : 0 ≤ 300 := Nat.zero_le 300

lemma noBlocks_contiguous :
    ([] : List StructuredReportBlock).map (·.blockIndex) = List.range 0 := rfl

lemma oneSection_ok : 1 ≤ 1 ∧ 1 ≤ 16 := by decide

lemma oneSection_contiguous : [0] = List.range 1 := rfl

lemma oneSection_nodup : [ReportSection.limitations].Nodup := List.nodup_singleton _

/-- Nothing but an empty section. -/
def emptyContent : StructuredReportContent where
  schemaVersion := "research-report-v1".toList
  locale := .enUS
  sections := [{
    reportSection := .limitations
    sectionIndex := 0
    title := "Limits".toList
    status := .noEvidence
    blocks := []
    index_le := firstSection_le
    title_ok := limits_title
    blocks_le := noBlocks_le
    contiguous := noBlocks_contiguous
    uniqueKeys := List.nodup_nil }]
  schema_ok := schema_valid
  sections_ok := oneSection_ok
  contiguous := oneSection_contiguous
  uniqueSections := oneSection_nodup
  bounded := noBlocks_le

def emptySource : ResearchReportAggregate spellingLibrary.uuid5 where
  report := { adviceReport with structuredContent := emptyContent }
  claimBindings := []
  evidenceBindings := []
  citationBindings := []
  valid := rfl

/-- The section is found missing. -/
def missingReflection : ReportReflectionResult where
  run := adviceReflection.run
  findingIds := [7, 8]
  findings := [adviceFinding 7 .dataQualityPresent, adviceFinding 8 .noRatingLanguage]

/-- The section is added. -/
def mendedDraft : Except RevisionFailure (ReportRevisionDraft spellingLibrary) :=
  revise spellingLibrary emptySource missingReflection strictPolicy

def mendedManifest : ReportInputManifest where
  researchPackageId := 5
  securityId := 3
  snapshotId := 4
  researchAsOfTime := newYearsDay
  researchMode := .realResearch
  packageStatus := .complete
  packageChecksum := ""
  claimsChecksum := ""
  evidenceChecksum := ""
  linksChecksum := ""
  citationsChecksum := ""
  syntheticStatus := .realVerified
  canonicalPayloadChecksum := ""

/-- What the release of a draft rests on: the input of the manifest, both sections, and bindings that
can be carried over. -/
def releasable (draft : ReportRevisionDraft spellingLibrary) : Bool :=
  (inputIntegrity draft.target.report mendedManifest &&
      contextMatches draft.target.report mendedManifest) &&
    (hasSection draft.target.report .dataQuality && hasSection draft.target.report .limitations) &&
    draft.target.report.reportType == .fullResearchDraft &&
    (sealedReport spellingLibrary draft.target.report).id != draft.target.report.id &&
    (rebaseReportBindings spellingLibrary draft.target.toAggregateFields
      (sealedReport spellingLibrary draft.target.report)).isOk

lemma exists_draft : ∃ draft, mendedDraft = .ok draft ∧ releasable draft = true := by
  have hdraft : mendedDraft.toOption.any releasable = true := by decide +kernel
  cases h : mendedDraft with
  | error e =>
      rw [h] at hdraft
      cases hdraft
  | ok draft =>
      rw [h] at hdraft
      exact ⟨draft, rfl, hdraft⟩

/-- The draft verifies. -/
theorem mended_intact : ∃ draft, mendedDraft = .ok draft ∧
    Intact spellingLibrary draft.target.report := by
  obtain ⟨draft, hdraft, -⟩ := exists_draft
  exact ⟨draft, hdraft, (revise_intact spellingLibrary emptySource missingReflection strictPolicy
    draft rfl hdraft).1⟩

end StockResearch.Reports
