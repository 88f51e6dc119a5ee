import Mathlib
import StockResearch.Core.Dict
import StockResearch.Reports.ChecksumLaw
import StockResearch.Reports.RevisedLaw

/-!
# What the release gate guarantees

**Decisions.**  `evaluate_iff`: the decision in terms of the report, its input and its reflection.
A reflection that passed has no finding, so for a publishable report the checks of the findings are
met by themselves.

**Seals.**  `sealed_unchanged`: a sealed report says what the candidate says and verifies again, and the
reflection that released the candidate does not release it.

**One reflection.**  `sameStatement_of_evaluate`: what one reflection lets through says one thing, up
to the spelling of texts with one normal form.
-/

namespace StockResearch.Reports

open PyText PyJson PyTime Checked ResearchAgent

variable {lib : ReportLibrary} {manifest : ReportInputManifest} {roundTwo : ReportReflectionResult}
  {allowed : List ReportType}

/-! ## What is checked -/

/-- The report was made from the input of the manifest. -/
structure MadeFrom (report : ResearchReport) (manifest : ReportInputManifest) : Prop where
  package : report.researchPackageId = manifest.researchPackageId
  input : report.inputManifestChecksum = manifest.canonicalPayloadChecksum
  packageChecksum : report.packageChecksum = manifest.packageChecksum
  claims : report.claimSetChecksum = manifest.claimsChecksum
  evidence : report.evidenceSetChecksum = manifest.evidenceChecksum
  links : report.linkSetChecksum = manifest.linksChecksum
  citations : report.citationSetChecksum = manifest.citationsChecksum

/-- The second reflection has judged this very report, and its findings are all there. -/
structure Judged (report : ResearchReport) (result : ReportReflectionResult) : Prop where
  round : result.run.roundNumber = 2
  status : result.run.status = .pass ∨ result.run.status = .findings
  target : result.run.researchReportId = report.id
  checksum : result.run.inputReportChecksum = report.contentChecksum
  counted : result.findingIds.length = result.run.totalFindingCount
  materialized : result.findings.map (·.id) = result.findingIds

/-- What must hold of a candidate before anything else is asked. -/
structure Workflow (lib : ReportLibrary) (report : ResearchReport) (manifest : ReportInputManifest)
    (result : ReportReflectionResult) : Prop where
  intact : Intact lib report
  madeFrom : MadeFrom report manifest
  judged : Judged report result

/-- Real research rests on verified or excerpted evidence, a synthetic test on synthetic
evidence. -/
def Genuine (manifest : ReportInputManifest) : Prop :=
  (manifest.researchMode = .realResearch ∧ (manifest.syntheticStatus = .realVerified ∨
      manifest.syntheticStatus = .fixtureRealExcerpt)) ∨
    (manifest.researchMode = .syntheticTestOnly ∧ manifest.syntheticStatus = .syntheticTestOnly)

structure Publishable (lib : ReportLibrary) (report : ResearchReport)
    (manifest : ReportInputManifest) (result : ReportReflectionResult) (allowed : List ReportType) :
    Prop where
  workflow : Workflow lib report manifest result
  passed : result.run.status = .pass
  complete : manifest.packageStatus = .complete
  type : report.reportType ∈ allowed
  genuine : Genuine manifest
  security : report.securityId = manifest.securityId
  snapshot : report.snapshotId = manifest.snapshotId
  asOf : report.researchAsOfTime = manifest.researchAsOfTime
  dataQuality : ∃ s ∈ report.structuredContent.sections, s.reportSection = .dataQuality
  limitations : ∃ s ∈ report.structuredContent.sections, s.reportSection = .limitations

/-! ## The requirements -/

lemma isOk_iff {ε α : Type} {x : Except ε α} : x.isOk = true ↔ ∃ a, x = .ok a := by
  constructor
  · exact exists_of_isOk
  · rintro ⟨a, rfl⟩
    rfl

lemma verifyReport_isOk {report : ResearchReport} :
    (verifyReport lib report).isOk = true ↔ Intact lib report := by
  rw [isOk_iff]
  constructor
  · rintro ⟨_, h⟩
    obtain ⟨allocation, hallocation, h⟩ := bind_ok.mp h
    exact ⟨allocation, hallocation, verifyReportProjection_ok.mp h⟩
  · rintro ⟨allocation, hallocation, h⟩
    exact ⟨(), bind_ok.mpr ⟨allocation, hallocation, verifyReportProjection_ok.mpr h⟩⟩

/-- A report that verifies is the text that is rendered. -/
lemma integrity_of_ok {report : ResearchReport} {integrity : Bool × Bool}
    (h : reportIntegrity lib report = .ok integrity) :
    (integrity.1 = true ↔ Intact lib report) ∧ (integrity.1 = true → integrity.2 = true) := by
  obtain ⟨rendered, hrendered, h⟩ := bind_ok.mp h
  cases h
  refine ⟨verifyReport_isOk, fun hok => ?_⟩
  obtain ⟨allocation, -, hprojected⟩ := verifyReport_isOk.mp hok
  rw [hprojected.rendered] at hrendered
  cases hrendered
  exact decide_eq_true rfl

lemma inputIntegrity_iff {report : ResearchReport} :
    inputIntegrity report manifest = true ↔ MadeFrom report manifest := by
  simp only [inputIntegrity, Bool.and_eq_true, beq_iff_eq]
  constructor
  · rintro ⟨⟨⟨⟨⟨⟨h₁, h₂⟩, h₃⟩, h₄⟩, h₅⟩, h₆⟩, h₇⟩
    exact ⟨h₁, h₂, h₃, h₄, h₅, h₆, h₇⟩
  · intro h
    exact ⟨⟨⟨⟨⟨⟨h.package, h.input⟩, h.packageChecksum⟩, h.claims⟩, h.evidence⟩, h.links⟩,
      h.citations⟩

/-- A run that has ended has its time, so nothing is asked of that. -/
lemma roundTwoCompleted_iff {report : ResearchReport} :
    roundTwoCompleted report roundTwo = true ↔ Judged report roundTwo := by
  simp only [roundTwoCompleted, Bool.and_eq_true, Bool.or_eq_true, beq_iff_eq]
  constructor
  · rintro ⟨⟨⟨⟨⟨⟨hround, hstatus⟩, -⟩, hreport⟩, hchecksum⟩, hcounted⟩, hmaterialized⟩
    exact ⟨hround, hstatus, hreport, hchecksum, hcounted, hmaterialized⟩
  · intro h
    have hrunning : roundTwo.run.status ≠ .running := by
      rcases h.status with hs | hs
      · rw [hs]
        decide
      · rw [hs]
        decide
    have hcompleted := roundTwo.run.valid.completed hrunning
    exact ⟨⟨⟨⟨⟨⟨h.round, h.status⟩, Option.isSome_iff_ne_none.mpr hcompleted⟩, h.target⟩,
      h.checksum⟩, h.counted⟩, h.materialized⟩

lemma contextMatches_iff {report : ResearchReport} : contextMatches report manifest = true ↔
    report.securityId = manifest.securityId ∧ report.snapshotId = manifest.snapshotId ∧
      report.researchAsOfTime = manifest.researchAsOfTime := by
  simp only [contextMatches, Bool.and_eq_true, beq_iff_eq, decide_eq_true_eq, and_assoc]

lemma sourceModeMatches_iff : sourceModeMatches manifest = true ↔ Genuine manifest := by
  simp only [sourceModeMatches, Genuine, Bool.or_eq_true, Bool.and_eq_true, beq_iff_eq]
  exact or_congr and_comm and_comm

lemma hasSection_iff {report : ResearchReport} {kind : ReportSection} :
    hasSection report kind = true ↔
      ∃ s ∈ report.structuredContent.sections, s.reportSection = kind := by
  simp only [hasSection, List.any_eq_true, beq_iff_eq]

/-- A reflection that passed has no finding. -/
lemma findings_of_pass {report : ResearchReport} (h : Judged report roundTwo)
    (hpass : roundTwo.run.status = .pass) : roundTwo.findings = [] := by
  have hids : roundTwo.findingIds = [] :=
    List.length_eq_zero_iff.mp (h.counted.trans (roundTwo.run.valid.pass hpass))
  exact List.map_eq_nil_iff.mp (h.materialized.trans hids)

/-- Its severities are counted as zero. -/
lemma counts_of_pass (hpass : roundTwo.run.status = .pass) :
    roundTwo.run.criticalCount = 0 ∧ roundTwo.run.highCount = 0 := by
  have htotal := roundTwo.run.valid.pass hpass
  have hcounts := roundTwo.run.valid.counts
  omega

lemma checksAbsent_nil (requirement : ReleaseGateRequirement) :
    checksAbsent [] requirement = true := rfl

/-- A vocabulary is gone through when its members are. -/
lemma all_requirements {p : ReleaseGateRequirement → Bool} :
    ReleaseGateRequirement.all.all p = true ↔ ∀ r, p r = true := by
  rw [List.all_eq_true]
  constructor
  · intro h r
    exact h r (by cases r <;> decide)
  · exact fun h r _ => h r

section Decision

variable {report : ResearchReport} {integrity : Bool × Bool}

lemma workflow_iff (h : reportIntegrity lib report = .ok integrity) :
    ((integrity.1 && inputIntegrity report manifest && roundTwoCompleted report roundTwo &&
      integrity.2) = true) ↔ Workflow lib report manifest roundTwo := by
  obtain ⟨hintact, hprojection⟩ := integrity_of_ok h
  simp only [Bool.and_eq_true, hintact, inputIntegrity_iff, roundTwoCompleted_iff]
  constructor
  · rintro ⟨⟨⟨hok, hmade⟩, hjudged⟩, -⟩
    exact ⟨hok, hmade, hjudged⟩
  · intro hw
    exact ⟨⟨⟨hw.intact, hw.madeFrom⟩, hw.judged⟩, hprojection (hintact.mpr hw.intact)⟩

/-- All requirements hold, for a reflection that passed. -/
lemma all_passed_iff (h : reportIntegrity lib report = .ok integrity)
    (hw : Workflow lib report manifest roundTwo) (hpass : roundTwo.run.status = .pass) :
    (∀ r, (GateInput.mk report manifest roundTwo allowed).passed integrity r = true) ↔
      Publishable lib report manifest roundTwo allowed := by
  have hnone : findingChecks roundTwo = [] := by
    rw [findingChecks, findings_of_pass hw.judged hpass, List.filterMap_nil]
  obtain ⟨hcritical, hhigh⟩ := counts_of_pass hpass
  obtain ⟨hintact, hprojection⟩ := integrity_of_ok h
  have hok := hintact.mpr hw.intact
  constructor
  · intro hall
    have hcontext := contextMatches_iff.mp (Bool.and_eq_true_iff.mp (hall .contextMatches)).1
    have htype := hall .reportTypeCompatible
    refine ⟨hw, hpass, ?_, ?_, ?_, hcontext.1, hcontext.2.1, hcontext.2.2, ?_, ?_⟩
    · exact beq_iff_eq.mp (hall .packageEligible)
    · simp only [GateInput.passed, reportTypeCompatible] at htype
      split at htype
      · cases htype
      · next hallowed =>
        exact List.contains_iff_mem.mp (not_not.mp hallowed)
    · exact sourceModeMatches_iff.mp (Bool.and_eq_true_iff.mp (hall .noSyntheticContamination)).1
    · exact hasSection_iff.mp (Bool.and_eq_true_iff.mp (hall .dataQualityPresent)).1
    · exact hasSection_iff.mp (Bool.and_eq_true_iff.mp (hall .limitationsPresent)).1
  · intro hp r
    have htype : reportTypeCompatible report manifest allowed = true := by
      rw [reportTypeCompatible, if_neg (not_not.mpr (List.contains_iff_mem.mpr hp.type)),
        if_neg (by rw [hp.complete]; decide), hp.complete]
      rfl
    cases r <;> simp only [GateInput.passed, hnone, checksAbsent_nil, Bool.and_true]
    case reportChecksumsValid => exact hok
    case packageInputChecksumsValid => exact inputIntegrity_iff.mpr hw.madeFrom
    case roundTwoCompleted => exact roundTwoCompleted_iff.mpr hw.judged
    case noCriticalFindings => exact beq_iff_eq.mpr hcritical
    case noHighFindings => exact beq_iff_eq.mpr hhigh
    case noSyntheticContamination => exact sourceModeMatches_iff.mpr hp.genuine
    case contextMatches => exact contextMatches_iff.mpr ⟨hp.security, hp.snapshot, hp.asOf⟩
    case dataQualityPresent => exact hasSection_iff.mpr hp.dataQuality
    case limitationsPresent => exact hasSection_iff.mpr hp.limitations
    case packageEligible => exact beq_iff_eq.mpr hp.complete
    case reportTypeCompatible => exact htype
    case projectionMatches => exact hprojection hok

def DecidedAs (lib : ReportLibrary) (report : ResearchReport) (manifest : ReportInputManifest)
    (roundTwo : ReportReflectionResult) (allowed : List ReportType) : ReleaseGateDecision → Prop
  | .failed => ¬ Workflow lib report manifest roundTwo ∨ manifest.packageStatus = .failed
  | .blocked => Workflow lib report manifest roundTwo ∧ manifest.packageStatus ≠ .failed ∧
      (manifest.packageStatus = .blocked ∨ roundTwo.run.criticalCount ≠ 0 ∨
        roundTwo.run.highCount ≠ 0)
  | .partly => Workflow lib report manifest roundTwo ∧
      (manifest.packageStatus = .complete ∨ manifest.packageStatus = .partly) ∧
      roundTwo.run.criticalCount = 0 ∧ roundTwo.run.highCount = 0 ∧
      ¬ Publishable lib report manifest roundTwo allowed
  | .publishable => Publishable lib report manifest roundTwo allowed

/-- The decisions exclude one another. -/
lemma decidedAs_unique {d d' : ReleaseGateDecision}
    (h : DecidedAs lib report manifest roundTwo allowed d)
    (h' : DecidedAs lib report manifest roundTwo allowed d') : d = d' := by
  have hcounts : Publishable lib report manifest roundTwo allowed →
      roundTwo.run.criticalCount = 0 ∧ roundTwo.run.highCount = 0 :=
    fun hp => counts_of_pass hp.passed
  have hcomplete : Publishable lib report manifest roundTwo allowed →
      manifest.packageStatus = .complete := fun hp => hp.complete
  have hworkflow : Publishable lib report manifest roundTwo allowed →
      Workflow lib report manifest roundTwo := fun hp => hp.workflow
  cases d <;> cases d' <;> simp only [DecidedAs] at h h' <;> grind

lemma decidedAs_decision (h : reportIntegrity lib report = .ok integrity) :
    DecidedAs lib report manifest roundTwo allowed
      ((GateInput.mk report manifest roundTwo allowed).decision
        ((GateInput.mk report manifest roundTwo allowed).passed integrity)) := by
  have hworkflow := @workflow_iff lib manifest roundTwo report integrity h
  unfold GateInput.decision
  simp only [GateInput.passed]
  split
  · next hfailed =>
    rcases Bool.or_eq_true_iff.mp hfailed with hno | hstatus
    · rw [Bool.not_eq_true'] at hno
      refine Or.inl fun hw => ?_
      rw [hworkflow.mpr hw] at hno
      cases hno
    · exact .inr (beq_iff_eq.mp hstatus)
  · next hnot =>
    simp only [Bool.or_eq_true, Bool.not_eq_true', not_or, Bool.not_eq_false, beq_iff_eq] at hnot
    obtain ⟨hvalid, hstatus⟩ := hnot
    have hw := hworkflow.mp hvalid
    split
    · next hblocked => exact ⟨hw, hstatus, .inl hblocked⟩
    · next hblocked =>
      split
      · next hcounts =>
        simp only [Bool.or_eq_true, Bool.not_eq_true', beq_eq_false_iff_ne] at hcounts
        exact ⟨hw, hstatus, .inr hcounts⟩
      · next hcounts =>
        simp only [Bool.or_eq_true, Bool.not_eq_true', beq_eq_false_iff_ne, not_or,
          not_not] at hcounts
        split
        · next hpartly =>
          refine ⟨hw, .inr hpartly, hcounts.1, hcounts.2, fun hp => ?_⟩
          rw [hp.complete] at hpartly
          cases hpartly
        · next hpartly =>
          have hcomplete : manifest.packageStatus = .complete := by
            cases hs : manifest.packageStatus with
            | complete => rfl
            | partly => exact absurd hs hpartly
            | blocked => exact absurd hs hblocked
            | failed => exact absurd hs hstatus
          split
          · next hrest =>
            refine ⟨hw, .inl hcomplete, hcounts.1, hcounts.2, fun hp => ?_⟩
            have hall := (@all_passed_iff lib manifest roundTwo allowed report integrity h hw
              hp.passed).mpr hp
            rw [all_requirements.mpr hall, hp.passed] at hrest
            cases hrest
          · next hrest =>
            simp only [Bool.or_eq_true, Bool.not_eq_true', not_or, Bool.not_eq_false, beq_iff_eq,
              all_requirements] at hrest
            have hpass : roundTwo.run.status = .pass :=
              hw.judged.status.resolve_right hrest.1
            exact (all_passed_iff h hw hpass).mp hrest.2

end Decision

section Evaluation

variable {candidate : ResearchReportAggregate lib.uuid5} {result : ReportReleaseDecisionResult lib}

/-- What an evaluation that returned has decided. -/
lemma evaluate_ok (h : evaluate lib candidate manifest roundTwo allowed = .ok result) :
    (∀ d, result.internalReleaseStatus = d ↔
        DecidedAs lib candidate.report manifest roundTwo allowed d) ∧
      sealIf lib candidate.toAggregateFields result.internalReleaseStatus =
        .ok result.sealedReport := by
  obtain ⟨integrity, hintegrity, h⟩ := bind_ok.mp h
  obtain ⟨outcome, houtcome, h⟩ := bind_ok.mp h
  cases h
  have hdecided := @decidedAs_decision lib manifest roundTwo allowed candidate.report integrity
    (orOther_ok.mp hintegrity)
  refine ⟨fun d => ?_, houtcome⟩
  constructor
  · rintro rfl
    exact hdecided
  · exact decidedAs_unique hdecided

/-- The report that was sealed. -/
lemma sealIf_some {fields : AggregateFields} {d : ReleaseGateDecision}
    {s : ResearchReportAggregate lib.uuid5} (h : sealIf lib fields d = .ok (some s)) :
    d = .publishable ∧ buildSealedReport lib fields = .ok s := by
  unfold sealIf at h
  split at h
  · next hd =>
    obtain ⟨s', hs', h⟩ := map_ok.mp h
    cases h
    exact ⟨hd, hs'⟩
  · cases h

lemma sealIf_isSome {fields : AggregateFields} {d : ReleaseGateDecision}
    {outcome : Option (ResearchReportAggregate lib.uuid5)}
    (h : sealIf lib fields d = .ok outcome) : outcome.isSome = true ↔ d = .publishable := by
  unfold sealIf at h
  split at h
  · next hd =>
    obtain ⟨s, -, rfl⟩ := map_ok.mp h
    exact iff_of_true rfl hd
  · next hd =>
    cases h
    exact iff_of_false (by simp) hd

end Evaluation

/-- **The decision.**  An evaluation that returns has decided by the report, its input and its second
reflection, and it seals exactly what is publishable. -/
theorem evaluate_iff (lib : ReportLibrary) (candidate : ResearchReportAggregate lib.uuid5)
    (manifest : ReportInputManifest) (roundTwo : ReportReflectionResult)
    (allowed : List ReportType) (result : ReportReleaseDecisionResult lib)
    (h : evaluate lib candidate manifest roundTwo allowed = .ok result) :
    (∀ d, result.internalReleaseStatus = d ↔
        DecidedAs lib candidate.report manifest roundTwo allowed d) ∧
      (result.sealedReport.isSome = true ↔
        Publishable lib candidate.report manifest roundTwo allowed) := by
  obtain ⟨hdecided, hseal⟩ := evaluate_ok h
  exact ⟨hdecided, (sealIf_isSome hseal).trans (hdecided .publishable)⟩

/-! ## The seal -/

section Seal

variable {candidate : AggregateFields} {target : ResearchReport}
  {s : ResearchReportAggregate lib.uuid5}

mutual

lemma sameValue_self (v : Value) : sameValue v v = true := by
  match v with
  | .null => rfl
  | .bool b => exact beq_self_eq_true b
  | .int n => exact beq_self_eq_true n
  | .real s => exact beq_self_eq_true s
  | .str s => exact beq_self_eq_true s
  | .arr vs => exact sameItems_self vs
  | .obj fs => exact sameFields_self fs

lemma sameItems_self (vs : List Value) : sameItems vs vs = true := by
  match vs with
  | [] => rfl
  | v :: vs => rw [sameItems, sameValue_self v, sameItems_self vs, Bool.and_self]

lemma sameFields_self (fs : List (String × Value)) : sameFields fs fs = true := by
  match fs with
  | [] => rfl
  | (k, v) :: fs =>
      rw [sameFields, sameValue_self v, sameFields_self fs, beq_self_eq_true, Bool.and_self,
        Bool.and_self]

end

/-- The copy that is sealed is a successor unless it has the identifier of its parent. -/
lemma validate_sealedReport {report : ResearchReport}
    (h : (sealedReport lib report).id ≠ report.id) :
    validateReportSuccessor report (sealedReport lib report) = .ok () := by
  have hcontent : validatePublishableContentIdentity report (sealedReport lib report) = .ok () :=
    check_ok.mpr (not_not.mpr ⟨sameValue_self _, rfl, rfl⟩)
  have hrender : ¬ (report.rendererVersion ≠ report.rendererVersion ∨
      report.templateName ≠ report.templateName ∨
      report.templateVersion ≠ report.templateVersion) := by
    simp
  have hsame : ∀ {α : Type} (a : α), ¬ a ≠ a := fun a hne => hne rfl
  unfold validateReportSuccessor
  refine check_bind_ok.mpr ⟨h, check_bind_ok.mpr ⟨hsame _, check_bind_ok.mpr ⟨hsame _,
    check_bind_ok.mpr ⟨hsame _, check_bind_ok.mpr ⟨hsame _, check_bind_ok.mpr ⟨hsame _,
    check_bind_ok.mpr ⟨hsame _, check_bind_ok.mpr ⟨hsame _, check_bind_ok.mpr ⟨hsame _,
    check_bind_ok.mpr ⟨hsame _, check_bind_ok.mpr ⟨hsame _, check_bind_ok.mpr ⟨hrender, ?_⟩⟩⟩⟩⟩⟩⟩⟩⟩⟩⟩⟩
  exact (if_pos rfl).trans hcontent

lemma id_ne_of_successor {parent child : ResearchReport}
    (h : validateReportSuccessor parent child = .ok ()) : child.id ≠ parent.id :=
  (check_bind_ok.mp h).1

/-- Sealing carries the bindings over, unless the identifier stays. -/
lemma buildSealedReport_ok : buildSealedReport lib candidate = .ok s ↔
    (sealedReport lib candidate.report).id ≠ candidate.report.id ∧
      rebaseReportBindings lib candidate (sealedReport lib candidate.report) = .ok s := by
  unfold buildSealedReport
  rw [unit_bind_ok, orOther_ok]
  exact and_congr_left fun _ => ⟨id_ne_of_successor, validate_sealedReport⟩

/-- Nothing that is verified is changed by sealing. -/
lemma intact_sealed {report : ResearchReport} :
    Intact lib (sealedReport lib report) ↔ Intact lib report := Iff.rfl

/-- What is publishable and can be sealed is sealed. -/
lemma evaluate_of_publishable {candidate : ResearchReportAggregate lib.uuid5}
    (hp : Publishable lib candidate.report manifest roundTwo allowed)
    (h : buildSealedReport lib candidate.toAggregateFields = .ok s) :
    ∃ result, evaluate lib candidate manifest roundTwo allowed = .ok result ∧
      result.sealedReport = some s := by
  obtain ⟨allocation, -, hprojected⟩ := hp.workflow.intact
  obtain ⟨integrity, hintegrity⟩ : ∃ integrity,
      reportIntegrity lib candidate.report = .ok integrity :=
    ⟨_, bind_ok.mpr ⟨_, hprojected.rendered, rfl⟩⟩
  have hdecided : DecidedAs lib candidate.report manifest roundTwo allowed .publishable := hp
  have hdecision := decidedAs_unique
    (@decidedAs_decision lib manifest roundTwo allowed candidate.report integrity hintegrity)
    hdecided
  refine ⟨_, bind_ok.mpr ⟨integrity, orOther_ok.mpr hintegrity, bind_ok.mpr ⟨some s, ?_, rfl⟩⟩, rfl⟩
  rw [hdecision, sealIf, if_pos rfl, h]
  rfl

/-- What renders is evaluated, and no reflection of another report releases it. -/
lemma evaluate_other {again : ResearchReportAggregate lib.uuid5} {report : ResearchReport}
    (hreport : again.report = report) (hintact : Intact lib report)
    (hother : roundTwo.run.researchReportId ≠ report.id) :
    ∃ result, evaluate lib again manifest roundTwo allowed = .ok result ∧
      result.internalReleaseStatus = .failed ∧ result.sealedReport = none := by
  subst hreport
  obtain ⟨allocation, hallocation, hprojected⟩ := hintact
  have hrender := hprojected.rendered
  obtain ⟨integrity, hintegrity⟩ : ∃ integrity, reportIntegrity lib again.report = .ok integrity :=
    ⟨_, bind_ok.mpr ⟨_, hrender, rfl⟩⟩
  have hjudged : roundTwoCompleted again.report roundTwo = false := by
    rw [Bool.eq_false_iff, ne_eq, roundTwoCompleted_iff]
    exact fun hj => hother hj.target
  have hfailed : (GateInput.mk again.report manifest roundTwo allowed).decision
      ((GateInput.mk again.report manifest roundTwo allowed).passed integrity) = .failed := by
    unfold GateInput.decision
    simp only [GateInput.passed]
    rw [hjudged, Bool.and_false, Bool.false_and, Bool.not_false, Bool.true_or, if_pos rfl]
  refine ⟨_, bind_ok.mpr ⟨integrity, orOther_ok.mpr hintegrity, bind_ok.mpr ⟨none, ?_, rfl⟩⟩,
    hfailed, rfl⟩
  rw [hfailed]
  rfl

end Seal

/-- **The seal.**  A sealed report is its candidate but for its identity, version, parent and status;
it verifies again, and whatever the manifest and the policy are, the reflection that released the
candidate does not release it. -/
theorem sealed_unchanged (lib : ReportLibrary) (candidate : ResearchReportAggregate lib.uuid5)
    (manifest : ReportInputManifest) (roundTwo : ReportReflectionResult)
    (allowed : List ReportType) (result : ReportReleaseDecisionResult lib)
    (s : ResearchReportAggregate lib.uuid5)
    (h : evaluate lib candidate manifest roundTwo allowed = .ok result)
    (hs : result.sealedReport = some s) :
    s.report = { candidate.report with
        id := s.report.id
        reportVersion := candidate.report.reportVersion + 1
        previousReportId := some candidate.report.id
        status := .publishable } ∧
      s.report.id ≠ candidate.report.id ∧ Intact lib s.report ∧
      ∀ manifest' allowed', ∃ again, evaluate lib s manifest' roundTwo allowed' = .ok again ∧
        again.internalReleaseStatus = .failed ∧ again.sealedReport = none := by
  obtain ⟨hdecided, hseal⟩ := evaluate_ok h
  rw [hs] at hseal
  obtain ⟨hpublishable, hbuilt⟩ := sealIf_some hseal
  obtain ⟨hne, hrebased⟩ := buildSealedReport_ok.mp hbuilt
  have hreport : s.report = sealedReport lib candidate.report := rebaseReportBindings_report hrebased
  have hp : Publishable lib candidate.report manifest roundTwo allowed :=
    (hdecided .publishable).mp hpublishable
  have hintact : Intact lib (sealedReport lib candidate.report) :=
    intact_sealed.mpr hp.workflow.intact
  refine ⟨?_, ?_, ?_, fun manifest' allowed' => ?_⟩
  · rw [hreport]
    rfl
  · rw [hreport]
    exact hne
  · rw [hreport]
    exact hintact
  · refine evaluate_other hreport hintact ?_
    rw [hp.workflow.judged.target]
    exact hne.symm

/-! ## One reflection -/

section Combined

lemma tags_referenceKind : Tags ReferenceKind.value where
  ascii := by rintro ⟨⟩ <;> exact forall_of_all (by decide)
  injective := by intro a b; cases a <;> cases b <;> decide

lemma ascii_uuid (u : Uuid) : Ascii u.str.toList := by
  intro c hc
  rw [Uuid.str, String.toList_ofList] at hc
  have hdigit : ∀ i : Fin 16, (hexDigit i).toNat < 128 := by decide
  rcases Uuid.mem_chars hc with rfl | ⟨i, rfl⟩
  · decide
  · exact hdigit i

lemma ascii_label {l : Text} (h : isLabel l = true) : Ascii l := by
  obtain ⟨kind, hkind⟩ := isLabel_iff.mp h
  have hletters : Ascii kind.letters := by
    cases kind <;> exact forall_of_all (by decide)
  intro c hc
  rcases mem_label hkind hc with hc | rfl | hc
  · exact hletters c hc
  · decide
  · exact ascii_of_isDigit hc

lemma str_inj {u v : Uuid} (h : u.str = v.str) : u = v := Uuid.chars_inj (String.ofList_injective h)

lemma sameEntry_iff {e e' : ReferenceEntry} (hplain : Plain (mapTexts (nfkcString lib) e.dump)) :
    Alike (SameText lib) e.dump e'.dump ↔ e = e' := by
  refine (alike_members ?_ hplain).trans ?_
  · rfl
  · simp only [alikeFields_cons, true_and, tags_referenceKind.alike,
      alike_tag (ascii_uuid e.recordId) (ascii_uuid e'.recordId),
      alike_asciiText (ascii_label e.label_ok) (ascii_label e'.label_ok)]
    constructor
    · rintro ⟨hkind, hid, hlabel, -⟩
      cases e
      cases e'
      cases hkind
      cases str_inj hid
      cases hlabel
      rfl
    · rintro rfl
      exact ⟨rfl, rfl, rfl, .nil⟩

/-- A hash whose digests are written in ASCII. -/
def AsciiDigests (hash : IdealHash) : Prop := ∀ t, Ascii (hash.digest t).toList

/-- Values with one checksum are alike, and the second is plain once normalized. -/
lemma alike_of_checksum {v w : Value} {d : String} (hv : reportChecksum lib v = .ok d)
    (hw : reportChecksum lib w = .ok d) :
    Plain (mapTexts (nfkcString lib) v) ∧ Alike (SameText lib) v w := by
  obtain ⟨t, ht, rfl⟩ := map_ok.mp hv
  obtain ⟨u, hu, hdigest⟩ := map_ok.mp hw
  have htext : t = u := lib.hash.injective hdigest.symm
  exact ⟨(canonicalReportJson_ok ht).1, (canonicalReportJson_iff ht hu).mp htext⟩

lemma ascii_checksum (hash : AsciiDigests lib.hash) {v : Value} {d : String}
    (h : reportChecksum lib v = .ok d) : Ascii d.toList := by
  obtain ⟨t, -, rfl⟩ := map_ok.mp h
  exact hash t

/-- What a combined checksum fixes. -/
lemma combined_same {s m s' m' d : String}
    {context context' : ReportChecksumContext} (hs : Ascii s.toList) (hs' : Ascii s'.toList)
    (hm : Ascii m.toList) (hm' : Ascii m'.toList)
    (h : combinedReportChecksum lib s m context = .ok d)
    (h' : combinedReportChecksum lib s' m' context' = .ok d) :
    s = s' ∧ m = m' ∧ context.visibleReferences = context'.visibleReferences ∧
      lib.nfkc context.templateName = lib.nfkc context'.templateName ∧
      lib.nfkc context.templateVersion = lib.nfkc context'.templateVersion ∧
      lib.nfkc context.rendererVersion = lib.nfkc context'.rendererVersion := by
  obtain ⟨hplain, halike⟩ := alike_of_checksum h h'
  have hreferences := hplain.2.2.2.2.2.2.2.2.2.2.1
  have hsame := @alike_dumps lib _ ReferenceEntry.dump Eq context.visibleReferences
    context'.visibleReferences fun e he e' => sameEntry_iff (plain_of_mem_dumps hreferences he)
  have hmembers := (alike_members (by rfl) hplain).mp halike
  simp only [alikeFields_cons, true_and, alike_textValue, alike_tag hs hs', alike_tag hm hm',
    hsame, List.forall₂_eq_eq_eq] at hmembers
  obtain ⟨-, hs, hm, hname, hversion, hrenderer, -, -, -, hreferences, -⟩ := hmembers
  exact ⟨hs, hm, hreferences, hname, hversion, hrenderer⟩

end Combined

/-- Reports of which the same is said: the same content, up to the spelling of texts with one normal
form, in the same Markdown and with the same references. -/
structure SameStatement (lib : ReportLibrary) (report report' : ResearchReport) : Prop where
  id : report.id = report'.id
  content : SameReport lib report.structuredContent report'.structuredContent
  markdown : lib.nfkc report.markdownContent = lib.nfkc report'.markdownContent
  references : (allocate lib report.structuredContent.fields).map (·.references) =
    (allocate lib report'.structuredContent.fields).map (·.references)
  templateName : lib.nfkc report.templateName = lib.nfkc report'.templateName
  templateVersion : lib.nfkc report.templateVersion = lib.nfkc report'.templateVersion
  rendererVersion : lib.nfkc report.rendererVersion = lib.nfkc report'.rendererVersion

/-- A reflection and the checksums fix what is said. -/
lemma sameStatement_of_workflow (hash : AsciiDigests lib.hash) {report report' : ResearchReport}
    {manifest' : ReportInputManifest} (h : Workflow lib report manifest roundTwo)
    (h' : Workflow lib report' manifest' roundTwo) : SameStatement lib report report' := by
  obtain ⟨allocation, hallocation, hp⟩ := h.intact
  obtain ⟨allocation', hallocation', hp'⟩ := h'.intact
  have hchecksum : report.contentChecksum = report'.contentChecksum :=
    h.judged.checksum.symm.trans h'.judged.checksum
  have hcombined' := hp'.combined
  simp only [storedChecksums, ← hchecksum] at hcombined'
  have hrendered := (render_ok.mp hp.rendered).2.1
  have hrendered' := (render_ok.mp hp'.rendered).2.1
  obtain ⟨hstructured, hmarkdown, hreferences, hname, hversion, hrenderer⟩ :=
    combined_same (ascii_checksum hash hp.structured) (ascii_checksum hash hp'.structured)
      (ascii_checksum hash hrendered) (ascii_checksum hash hrendered') hp.combined hcombined'
  have hstructured' : structuredReportChecksum lib report'.structuredContent.fields =
      .ok report.structuredChecksum :=
    hp'.structured.trans (congrArg Except.ok hstructured.symm)
  have hmarkdown' : markdownChecksum lib report'.markdownContent = .ok report.markdownChecksum :=
    hrendered'.trans (congrArg Except.ok hmarkdown.symm)
  obtain ⟨hplain, hcontent⟩ := alike_of_checksum hp.structured hstructured'
  refine ⟨h.judged.target.symm.trans h'.judged.target, (sameReport_iff hplain).mp hcontent,
    alike_textValue.mp (alike_of_checksum hrendered hmarkdown').2, ?_, hname, hversion, hrenderer⟩
  rw [hallocation, hallocation']
  exact congrArg Except.ok hreferences

/-- **One reflection.**  Two reports that one reflection lets through, whatever their manifests and
the policies are, say the same. -/
theorem sameStatement_of_evaluate (lib : ReportLibrary) (hash : AsciiDigests lib.hash)
    (candidate candidate' : ResearchReportAggregate lib.uuid5)
    (manifest manifest' : ReportInputManifest) (roundTwo : ReportReflectionResult)
    (allowed allowed' : List ReportType) (result result' : ReportReleaseDecisionResult lib)
    (h : evaluate lib candidate manifest roundTwo allowed = .ok result)
    (h' : evaluate lib candidate' manifest' roundTwo allowed' = .ok result')
    (hdecision : result.internalReleaseStatus ≠ .failed)
    (hdecision' : result'.internalReleaseStatus ≠ .failed) :
    SameStatement lib candidate.report candidate'.report := by
  have hnot : ¬ DecidedAs lib candidate.report manifest roundTwo allowed .failed :=
    fun hd => hdecision (((evaluate_ok h).1 .failed).mpr hd)
  have hnot' : ¬ DecidedAs lib candidate'.report manifest' roundTwo allowed' .failed :=
    fun hd => hdecision' (((evaluate_ok h').1 .failed).mpr hd)
  simp only [DecidedAs, not_or, not_not] at hnot hnot'
  exact sameStatement_of_workflow hash hnot.1 hnot'.1

/-! ## A released report -/

lemma asciiDigests_spelling : AsciiDigests spellingHash := by
  intro t c hc
  simp only [spellingHash, String.toList_ofList, digitsOf, List.mem_flatMap] at hc
  obtain ⟨d, -, hc⟩ := hc
  obtain ⟨i, rfl⟩ := Uuid.mem_hexDigits hc
  have hdigit : ∀ i : Fin 16, (hexDigit i).toNat < 128 := by decide
  exact hdigit i

/-- The second reflection of a report finds nothing. -/
def passedReflection (report : ResearchReport) : ReportReflectionResult where
  run :=
    { status := .pass
      totalFindingCount := 0
      criticalCount := 0
      highCount := 0
      mediumCount := 0
      lowCount := 0
      blockedReasonCode := none
      errorCode := none
      safeErrorMessage := none
      completedAt := some newYearsDay
      id := 9
      researchReportId := report.id
      roundNumber := 2
      inputReportChecksum := report.contentChecksum
      valid := by constructor <;> decide }
  findingIds := []
  findings := []

/-- The gate, on a draft that passed. -/
def releaseDraft (draft : ReportRevisionDraft spellingLibrary) :
    Except RevisionFailure (ReportReleaseDecisionResult spellingLibrary) :=
  evaluate spellingLibrary draft.target mendedManifest (passedReflection draft.target.report)
    [.fullResearchDraft]

section Draft

variable {draft : ReportRevisionDraft spellingLibrary}

lemma publishable_draft (hdraft : mendedDraft = .ok draft) (h : releasable draft = true) :
    Publishable spellingLibrary draft.target.report mendedManifest
      (passedReflection draft.target.report) [.fullResearchDraft] := by
  simp only [releasable, Bool.and_eq_true, beq_iff_eq, inputIntegrity_iff, contextMatches_iff,
    hasSection_iff] at h
  obtain ⟨⟨⟨⟨⟨hmade, hsecurity, hsnapshot, hasOf⟩, hquality, hlimits⟩, htype⟩, -⟩, -⟩ := h
  have hintact : Intact spellingLibrary draft.target.report := intact_of_revise rfl hdraft
  refine ⟨⟨hintact, hmade, ⟨rfl, .inl rfl, rfl, rfl, rfl, rfl⟩⟩, rfl, rfl, ?_, ?_, hsecurity,
    hsnapshot, hasOf, hquality, hlimits⟩
  · rw [htype]
    exact List.mem_singleton.mpr rfl
  · exact .inl ⟨rfl, .inl rfl⟩

lemma exists_sealed (hdraft : mendedDraft = .ok draft) (h : releasable draft = true) :
    ∃ result s, releaseDraft draft = .ok result ∧ result.sealedReport = some s := by
  have hparts := h
  simp only [releasable, Bool.and_eq_true, bne_iff_ne] at hparts
  obtain ⟨s, hs⟩ := exists_of_isOk hparts.2
  obtain ⟨result, hresult, hseal⟩ := evaluate_of_publishable (publishable_draft hdraft h)
    (buildSealedReport_ok.mpr ⟨hparts.1.2, hs⟩)
  exact ⟨result, s, hresult, hseal⟩

end Draft

/-- The decision on the draft. -/
theorem mended_decided : ∃ draft result, mendedDraft = .ok draft ∧ releaseDraft draft = .ok result ∧
    (∀ d, result.internalReleaseStatus = d ↔ DecidedAs spellingLibrary draft.target.report
      mendedManifest (passedReflection draft.target.report) [.fullResearchDraft] d) ∧
    (result.sealedReport.isSome = true ↔ Publishable spellingLibrary draft.target.report
      mendedManifest (passedReflection draft.target.report) [.fullResearchDraft]) := by
  obtain ⟨draft, hdraft, hreleasable⟩ := exists_draft
  obtain ⟨result, s, hresult, -⟩ := exists_sealed hdraft hreleasable
  obtain ⟨hdecided, hsealed⟩ := evaluate_iff spellingLibrary draft.target mendedManifest
    (passedReflection draft.target.report) [.fullResearchDraft] result hresult
  exact ⟨draft, result, hdraft, hresult, hdecided, hsealed⟩

/-- The sealed draft is not released again by its reflection. -/
theorem mended_sealed : ∃ draft result s, mendedDraft = .ok draft ∧ releaseDraft draft = .ok result ∧
    result.sealedReport = some s ∧ s.report.id ≠ draft.target.report.id ∧
    Intact spellingLibrary s.report ∧ ∃ again, evaluate spellingLibrary s mendedManifest
      (passedReflection draft.target.report) [.fullResearchDraft] = .ok again ∧
        again.internalReleaseStatus = .failed := by
  obtain ⟨draft, hdraft, hreleasable⟩ := exists_draft
  obtain ⟨result, s, hresult, hs⟩ := exists_sealed hdraft hreleasable
  obtain ⟨-, hid, hintact, hagain⟩ := sealed_unchanged spellingLibrary draft.target mendedManifest
    (passedReflection draft.target.report) [.fullResearchDraft] result s hresult hs
  obtain ⟨again, hagain, hfailed, -⟩ := hagain mendedManifest [.fullResearchDraft]
  exact ⟨draft, result, s, hdraft, hresult, hs, hid, hintact, again, hagain, hfailed⟩

/-- One reflection lets the draft through, and what it lets through says the same. -/
theorem mended_sameStatement : ∃ draft, mendedDraft = .ok draft ∧
    SameStatement spellingLibrary draft.target.report draft.target.report := by
  obtain ⟨draft, hdraft, hreleasable⟩ := exists_draft
  obtain ⟨result, s, hresult, hs⟩ := exists_sealed hdraft hreleasable
  have hdecision : result.internalReleaseStatus ≠ .failed := by
    obtain ⟨-, hseal⟩ := evaluate_ok hresult
    rw [hs] at hseal
    rw [(sealIf_some hseal).1]
    decide
  exact ⟨draft, hdraft, sameStatement_of_evaluate spellingLibrary asciiDigests_spelling draft.target
    draft.target mendedManifest mendedManifest (passedReflection draft.target.report)
    [.fullResearchDraft] [.fullResearchDraft] result result hresult hresult hdecision hdecision⟩

end StockResearch.Reports
