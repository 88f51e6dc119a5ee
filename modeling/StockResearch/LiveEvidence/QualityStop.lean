import Mathlib
import Mathlib.Data.List.ProdSigma
import Mathlib.Data.List.TakeWhile
import StockResearch.Core.Percent
import StockResearch.LiveEvidence.TerminalStore
import StockResearch.Providers.LookAhead

/-!
# The data quality stop

`ProviderDataQualityValidator.validate` inspects the records of a batch against eight rules, and
`SecDataQualityStopService.evaluate` turns what it finds into the terminal of the pilot.

**What is found.**  `violations` lists the pairs of a record and a rule that it breaks, and
`foldl_inspect` says that the loop finds these pairs and no others.

**What is reported.**  A result holds at most 10000 issues, a batch may have 10000 records, and a
record may break several rules.

* **`quality_reported_iff`**: the validator reports what it found, and the stop ends as `BLOCKED`
  when there is something to report, exactly if there are at most 10000 pairs.
-/

namespace StockResearch.LiveEvidence

open Providers PyTime PyJson

/-! ## Rules -/

/-- `ProviderQualityContext` -/
structure ProviderQualityContext where
  researchAsOfTime : Instant
  providerDefinitionId : Uuid
  providerCapabilityId : Uuid
  rawArtifactId : Uuid
  sourceChecksum : String
  syntheticStatus : ProviderSyntheticStatus
  allowedCurrencies : List String
  allowedUnits : List String
  currencies_le : allowedCurrencies.length ≤ 64
  units_le : allowedUnits.length ≤ 64

def validDecimals (library : Library) (record : ProviderRecord) : Bool :=
  record.numericValues.all fun v => v.2.all fun s => (library.decimal s).isSome

def validCurrencyUnit (record : ProviderRecord) (context : ProviderQualityContext) : Bool :=
  (record.text "currency").all (· ∈ context.allowedCurrencies) &&
    (record.text "unit").all (· ∈ context.allowedUnits)

/-- The condition of a rule in the loop, where `seen` are the checksums of the earlier records. -/
def breaks (library : Library) (context : ProviderQualityContext) (seen : List String)
    (record : ProviderRecord) : ProviderQualityRule → Bool
  | .duplicate => record.identity.checksum library ∈ seen
  | .identity => record.identity.providerDefinitionId ≠ context.providerDefinitionId ∨
      record.identity.providerCapabilityId ≠ context.providerCapabilityId ∨
      record.rawArtifactId ≠ context.rawArtifactId
  | .temporal => record.sourcePublishedAt.any fun published => context.researchAsOfTime < published
  | .sourceChecksum => record.sourceChecksum ≠ context.sourceChecksum
  | .syntheticIsolation => record.syntheticStatus ≠ context.syntheticStatus
  | .decimal => !validDecimals library record
  | .currencyUnit => !validCurrencyUnit record context
  | .missing => record.status = .missing && record.numericValues.any fun v => v.2.isSome

def issue (rule : ProviderQualityRule) (record : ProviderRecord) : ProviderQualityIssue where
  rule
  recordKey := record.key
  safeDetail := rule.value ++ " validation failed"
  recordKeyLength := record.identity.validKey
  safeDetailLength := by cases rule <;> decide

/-! ## The validator -/

structure ProviderQualityResult where
  passed : Bool
  issues : List ProviderQualityIssue
  bounded : issues.length ≤ 10000

/-- The local variables of the loop: the issues and the checksums that were seen. -/
structure Inspection where
  issues : List ProviderQualityIssue
  seen : List String

/-- One turn of the loop. -/
def Inspection.inspect (library : Library) (context : ProviderQualityContext) (s : Inspection)
    (record : ProviderRecord) : Inspection :=
  let found := fun rule =>
    if breaks library context s.seen record rule then [issue rule record] else []
  { issues := s.issues ++ found .duplicate ++ found .identity ++ found .temporal ++
      found .sourceChecksum ++ found .syntheticIsolation ++ found .decimal ++ found .currencyUnit ++
      found .missing
    seen := s.seen ++ [record.identity.checksum library] }

/-- `sorted(issues, key=lambda item: (item.record_key, item.rule.value))` -/
def sortIssues (issues : List ProviderQualityIssue) : List ProviderQualityIssue :=
  issues.insertionSort fun a b =>
    toLex (a.recordKey, a.rule.value) ≤ toLex (b.recordKey, b.rule.value)

def ProviderDataQualityValidator.validate (library : Library) (batch : ProviderBatch)
    (context : ProviderQualityContext) : Except StockResearch.Raised ProviderQualityResult :=
  let ordered := sortIssues (batch.records.foldl (Inspection.inspect library context) ⟨[], []⟩).issues
  if bounded : ordered.length ≤ 10000 then
    .ok { passed := ordered.isEmpty, issues := ordered, bounded }
  else .error (.value "ProviderQualityResult.issues too_long")

/-! ## What is found -/

def ProviderQualityRule.all : List ProviderQualityRule :=
  [.duplicate, .identity, .temporal, .sourceChecksum, .syntheticIsolation, .decimal, .currencyUnit,
    .missing]

lemma ProviderQualityRule.mem_all (rule : ProviderQualityRule) : rule ∈ all := by
  cases rule <;> decide

/-- A record of a batch breaks a rule; the earlier records are those before it. -/
def Violates (library : Library) (batch : ProviderBatch) (context : ProviderQualityContext)
    (record : ProviderRecord) (rule : ProviderQualityRule) : Prop :=
  breaks library context
    ((batch.records.takeWhile (· ≠ record)).map fun r => r.identity.checksum library) record rule

instance (library : Library) (batch : ProviderBatch) (context : ProviderQualityContext)
    (record : ProviderRecord) : DecidablePred (Violates library batch context record) :=
  fun _ => inferInstanceAs (Decidable (_ = true))

/-- The pairs of a record and a rule that it breaks. -/
def violations (library : Library) (batch : ProviderBatch) (context : ProviderQualityContext) :
    List (ProviderRecord × ProviderQualityRule) :=
  (batch.records ×ˢ ProviderQualityRule.all).filter fun p => Violates library batch context p.1 p.2

section Found

variable {library : Library} {batch : ProviderBatch} {context : ProviderQualityContext}

lemma map_filter_eq_flatMap {α β : Type*} (p : α → Bool) (f : α → β) (l : List α) :
    (l.filter p).map f = l.flatMap fun a => if p a then [f a] else [] := by
  induction l with
  | nil => rfl
  | cons a l ih =>
      rw [List.filter_cons, List.flatMap_cons, ← ih]
      split_ifs <;> rfl

lemma inspect_issues (s : Inspection) (record : ProviderRecord) :
    (s.inspect library context record).issues =
      s.issues ++ (ProviderQualityRule.all.filter (breaks library context s.seen record)).map
        (issue · record) := by
  rw [map_filter_eq_flatMap]
  simp only [Inspection.inspect, ProviderQualityRule.all, List.append_assoc, List.flatMap_cons,
    List.flatMap_nil, List.append_nil]

/-- The loop over the rest of the records, after the ones in `earlier`. -/
lemma foldl_inspect (earlier records : List ProviderRecord) (s : Inspection)
    (hseen : s.seen = earlier.map fun r => r.identity.checksum library)
    (hnodup : (earlier ++ records).Nodup) :
    (records.foldl (Inspection.inspect library context) s).issues = s.issues ++
      records.flatMap fun record => (ProviderQualityRule.all.filter (breaks library context
        (((earlier ++ records).takeWhile (· ≠ record)).map fun r => r.identity.checksum library)
        record)).map (issue · record) := by
  induction records generalizing earlier s with
  | nil => simp
  | cons record records ih =>
      have hnext : (s.inspect library context record).seen =
          (earlier ++ [record]).map fun r => r.identity.checksum library := by
        simp [Inspection.inspect, hseen]
      have hfresh : record ∉ earlier := by
        intro hmem
        exact (List.nodup_append.mp hnodup).2.2 record hmem record (List.mem_cons_self ..) rfl
      have hbefore : (earlier ++ record :: records).takeWhile (· ≠ record) = earlier := by
        rw [List.takeWhile_append_of_pos]
        · simp
        · intro r hr
          simp only [decide_eq_true_eq]
          rintro rfl
          exact hfresh hr
      have hrest := ih (earlier ++ [record]) (s.inspect library context record) hnext
        (by simpa using hnodup)
      rw [List.append_assoc, List.singleton_append] at hrest
      rw [List.foldl_cons, hrest, inspect_issues, List.flatMap_cons, hbefore, hseen,
        List.append_assoc]

lemma records_nodup (batch : ProviderBatch) : batch.records.Nodup :=
  List.Nodup.of_map _ batch.unique

/-- **The loop finds the violations.** -/
lemma inspected_issues :
    (batch.records.foldl (Inspection.inspect library context) ⟨[], []⟩).issues =
      (violations library batch context).map fun p => issue p.2 p.1 := by
  rw [foldl_inspect [] batch.records ⟨[], []⟩ rfl (by simpa using records_nodup batch),
    List.nil_append, violations]
  have hproduct : ∀ records : List ProviderRecord,
      ((records ×ˢ ProviderQualityRule.all).filter
        fun p => decide (Violates library batch context p.1 p.2)).map (fun p => issue p.2 p.1) =
      records.flatMap fun record => (ProviderQualityRule.all.filter (breaks library context
        ((batch.records.takeWhile (· ≠ record)).map fun r => r.identity.checksum library)
        record)).map (issue · record) := by
    intro records
    induction records with
    | nil => rfl
    | cons record records ih =>
        rw [List.product_cons, List.filter_append, List.map_append, ih, List.flatMap_cons,
          List.filter_map, List.map_map]
        congr 2
        refine List.filter_congr fun rule _ => ?_
        simp [Violates]
  exact (hproduct batch.records).symm

/-- What the validator returns, in terms of the violations. -/
lemma qualityValidate_ok {result : ProviderQualityResult} :
    ProviderDataQualityValidator.validate library batch context = .ok result ↔
      (violations library batch context).length ≤ 10000 ∧
        result.passed = (violations library batch context).isEmpty ∧
        result.issues = sortIssues ((violations library batch context).map fun p => issue p.2 p.1) := by
  have hlength : (sortIssues ((violations library batch context).map fun p => issue p.2 p.1)).length =
      (violations library batch context).length := by
    rw [sortIssues, List.length_insertionSort, List.length_map]
  have hempty : (sortIssues ((violations library batch context).map fun p =>
      issue p.2 p.1)).isEmpty = (violations library batch context).isEmpty := by
    rw [Bool.eq_iff_iff, List.isEmpty_iff, List.isEmpty_iff, ← List.length_eq_zero_iff, hlength,
      List.length_eq_zero_iff]
  unfold ProviderDataQualityValidator.validate
  simp only [inspected_issues]
  split_ifs with hbounded
  · rw [Except.ok.injEq]
    rw [hlength] at hbounded
    constructor
    · rintro rfl
      exact ⟨hbounded, hempty, rfl⟩
    · rintro ⟨-, hpassed, hissues⟩
      cases result
      subst hpassed hissues
      simp only [ProviderQualityResult.mk.injEq, and_true]
      exact hempty
  · rw [hlength] at hbounded
    exact iff_of_false (by rintro ⟨⟩) fun h => hbounded h.1

lemma violations_eq_nil_iff : violations library batch context = [] ↔
    ∀ record ∈ batch.records, ∀ rule, ¬ Violates library batch context record rule := by
  rw [violations, List.filter_eq_nil_iff]
  constructor
  · intro h record hrecord rule hviolates
    exact h (record, rule) (List.mem_product.mpr ⟨hrecord, rule.mem_all⟩) (by simpa using hviolates)
  · intro h p hp hviolates
    exact h p.1 (List.mem_product.mp hp).1 p.2 (by simpa using hviolates)

end Found

/-! ## The stop -/

/-- The fields of `CommittedSecSettlement` that the stop reads. -/
structure CommittedSettlement where
  artifactId : Uuid
  manifestId : Uuid
  requestAttemptId : Uuid
  contentChecksum : String

/-- The fields of `ValidatedSecSettlement` and of its context that the stop reads. -/
structure ValidatedSettlement where
  artifactId : Uuid
  requestAttemptId : Uuid
  sourceChecksum : String
  batch : ProviderBatch
  researchAsOfTime : Instant
  providerDefinitionId : Uuid
  providerCapabilityId : Uuid
  syntheticStatus : ProviderSyntheticStatus

/-- `CompletedSecResource` -/
structure CompletedResource where
  sliceId : String
  artifactKind : SecArtifactKind
  committed : CommittedSettlement
  validated : ValidatedSettlement

/-- `SecDocumentCitationResult` -/
structure SecDocumentCitationResult where
  documentVersionId : Uuid
  citationIds : List Uuid
  cited : 1 ≤ citationIds.length ∧ citationIds.length ≤ 10000

/-- The context in which the stop validates: no currency and no unit is allowed. -/
def ValidatedSettlement.qualityContext (v : ValidatedSettlement) : ProviderQualityContext where
  researchAsOfTime := v.researchAsOfTime
  providerDefinitionId := v.providerDefinitionId
  providerCapabilityId := v.providerCapabilityId
  rawArtifactId := v.artifactId
  sourceChecksum := v.sourceChecksum
  syntheticStatus := v.syntheticStatus
  allowedCurrencies := []
  allowedUnits := []
  currencies_le := Nat.zero_le _
  units_le := Nat.zero_le _

/-- The result that `evaluate` commits. -/
def liveValidationResult (committed : CommittedSettlement) (document : SecDocumentCitationResult)
    (quality : ProviderQualityResult) : LiveValidationResult where
  status := if quality.passed then .passed else .blocked
  terminalStage := .dataQuality
  artifactId := some committed.artifactId
  manifestId := some committed.manifestId
  requestAttemptId := committed.requestAttemptId
  documentVersionId := some document.documentVersionId
  citationIds := document.citationIds
  dataQualityIssueCount := quality.issues.length
  warningCodes := []
  stopReason := "DATA_QUALITY_STOP"
  failedOrdinal := none
  failedSliceId := none
  lineage := by
    refine ⟨by simp, by simp, by simp, ?_, rfl, rfl⟩
    exact List.length_pos_iff.mp document.cited.1
  warningCount := by decide
  stopReasonLength := by decide
  ordinalBound := by simp
  sliceLength := by simp

/-- `SecDataQualityStopService.evaluate`, with the commit of the terminal store as a parameter; it
returns the result and the id of the audit event. -/
def SecDataQualityStopService.evaluate (library : Library)
    (commit : LiveValidationResult → List ProviderQualityIssue → Except StockResearch.Raised Uuid)
    (completedResources : List CompletedResource) (document : SecDocumentCitationResult) :
    Except StockResearch.Raised (LiveValidationResult × Uuid) :=
  if completedResources.map (·.sliceId) ≠
      ["SEC_SUBMISSIONS", "SEC_FILING_INDEX", "SEC_PRIMARY_DOCUMENT"] then
    .error (.validation "GATE_B_RESOURCE_SET_INCOMPLETE")
  else match completedResources.getLast? with
    | none => .error (.other "IndexError")
    | some primary =>
        if primary.artifactKind ≠ .primaryFilingDocument then
          .error (.validation "GATE_B_PRIMARY_DOCUMENT_INVALID")
        else if primary.committed.artifactId ≠ primary.validated.artifactId ∨
            primary.committed.requestAttemptId ≠ primary.validated.requestAttemptId ∨
            primary.committed.contentChecksum ≠ primary.validated.sourceChecksum then
          .error (.value "SEC_DATA_QUALITY_LINEAGE_MISMATCH")
        else do
          let quality ← ProviderDataQualityValidator.validate library primary.validated.batch
            primary.validated.qualityContext
          let result := liveValidationResult primary.committed document quality
          let auditEventId ← commit result quality.issues
          return (result, auditEventId)

/-- The resources pass the checks that the stop makes before it validates the batch of `primary`. -/
structure Stoppable (completedResources : List CompletedResource) (primary : CompletedResource) :
    Prop where
  slices : completedResources.map (·.sliceId) =
    ["SEC_SUBMISSIONS", "SEC_FILING_INDEX", "SEC_PRIMARY_DOCUMENT"]
  last : completedResources.getLast? = some primary
  kind : primary.artifactKind = .primaryFilingDocument
  artifact : primary.committed.artifactId = primary.validated.artifactId
  attempt : primary.committed.requestAttemptId = primary.validated.requestAttemptId
  checksum : primary.committed.contentChecksum = primary.validated.sourceChecksum

lemma Stoppable.evaluate {library : Library}
    {commit : LiveValidationResult → List ProviderQualityIssue → Except StockResearch.Raised Uuid}
    {completedResources : List CompletedResource} {primary : CompletedResource}
    {document : SecDocumentCitationResult} (h : Stoppable completedResources primary) :
    SecDataQualityStopService.evaluate library commit completedResources document =
      (ProviderDataQualityValidator.validate library primary.validated.batch
        primary.validated.qualityContext).bind fun quality =>
        (commit (liveValidationResult primary.committed document quality) quality.issues).bind
          fun auditEventId =>
            .ok (liveValidationResult primary.committed document quality, auditEventId) := by
  unfold SecDataQualityStopService.evaluate
  rw [if_neg (not_not.mpr h.slices), h.last]
  dsimp only
  rw [if_neg (not_not.mpr h.kind), if_neg (by simp [h.artifact, h.attempt, h.checksum])]
  rfl

/-! ## What is reported -/

/-- The validator returns: it passed if no record breaks a rule, and its issues are the violations,
each once. -/
def Reported (library : Library) (batch : ProviderBatch) (context : ProviderQualityContext) : Prop :=
  ∃ result, ProviderDataQualityValidator.validate library batch context = .ok result ∧
    (result.passed = true ↔
      ∀ record ∈ batch.records, ∀ rule, ¬ Violates library batch context record rule) ∧
    result.issues.Perm ((violations library batch context).map fun p => issue p.2 p.1)

/-- The stop, whose commit goes through, ends with a result, which is `BLOCKED` if some record breaks
a rule. -/
def StopReported (library : Library) (completedResources : List CompletedResource)
    (primary : CompletedResource) (document : SecDocumentCitationResult) : Prop :=
  ∀ auditEventId, ∃ result,
    SecDataQualityStopService.evaluate library (fun _ _ => .ok auditEventId) completedResources document =
      .ok (result, auditEventId) ∧
    (result.status = .blocked ↔ ∃ record ∈ primary.validated.batch.records, ∃ rule,
      Violates library primary.validated.batch primary.validated.qualityContext record rule)

lemma reported_iff (library : Library) (batch : ProviderBatch) (context : ProviderQualityContext) :
    Reported library batch context ↔ (violations library batch context).length ≤ 10000 := by
  constructor
  · rintro ⟨result, hvalidate, -⟩
    exact (qualityValidate_ok.mp hvalidate).1
  · intro hbounded
    have hlength : (sortIssues ((violations library batch context).map
        fun p => issue p.2 p.1)).length ≤ 10000 := by
      rwa [sortIssues, List.length_insertionSort, List.length_map]
    refine ⟨⟨(violations library batch context).isEmpty, _, hlength⟩,
      qualityValidate_ok.mpr ⟨hbounded, rfl, rfl⟩, ?_, List.perm_insertionSort _ _⟩
    rw [List.isEmpty_iff, violations_eq_nil_iff]

/-- **What is wrong is reported if it is not too much**: for any batch and any context, and for the
stop, exactly if at most 10000 pairs of a record and a rule are violations. -/
theorem quality_reported_iff (library : Library) :
    (∀ batch context,
      Reported library batch context ↔ (violations library batch context).length ≤ 10000) ∧
    ∀ completedResources primary document, Stoppable completedResources primary →
      (StopReported library completedResources primary document ↔
        (violations library primary.validated.batch
          primary.validated.qualityContext).length ≤ 10000) := by
  refine ⟨reported_iff library, fun completedResources primary document hstop => ?_⟩
  rw [← reported_iff]
  constructor
  · intro h
    obtain ⟨result, hresult, -⟩ := h 0
    rw [hstop.evaluate] at hresult
    obtain ⟨quality, hquality, -⟩ := Checked.bind_ok.mp hresult
    exact (reported_iff ..).mpr (qualityValidate_ok.mp hquality).1
  · rintro ⟨quality, hquality, hpassed, -⟩ auditEventId
    refine ⟨liveValidationResult primary.committed document quality, ?_, ?_⟩
    · rw [hstop.evaluate, hquality]
      rfl
    · have hstatus : (liveValidationResult primary.committed document quality).status = .blocked ↔
          ¬ quality.passed = true := by
        cases hp : quality.passed <;> simp [liveValidationResult, hp]
      rw [hstatus, hpassed]
      push Not
      rfl

/-! ### A filing with one wrong record -/

/-- The one record was read from another artifact. -/
def strayRecord : ProviderRecord where
  identity :=
    { providerDefinitionId := 1
      providerCapabilityId := 2
      sourceIdentity := "filing"
      recordKey := "item"
      revision := 1
      validSource := by decide
      validKey := by decide
      validRevision := validRevision_one
      printable := by decide }
  rawArtifactId := 3
  sourceChecksum := "stored"
  sourcePublishedAt := none
  status := .complete
  numericValues := []
  textValues := []
  warningCodes := []
  syntheticStatus := .realVerified

/-- A resource of the run, for a slice. -/
def filingResource (sliceId : String) : CompletedResource where
  sliceId
  artifactKind := .primaryFilingDocument
  committed := ⟨4, 5, 6, "stored"⟩
  validated :=
    { artifactId := 4
      requestAttemptId := 6
      sourceChecksum := "stored"
      batch :=
        { manifestChecksum := "manifest"
          records := [strayRecord]
          bounded := by decide
          ordered := List.pairwise_singleton _ _
          unique := List.nodup_singleton _ }
      researchAsOfTime := newYear
      providerDefinitionId := 1
      providerCapabilityId := 2
      syntheticStatus := .realVerified }

def filingResources : List CompletedResource :=
  [filingResource "SEC_SUBMISSIONS", filingResource "SEC_FILING_INDEX",
    filingResource "SEC_PRIMARY_DOCUMENT"]

/-- The stop reports the record that was read from another artifact. -/
theorem stray_record_reported :
    Stoppable filingResources (filingResource "SEC_PRIMARY_DOCUMENT") ∧
      StopReported asciiLibrary filingResources (filingResource "SEC_PRIMARY_DOCUMENT")
        ⟨7, [8], by decide⟩ := by
  have hstop : Stoppable filingResources (filingResource "SEC_PRIMARY_DOCUMENT") :=
    ⟨rfl, rfl, rfl, rfl, rfl, rfl⟩
  refine ⟨hstop, ((quality_reported_iff asciiLibrary).2 _ _ _ hstop).mpr ?_⟩
  exact (List.length_filter_le _ _).trans (by decide)

/-! ### Batches that its validators admit -/

/-- The batch and its records are admitted by their validators. -/
def Admitted (library : Library) (batch : ProviderBatch) : Prop :=
  ProviderBatch.create library batch.manifestChecksum batch.records = .ok batch ∧
    ∀ record ∈ batch.records, record.validate library = .ok record

/-- The rules that a record of an admitted batch may break. -/
def ProviderQualityRule.open : List ProviderQualityRule :=
  [.identity, .temporal, .sourceChecksum, .syntheticIsolation, .currencyUnit]

/-! ### A batch with too much wrong -/

/-- A library whose digest is the text itself. -/
def verbatimLibrary : Library :=
  { asciiLibrary with sha256 := fun body => String.ofList (body.map fun b => Char.ofNat b.toNat) }

/-- A code point below the surrogates is that of its character. -/
lemma toNat_ofNat_char {n : Nat} (h : n < 0xd800) : (Char.ofNat n).toNat = n := by
  have hvalid : n.isValidChar := Or.inl h
  rw [Char.ofNat, dif_pos hvalid]
  simp [Char.ofNatAux, Char.toNat]

lemma verbatim_inj {body body' : List UInt8}
    (h : verbatimLibrary.sha256 body = verbatimLibrary.sha256 body') : body = body' := by
  refine List.map_injective_iff.mpr (fun a b hab => ?_) (String.ofList_injective h)
  have hchar : ∀ b : UInt8, (Char.ofNat b.toNat).toNat = b.toNat := by
    intro b
    have hsmall := b.toNat_lt
    exact toNat_ofNat_char (by omega)
  have := congrArg Char.toNat hab
  rw [hchar, hchar] at this
  exact UInt8.toNat_inj.mp this

/-- The members of an identity in canonical JSON, from their texts. -/
def identityJson (definition capability source key : String) (revision : Int) : Value :=
  .obj [("provider_definition_id", .str definition), ("provider_capability_id", .str capability),
    ("source_identity", .str source), ("record_key", .str key), ("revision", .int revision)]

lemma identityJson_key {a b c key a' b' c' key' : String} {n n' : Int}
    (h : canonicalText (identityJson a b c key n) = canonicalText (identityJson a' b' c' key' n')) :
    key = key' := by
  have hplain : ∀ a b c key n, Plain (identityJson a b c key n) := by
    intro a b c key n
    simp [identityJson, Plain, PlainFields]
  have hfields := canonicalText_obj_inj (hplain a b c key n) (hplain a' b' c' key' n') rfl h
  simp only [List.map_cons, List.cons.injEq, Prod.mk.injEq, sortKeys, Value.str.injEq] at hfields
  exact hfields.2.2.2.1.2

/-- Identities with different keys have different texts. -/
lemma checksum_verbatim {i j : ProviderRecordIdentity}
    (h : i.checksum verbatimLibrary = j.checksum verbatimLibrary) : i.recordKey = j.recordKey :=
  identityJson_key (Percent.encode_inj (verbatim_inj h))

def oneCharKey (i : Fin 2001) : String := String.singleton (Char.ofNat (19968 + i))

lemma toNat_keyChar (i : Fin 2001) : (Char.ofNat (19968 + i)).toNat = 19968 + i :=
  toNat_ofNat_char (by omega)

lemma oneCharKey_ok (i : Fin 2001) : isPrintable "filing" ∧ isPrintable (oneCharKey i) := by
  have hspace : PyText.isSpace (Char.ofNat (19968 + i)) = false := by
    simp only [PyText.isSpace, toNat_keyChar]
    grind
  refine ⟨by decide, ?_⟩
  simp only [isPrintable, oneCharKey, String.toList_singleton, List.head?_cons, Option.any_some,
    List.getLast?_singleton, hspace, List.all_cons, List.all_nil, toNat_keyChar]
  grind

/-- A record that is wrong in five ways. -/
def wrongRecord (i : Fin 2001) : ProviderRecord where
  identity :=
    { providerDefinitionId := 1
      providerCapabilityId := 2
      sourceIdentity := "filing"
      recordKey := oneCharKey i
      revision := 1
      validSource := by decide
      validKey := by simp [oneCharKey]
      validRevision := validRevision_one
      printable := oneCharKey_ok i }
  rawArtifactId := 3
  sourceChecksum := "changed"
  sourcePublishedAt := some { newYear with hour := 1, validHour := by decide }
  status := .complete
  numericValues := []
  textValues := [("currency", some "USD")]
  warningCodes := []
  syntheticStatus := .syntheticTestOnly

lemma oneCharKey_lt {i j : Fin 2001} (h : i < j) : oneCharKey i < oneCharKey j := by
  have hlt : Char.ofNat (19968 + i) < Char.ofNat (19968 + j) := by
    rw [Char.lt_def, UInt32.lt_iff_toNat_lt]
    change (Char.ofNat (19968 + i)).toNat < (Char.ofNat (19968 + j)).toNat
    rw [toNat_keyChar, toNat_keyChar]
    have : (i : Nat) < j := h
    omega
  rw [String.lt_iff_toList_lt]
  simp only [oneCharKey, String.toList_singleton]
  exact List.Lex.rel hlt

def wrongRecords : List ProviderRecord := (List.finRange 2001).map wrongRecord

lemma mem_wrongRecords {record : ProviderRecord} :
    record ∈ wrongRecords ↔ ∃ i, wrongRecord i = record := by
  simp only [wrongRecords, List.mem_map, List.mem_finRange, true_and]

lemma length_wrongRecords : wrongRecords.length = 2001 := by
  rw [wrongRecords, List.length_map, List.length_finRange]

lemma wrongRecords_keys : (wrongRecords.map ProviderRecord.key).Pairwise (· < ·) := by
  rw [wrongRecords, List.map_map, List.pairwise_map]
  exact (List.pairwise_lt_finRange 2001).imp fun h => oneCharKey_lt h

-- no unification is to run through the 2001 records
attribute [irreducible] wrongRecords

/-- The batch of these records. -/
def wrongBatch : ProviderBatch where
  manifestChecksum := "manifest"
  records := wrongRecords
  bounded := by
    rw [length_wrongRecords]
    decide
  ordered := wrongRecords_keys.imp fun h => h.le
  unique := wrongRecords_keys.imp fun h => h.ne

/-- The context: another provider, another artifact, an earlier time, no currency. -/
def strictContext : ProviderQualityContext where
  researchAsOfTime := newYear
  providerDefinitionId := 9
  providerCapabilityId := 2
  rawArtifactId := 3
  sourceChecksum := "stored"
  syntheticStatus := .realVerified
  allowedCurrencies := []
  allowedUnits := []
  currencies_le := by decide
  units_le := by decide

lemma wrongBatch_admitted : Admitted verbatimLibrary wrongBatch := by
  have hkeys := wrongRecords_keys
  have hnodup : (wrongRecords.map fun r => r.identity.checksum verbatimLibrary).Nodup := by
    rw [List.Nodup]
    rw [List.pairwise_map] at hkeys ⊢
    refine hkeys.imp fun hlt hsame => ?_
    exact hlt.ne (checksum_verbatim hsame)
  constructor
  · unfold ProviderBatch.create
    rw [dif_pos wrongBatch.bounded, dif_pos ⟨wrongBatch.ordered, wrongBatch.unique⟩]
    exact if_pos hnodup
  · intro record hrecord
    obtain ⟨i, rfl⟩ := mem_wrongRecords.mp hrecord
    simp [ProviderRecord.validate, wrongRecord]

/-- Every record breaks every rule that a record of an admitted batch may break. -/
lemma wrongBatch_violates {record : ProviderRecord} (hrecord : record ∈ wrongBatch.records)
    {rule : ProviderQualityRule} (hrule : rule ∈ ProviderQualityRule.open) :
    Violates verbatimLibrary wrongBatch strictContext record rule := by
  obtain ⟨i, rfl⟩ := mem_wrongRecords.mp hrecord
  unfold Violates
  simp only [ProviderQualityRule.open, List.mem_cons, List.not_mem_nil, or_false] at hrule
  rcases hrule with rfl | rfl | rfl | rfl | rfl
  · rfl
  · rfl
  · rfl
  · rfl
  · rfl

/-- **Too much is wrong to be reported.**  The validators admit the batch of 2001 records, some
record breaks a rule, and the validator raises. -/
theorem wrong_batch_not_reported :
    Admitted verbatimLibrary wrongBatch ∧
      (∃ record ∈ wrongBatch.records, ∃ rule,
        Violates verbatimLibrary wrongBatch strictContext record rule) ∧
      ProviderDataQualityValidator.validate verbatimLibrary wrongBatch strictContext =
        .error (.value "ProviderQualityResult.issues too_long") := by
  have hmany : 10000 < (violations verbatimLibrary wrongBatch strictContext).length := by
    have hsub : wrongBatch.records ×ˢ ProviderQualityRule.open ⊆
        violations verbatimLibrary wrongBatch strictContext := by
      rintro ⟨record, rule⟩ hp
      obtain ⟨hrecord, hrule⟩ := List.mem_product.mp hp
      refine List.mem_filter.mpr ⟨List.mem_product.mpr ⟨hrecord, rule.mem_all⟩, ?_⟩
      exact decide_eq_true (wrongBatch_violates hrecord hrule)
    have hnodup : (wrongBatch.records ×ˢ ProviderQualityRule.open).Nodup :=
      (records_nodup wrongBatch).product (by decide)
    have hle := (List.subperm_of_subset hnodup hsub).length_le
    have hrecords : wrongBatch.records.length = 2001 := length_wrongRecords
    have hrules : ProviderQualityRule.open.length = 5 := rfl
    rw [List.length_product, hrecords, hrules] at hle
    omega
  have hfirst : wrongRecord 0 ∈ wrongBatch.records := mem_wrongRecords.mpr ⟨0, rfl⟩
  refine ⟨wrongBatch_admitted, ⟨wrongRecord 0, hfirst, .identity,
    wrongBatch_violates hfirst (by decide)⟩, ?_⟩
  cases hvalidate : ProviderDataQualityValidator.validate verbatimLibrary wrongBatch strictContext with
  | ok result =>
      have := (qualityValidate_ok.mp hvalidate).1
      omega
  | error e =>
      unfold ProviderDataQualityValidator.validate at hvalidate
      dsimp only at hvalidate
      split_ifs at hvalidate
      rw [Except.error.inj hvalidate]

end StockResearch.LiveEvidence
