import StockResearch.Core.Calendar
import StockResearch.Core.Checked
import StockResearch.Core.Transaction
import StockResearch.Core.Uuid
import Mathlib.Data.List.MinMax
import Mathlib.Data.List.Sort
import Mathlib.Data.Prod.Lex

/-!
# Revisions of provider records, and what may be seen as of a time

`ProviderTemporalValidator` decides whether a record may be appended to the history of its source and
whether research as of a given time may use it.

**The chain.**  A record is appended when it is revision 1 of a new source, or one revision past the
latest and superseding it.  `chained_submit` says that this keeps the revisions of every source
`1, …, n` without a gap, and `recorded_prefix` that nothing stored is ever changed.

**Eligibility.**  Only the first warning that applies is looked at.  A record without a publication
time gets `UNKNOWN_PUBLISHED_AT` before its retrieval time is compared with anything, so outside
strict mode it is served as of times at which it had not been retrieved.  `temporalLaw_iff` says that
nothing else is served early.
-/

namespace StockResearch.Providers

open Txn PyTime

inductive ProviderTemporalStatus where
  | eligible | partly | blocked | reused
deriving DecidableEq, Repr

/-- The warning codes of a temporal decision. -/
inductive ProviderTemporalWarning where
  | unknownPublishedAt | sourcePublishedAfterAsOf | retrievedAfterAsOf
deriving DecidableEq, Repr

structure ProviderTemporalRecord where
  providerDefinitionId : Uuid
  providerCapabilityId : Uuid
  sourceIdentity : String
  revision : Nat
  sourceChecksum : String
  rawArtifactId : Uuid
  manifestId : Uuid
  sourcePublishedAt : Option Instant
  retrievedAt : Instant
  supersedesRevision : Option Nat
  isRestatement : Bool
  licensePolicyVersion : String
  identity_ok : 0 < sourceIdentity.length ∧ sourceIdentity.length ≤ 512
  revision_ok : 0 < revision ∧ revision ≤ 1000000
  supersedes_ok : ∀ n ∈ supersedesRevision, 1 ≤ n ∧ n ≤ 999999
deriving DecidableEq

namespace ProviderTemporalRecord

def sourceKey (record : ProviderTemporalRecord) : Uuid × Uuid × String :=
  (record.providerDefinitionId, record.providerCapabilityId, record.sourceIdentity)

def revisionKey (record : ProviderTemporalRecord) : (Uuid × Uuid × String) × Nat :=
  (record.sourceKey, record.revision)

/-- What a history is sorted by. -/
def orderKey (record : ProviderTemporalRecord) : String ×ₗ String ×ₗ String ×ₗ Nat :=
  toLex (record.providerDefinitionId.str, toLex (record.providerCapabilityId.str,
    toLex (record.sourceIdentity, record.revision)))

def temporalWarnings (record : ProviderTemporalRecord) (asOf : Instant) :
    List ProviderTemporalWarning :=
  match record.sourcePublishedAt with
  | none => [.unknownPublishedAt]
  | some published =>
      if asOf < published then [.sourcePublishedAfterAsOf]
      else if asOf < record.retrievedAt then [.retrievedAfterAsOf]
      else []

def temporalStatus (record : ProviderTemporalRecord) (asOf : Instant) (strict : Bool) :
    ProviderTemporalStatus × Bool × List ProviderTemporalWarning :=
  let warnings := record.temporalWarnings asOf
  if warnings = [.sourcePublishedAfterAsOf] ∨ warnings = [.retrievedAfterAsOf] then
    (.blocked, false, warnings)
  else if warnings = [.unknownPublishedAt] then
    if strict then (.blocked, false, warnings) else (.partly, true, warnings)
  else (.eligible, true, [])

def isTemporallyEligible (record : ProviderTemporalRecord) (asOf : Instant) (strict : Bool) :
    Bool :=
  (record.temporalStatus asOf strict).2.1

/-- A record without a publication time is eligible outside strict mode, and any other one when it
was published and retrieved in time. -/
lemma isTemporallyEligible_iff (record : ProviderTemporalRecord) (asOf : Instant) (strict : Bool) :
    record.isTemporallyEligible asOf strict = true ↔
      (record.sourcePublishedAt = none ∧ strict = false) ∨
      ∃ published, record.sourcePublishedAt = some published ∧ ¬ asOf < published ∧
        ¬ asOf < record.retrievedAt := by
  cases hpublished : record.sourcePublishedAt with
  | none => cases strict <;> simp [isTemporallyEligible, temporalStatus, temporalWarnings, hpublished]
  | some published =>
      by_cases hearly : asOf < published
      · simp [isTemporallyEligible, temporalStatus, temporalWarnings, hpublished, hearly]
      · by_cases hretrieved : asOf < record.retrievedAt
        · simp [isTemporallyEligible, temporalStatus, temporalWarnings, hpublished, hearly,
            hretrieved]
        · refine iff_of_true ?_ (Or.inr ⟨published, rfl, hearly, hretrieved⟩)
          simp [isTemporallyEligible, temporalStatus, temporalWarnings, hpublished, hearly,
            hretrieved]

end ProviderTemporalRecord

structure ProviderTemporalDecision where
  status : ProviderTemporalStatus
  eligible : Bool
  warningCodes : List ProviderTemporalWarning
  record : ProviderTemporalRecord
  appendRequired : Bool
  preservedHistory : List ProviderTemporalRecord

/-- A history in order, with one record for each revision of a source. -/
structure ProviderTemporalValidator where
  history : List ProviderTemporalRecord
  unique : (history.map (·.revisionKey)).Nodup

/-- The history of one source. -/
def related (history : List ProviderTemporalRecord) (key : Uuid × Uuid × String) :
    List ProviderTemporalRecord :=
  history.filter fun item => item.sourceKey = key

namespace ProviderTemporalValidator

/-- `ProviderTemporalValidator(history)` -/
def create (history : List ProviderTemporalRecord) : Except String ProviderTemporalValidator :=
  let ordered := history.insertionSort fun a b => a.orderKey ≤ b.orderKey
  if h : (ordered.map (·.revisionKey)).Nodup then .ok ⟨ordered, h⟩
  else .error "PROVIDER_REVISION_HISTORY_DUPLICATE"

def validateAppend (record : ProviderTemporalRecord) (related : List ProviderTemporalRecord) :
    Except String Unit :=
  match related.argmax (·.revision) with
  | none => Checked.check (record.revision ≠ 1 ∨ record.supersedesRevision ≠ none)
      "PROVIDER_REVISION_APPEND_INVALID"
  | some previous =>
      Checked.check (record.revision ≠ previous.revision + 1 ∨
          record.supersedesRevision ≠ some previous.revision ∨
          record.sourceChecksum = previous.sourceChecksum ∨
          record.rawArtifactId = previous.rawArtifactId ∨
          record.manifestId = previous.manifestId)
        "PROVIDER_REVISION_APPEND_INVALID"

variable (validator : ProviderTemporalValidator)

def validate (record : ProviderTemporalRecord) (asOf : Instant) (strict : Bool) :
    Except String ProviderTemporalDecision :=
  match validator.history.find? fun item => item.revisionKey = record.revisionKey with
  | some existing =>
      if existing ≠ record then .error "PROVIDER_REVISION_OVERWRITE_FORBIDDEN"
      else .ok {
        status := .reused
        eligible := record.isTemporallyEligible asOf strict
        warningCodes := record.temporalWarnings asOf
        record := existing
        appendRequired := false
        preservedHistory := validator.history }
  | none => do
      validateAppend record (related validator.history record.sourceKey)
      let (status, eligible, warnings) := record.temporalStatus asOf strict
      return {
        status := status
        eligible := eligible
        warningCodes := warnings
        record := record
        appendRequired := true
        preservedHistory := validator.history }

def eligibleHistory (asOf : Instant) (strict : Bool) : List ProviderTemporalRecord :=
  validator.history.filter fun record => record.isTemporallyEligible asOf strict

end ProviderTemporalValidator

/-! ## Histories that grow by appending -/

/-- A record that is handed to `validate`, with the time and the mode of the research. -/
structure Submission where
  record : ProviderTemporalRecord
  asOf : Instant
  strict : Bool

/-- Validate a record against the history, and append it when that is required. -/
def submit (history : List ProviderTemporalRecord) (s : Submission) :
    Except String ProviderTemporalDecision × List ProviderTemporalRecord :=
  match ProviderTemporalValidator.create history >>= fun v => v.validate s.record s.asOf s.strict with
  | .error e => (.error e, history)
  | .ok decision =>
      (.ok decision, if decision.appendRequired then history ++ [s.record] else history)

/-- The history that a run of submissions builds. -/
def recorded (submissions : List Submission) : List ProviderTemporalRecord :=
  finish submit [] submissions

/-- The law of revision histories, for the history of a run, a mode and a time. -/
structure TemporalLaw (submissions : List Submission) (strict : Bool) (asOf : Instant) : Prop where
  /-- The revisions of every source are `1, …, n`, in this order. -/
  revisions : ∀ key, (related (recorded submissions) key).map (·.revision) =
    List.range' 1 (related (recorded submissions) key).length
  /-- Every revision supersedes the one before it. -/
  supersedes : ∀ record ∈ recorded submissions, record.supersedesRevision =
    if record.revision = 1 then none else some (record.revision - 1)
  /-- What was stored at any point of the run is still there, unchanged. -/
  kept : ∀ earlier, earlier <+: submissions → recorded earlier <+: recorded submissions
  /-- The history can be served. -/
  served : ∃ validator, ProviderTemporalValidator.create (recorded submissions) = .ok validator
  /-- Nothing published or retrieved later is served. -/
  timely : ∀ validator, ProviderTemporalValidator.create (recorded submissions) = .ok validator →
    ∀ record ∈ validator.eligibleHistory asOf strict,
      (∀ published ∈ record.sourcePublishedAt, ¬ asOf < published) ∧ ¬ asOf < record.retrievedAt
  /-- As of a later time nothing is lost. -/
  monotone : ∀ validator, ProviderTemporalValidator.create (recorded submissions) = .ok validator →
    ∀ later, ¬ later < asOf →
      (validator.eligibleHistory asOf strict).Sublist (validator.eligibleHistory later strict)

/-! ## What one submission can do -/

namespace ProviderTemporalValidator

lemma perm_of_create {history : List ProviderTemporalRecord}
    {validator : ProviderTemporalValidator} (h : create history = .ok validator) :
    validator.history.Perm history := by
  simp only [create] at h
  split_ifs at h
  cases h
  exact List.perm_insertionSort _ _

lemma create_ok {history : List ProviderTemporalRecord}
    (h : (history.map (·.revisionKey)).Nodup) : ∃ validator, create history = .ok validator := by
  have hordered : ((history.insertionSort fun a b => a.orderKey ≤ b.orderKey).map
      (·.revisionKey)).Nodup :=
    ((List.perm_insertionSort _ _).map _).nodup_iff.mpr h
  exact ⟨⟨_, hordered⟩, dif_pos hordered⟩

/-- What an append has checked: a first revision, or the next after the latest. -/
lemma validateAppend_ok {record : ProviderTemporalRecord} {history : List ProviderTemporalRecord}
    (h : validateAppend record history = .ok ()) :
    (history = [] ∧ record.revision = 1 ∧ record.supersedesRevision = none) ∨
    ∃ previous ∈ history, (∀ item ∈ history, item.revision ≤ previous.revision) ∧
      record.revision = previous.revision + 1 ∧
      record.supersedesRevision = some previous.revision := by
  simp only [validateAppend] at h
  split at h
  · next hnone =>
      left
      rw [Checked.check_ok] at h
      push Not at h
      exact ⟨List.argmax_eq_none.mp hnone, h⟩
  · next previous hprevious =>
      right
      rw [Checked.check_ok] at h
      push Not at h
      exact ⟨previous, List.argmax_mem hprevious, fun item hitem =>
        List.le_of_mem_argmax hitem hprevious, h.1, h.2.1⟩

/-- An append is required of a record whose revision is new. -/
lemma validate_appendRequired {validator : ProviderTemporalValidator}
    {record : ProviderTemporalRecord} {asOf : Instant} {strict : Bool}
    {decision : ProviderTemporalDecision} (h : validator.validate record asOf strict = .ok decision)
    (happend : decision.appendRequired = true) :
    (∀ item ∈ validator.history, item.revisionKey ≠ record.revisionKey) ∧
      validateAppend record (related validator.history record.sourceKey) = .ok () := by
  simp only [validate] at h
  split at h
  · split_ifs at h
    cases h
    cases happend
  · next hnone =>
      rcases Checked.bind_ok.mp h with ⟨⟨⟩, hvalid, -⟩
      refine ⟨?_, hvalid⟩
      intro item hitem
      simpa using List.find?_eq_none.mp hnone item hitem

end ProviderTemporalValidator

open ProviderTemporalValidator in
/-- A submission leaves the history as it is, or appends a record that was validated. -/
lemma submit_cases (history : List ProviderTemporalRecord) (s : Submission) :
    (submit history s).2 = history ∨
    ((submit history s).2 = history ++ [s.record] ∧ ∃ validator, create history = .ok validator ∧
      (∀ item ∈ validator.history, item.revisionKey ≠ s.record.revisionKey) ∧
      validateAppend s.record (related validator.history s.record.sourceKey) = .ok ()) := by
  simp only [submit]
  split
  · exact Or.inl rfl
  · next decision hdecision =>
      rcases Checked.bind_ok.mp hdecision with ⟨validator, hcreate, hvalidate⟩
      by_cases happend : decision.appendRequired = true
      · right
        rw [if_pos happend]
        exact ⟨rfl, validator, hcreate, validate_appendRequired hvalidate happend⟩
      · left
        rw [if_neg happend]

/-- The invariant of a history. -/
structure Chained (history : List ProviderTemporalRecord) : Prop where
  unique : (history.map (·.revisionKey)).Nodup
  revisions : ∀ key, (related history key).map (·.revision) =
    List.range' 1 (related history key).length
  supersedes : ∀ record ∈ history, record.supersedesRevision =
    if record.revision = 1 then none else some (record.revision - 1)

lemma related_append (history : List ProviderTemporalRecord) (record : ProviderTemporalRecord)
    (key : Uuid × Uuid × String) :
    related (history ++ [record]) key =
      related history key ++ if record.sourceKey = key then [record] else [] := by
  simp [related, List.filter_append, List.filter_singleton]

/-- The latest revision of a chained source is the number of its records. -/
lemma Chained.latest {history items : List ProviderTemporalRecord} (h : Chained history)
    {key : Uuid × Uuid × String} (hperm : items.Perm (related history key))
    {previous : ProviderTemporalRecord} (hmem : previous ∈ items)
    (hmax : ∀ item ∈ items, item.revision ≤ previous.revision) :
    previous.revision = (related history key).length := by
  have hrevisions := h.revisions key
  have hin : previous.revision ∈ List.range' 1 (related history key).length := by
    rw [← hrevisions]
    exact List.mem_map_of_mem (hperm.subset hmem)
  have hlast : (related history key).length ∈ (related history key).map (·.revision) := by
    have hpos := List.length_pos_of_mem (hperm.subset hmem)
    rw [hrevisions, List.mem_range'_1]
    omega
  rcases List.mem_map.mp hlast with ⟨item, hitem, hrevision⟩
  have hle := hmax item (hperm.symm.subset hitem)
  rw [List.mem_range'_1] at hin
  omega

/-- A record that passes `_validate_append` is the next in the chain of its source. -/
lemma Chained.next {history : List ProviderTemporalRecord} (h : Chained history)
    {validator : ProviderTemporalValidator}
    (hcreate : ProviderTemporalValidator.create history = .ok validator)
    {record : ProviderTemporalRecord}
    (hvalid : ProviderTemporalValidator.validateAppend record
      (related validator.history record.sourceKey) = .ok ()) :
    record.revision = (related history record.sourceKey).length + 1 ∧
      record.supersedesRevision =
        if record.revision = 1 then none else some (record.revision - 1) := by
  have hperm : (related validator.history record.sourceKey).Perm
      (related history record.sourceKey) :=
    (ProviderTemporalValidator.perm_of_create hcreate).filter _
  rcases ProviderTemporalValidator.validateAppend_ok hvalid with
    ⟨hempty, hrevision, hsupersedes⟩ | ⟨previous, hmem, hmax, hrevision, hsupersedes⟩
  · rw [hempty] at hperm
    rw [List.nil_perm.mp hperm]
    simp [hrevision, hsupersedes]
  · have hlatest := h.latest hperm hmem hmax
    have hone := previous.revision_ok.1
    refine ⟨by omega, ?_⟩
    rw [hsupersedes, if_neg (by omega)]
    simp [hrevision]

/-- **One submission keeps the chain.** -/
lemma chained_submit (history : List ProviderTemporalRecord) (s : Submission)
    (h : Chained history) : Chained (submit history s).2 := by
  rcases submit_cases history s with hsame | ⟨happend, validator, hcreate, hnew, hvalid⟩
  · rw [hsame]
    exact h
  · rw [happend]
    rcases h.next hcreate hvalid with ⟨hrevision, hsupersedes⟩
    refine ⟨?_, ?_, ?_⟩
    · rw [List.map_append, List.map_singleton, List.nodup_append]
      refine ⟨h.unique, List.nodup_singleton _, ?_⟩
      intro key hkey key' hkey'
      rcases List.mem_map.mp hkey with ⟨item, hitem, rfl⟩
      rw [List.mem_singleton.mp hkey']
      exact hnew item ((ProviderTemporalValidator.perm_of_create hcreate).symm.subset hitem)
    · intro key
      rw [related_append]
      by_cases hkey : s.record.sourceKey = key
      · subst hkey
        rw [if_pos rfl, List.map_append, List.length_append, h.revisions, List.map_singleton,
          List.length_singleton, List.range'_concat, hrevision]
        simp [add_comm]
      · simp [hkey, h.revisions]
    · intro record hrecord
      rcases List.mem_append.mp hrecord with hold | hnewest
      · exact h.supersedes record hold
      · rw [List.mem_singleton.mp hnewest]
        exact hsupersedes

lemma chained_recorded (submissions : List Submission) : Chained (recorded submissions) :=
  finish_invariant (C := fun _ _ => True) (fun history s h _ => chained_submit history s h)
    ⟨by simp, by simp [related], by simp⟩ fun _ _ => trivial

lemma prefix_submit (history : List ProviderTemporalRecord) (s : Submission) :
    history <+: (submit history s).2 := by
  rcases submit_cases history s with hsame | ⟨happend, -⟩
  · simp only [hsame, List.prefix_rfl]
  · rw [happend]
    exact List.prefix_append _ _

lemma prefix_finish (history : List ProviderTemporalRecord) (submissions : List Submission) :
    history <+: finish submit history submissions := by
  induction submissions generalizing history with
  | nil => exact List.prefix_rfl
  | cons s submissions ih => exact (prefix_submit history s).trans (ih _)

/-- Nothing that was recorded is ever changed. -/
lemma recorded_prefix {earlier submissions : List Submission} (h : earlier <+: submissions) :
    recorded earlier <+: recorded submissions := by
  rcases h with ⟨rest, rfl⟩
  simp only [recorded, finish, List.foldl_append]
  exact prefix_finish _ rest

/-! ## What is served -/

lemma isTemporallyEligible_mono {record : ProviderTemporalRecord} {asOf later : Instant}
    {strict : Bool} (hle : ¬ later < asOf) (h : record.isTemporallyEligible asOf strict = true) :
    record.isTemporallyEligible later strict = true := by
  rw [ProviderTemporalRecord.isTemporallyEligible_iff] at h ⊢
  rcases h with hunknown | ⟨published, hpublished, hearly, hretrieved⟩
  · exact Or.inl hunknown
  · exact Or.inr ⟨published, hpublished, Instant.not_lt_trans hearly hle,
      Instant.not_lt_trans hretrieved hle⟩

/-- Outside strict mode the law is about the retrieval of every record of unknown publication. -/
lemma TemporalLaw.retrieved {submissions : List Submission} {asOf : Instant}
    (hlaw : TemporalLaw submissions false asOf) {record : ProviderTemporalRecord}
    (hrecord : record ∈ recorded submissions) (hunknown : record.sourcePublishedAt = none) :
    ¬ asOf < record.retrievedAt := by
  rcases hlaw.served with ⟨validator, hcreate⟩
  have heligible : record ∈ validator.eligibleHistory asOf false := by
    refine List.mem_filter.mpr ⟨?_, ?_⟩
    · exact (ProviderTemporalValidator.perm_of_create hcreate).symm.subset hrecord
    · rw [ProviderTemporalRecord.isTemporallyEligible_iff]
      exact Or.inl ⟨hunknown, rfl⟩
  exact (hlaw.timely validator hcreate record heligible).2

/-- **When a revision history shows nothing early.**  For every run of submissions, in both modes
and as of every time, the law holds exactly when, outside strict mode, every record of unknown
publication had been retrieved by then. -/
theorem temporalLaw_iff (submissions : List Submission) (strict : Bool) (asOf : Instant) :
    TemporalLaw submissions strict asOf ↔
      (strict = false → ∀ record ∈ recorded submissions, record.sourcePublishedAt = none →
        ¬ asOf < record.retrievedAt) := by
  constructor
  · rintro hlaw rfl record hrecord hunknown
    exact hlaw.retrieved hrecord hunknown
  · intro hretrieved
    have hchained := chained_recorded submissions
    refine ⟨hchained.revisions, hchained.supersedes, fun earlier => recorded_prefix,
      ProviderTemporalValidator.create_ok hchained.unique, ?_, ?_⟩
    · intro validator hcreate record hrecord
      rcases List.mem_filter.mp hrecord with ⟨hmem, heligible⟩
      have hstored := (ProviderTemporalValidator.perm_of_create hcreate).subset hmem
      rcases (ProviderTemporalRecord.isTemporallyEligible_iff _ _ _).mp heligible with
        ⟨hunknown, hmode⟩ | ⟨published, hpublished, hearly, hlate⟩
      · exact ⟨by simp [hunknown], hretrieved hmode record hstored hunknown⟩
      · refine ⟨?_, hlate⟩
        intro time htime
        rw [hpublished, Option.mem_some_iff] at htime
        exact htime ▸ hearly
    · intro validator hcreate later hle
      exact List.monotone_filter_right _ fun record => isTemporallyEligible_mono hle

/-! ## A record that was not there yet -/

/-- Noon of a day in July 2026. -/
def july (day : Nat) (h : 1 ≤ day ∧ day ≤ 31) : Instant where
  date := ⟨2026, 7, day, validYear_2026, validMonth_7, h⟩
  hour := 12
  minute := 0
  second := 0
  microsecond := 0
  validHour := validHour_12
  validMinute := validMinute_0
  validSecond := validMinute_0
  validMicrosecond := validMicrosecond_0

/-- A first revision of unknown publication, retrieved on the 20th. -/
def undated : ProviderTemporalRecord where
  providerDefinitionId := 1
  providerCapabilityId := 2
  sourceIdentity := "filing"
  revision := 1
  sourceChecksum := "a"
  rawArtifactId := 3
  manifestId := 4
  sourcePublishedAt := none
  retrievedAt := july 20 (by decide)
  supersedesRevision := none
  isRestatement := false
  licensePolicyVersion := "1.0.0"
  identity_ok := by decide
  revision_ok := by decide
  supersedes_ok := by simp

/-- As of the 10th, outside strict mode, the record is served ten days before its retrieval. -/
theorem not_temporalLaw_undated :
    ¬ TemporalLaw [⟨undated, july 10 (by decide), false⟩] false (july 10 (by decide)) := by
  intro hlaw
  have hrecorded : recorded [⟨undated, july 10 (by decide), false⟩] = [undated] := rfl
  have hmem : undated ∈ recorded [⟨undated, july 10 (by decide), false⟩] := by simp [hrecorded]
  exact hlaw.retrieved hmem rfl (by decide)

end StockResearch.Providers
