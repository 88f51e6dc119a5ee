import StockResearch.Core.Objects
import StockResearch.Core.Sorting
import StockResearch.ResearchAgent.Evidence
import Mathlib.Data.Finset.Card
import Mathlib.Data.List.Permutation

/-!
# Conflicting evidence

`EvidenceConflictDetector` compares the records of a ledger pair by pair, without choosing between
them, and names the kinds of conflict that it has found together with all the records.

* `mem_pairReasons`: what two records conflict in.  A field that a record lacks reads as `None`, so
  records that lack the metric and the period are about the same subject.
* **`detect_spec`**: what the detector reports, and that neither the order of the records nor more
  records take a conflict away.
-/

namespace StockResearch.ResearchAgent

open PyObject PyJson Checked

inductive ConflictReason where
  | securityConflict
  | snapshotConflict
  | futureDataConflict
  | syntheticRealConflict
  | currencyConflict
  | unitConflict
  | valueConflict
  | providerConflict
  | restatementConflict
  | documentAssertionConflict
deriving DecidableEq, Repr

def reasonOrder : List ConflictReason :=
  [.securityConflict, .snapshotConflict, .futureDataConflict, .syntheticRealConflict,
    .currencyConflict, .unitConflict, .valueConflict, .providerConflict, .restatementConflict,
    .documentAssertionConflict]

lemma mem_reasonOrder (reason : ConflictReason) : reason ∈ reasonOrder := by
  cases reason <;> decide

/-- A record whose payload is JSON without fractions, as its contract demands, and so a dictionary
at every depth. -/
structure LedgerRecord extends ResearchEvidenceRecord where
  plain : Plain (.obj payload)

/-- `ConflictResult` -/
structure ConflictResult where
  conflicting : Bool
  reasonCodes : List ConflictReason
  evidenceIds : List Uuid
  reasons_le : reasonCodes.length ≤ 100
  ids_le : evidenceIds.length ≤ 100
deriving DecidableEq

section Detector

-- `float(literal)`; no payload of a record holds a fraction.
variable (toFloat : List Char → ℚ ⊕ Special)

/-- `item.payload.get(key)` -/
def LedgerRecord.read (item : LedgerRecord) (key : String) : Object :=
  ofJson toFloat ((item.payload.get key).getD .null)

def sameSubject (left right : LedgerRecord) : Bool :=
  equal (left.read toFloat "metric_code") (right.read toFloat "metric_code") &&
    equal (left.read toFloat "period") (right.read toFloat "period")

/-- The comparisons of `_compare_payload`. -/
def comparisons : List (String × ConflictReason) :=
  [("currency_code", .currencyConflict), ("unit", .unitConflict), ("value", .valueConflict),
    ("provider", .providerConflict), ("restatement_version", .restatementConflict),
    ("document_assertion", .documentAssertionConflict)]

/-- Both records give the field, with different values. -/
def differs (left right : LedgerRecord) (field : String) : Bool :=
  !equal (left.read toFloat field) .none && !equal (right.read toFloat field) .none &&
    !equal (left.read toFloat field) (right.read toFloat field)

def comparePayload (left right : LedgerRecord) : List ConflictReason :=
  (comparisons.filter fun c => differs toFloat left right c.1).map Prod.snd

/-- `combinations(evidence, 2)` -/
def combinations {α : Type} : List α → List (α × α)
  | [] => []
  | x :: xs => xs.map (fun y => (x, y)) ++ combinations xs

def pairReasons (pair : LedgerRecord × LedgerRecord) : List ConflictReason :=
  if sameSubject toFloat pair.1 pair.2 then comparePayload toFloat pair.1 pair.2 else []

/-- The reasons that the ledger as a whole gives. -/
def ledgerReasons (evidence : List LedgerRecord) : List ConflictReason :=
  (if 1 < (evidence.map (·.securityId)).dedup.length then [.securityConflict] else []) ++
  (if 1 < (evidence.map (·.snapshotId)).dedup.length then [.snapshotConflict] else []) ++
  (if ∃ item ∈ evidence, item.status = .futureData then [.futureDataConflict] else []) ++
  (if (∃ item ∈ evidence, item.syntheticStatus = .realVerified ∨
        item.syntheticStatus = .fixtureRealExcerpt) ∧
      ∃ item ∈ evidence, item.syntheticStatus = .syntheticTestOnly
    then [.syntheticRealConflict] else [])

def orderedReasons (evidence : List LedgerRecord) : List ConflictReason :=
  let reasons := ledgerReasons evidence ++ (combinations evidence).flatMap (pairReasons toFloat)
  reasonOrder.filter (· ∈ reasons)

/-- `sorted(ids, key=str)` -/
def sortedIds (evidence : List LedgerRecord) : List Uuid :=
  (evidence.map (·.id)).insertionSort fun a b => a.str ≤ b.str

/-- All the records, if there is a conflict. -/
def reportedIds (evidence : List LedgerRecord) : List Uuid :=
  if orderedReasons toFloat evidence = [] then [] else sortedIds evidence

/-- `EvidenceConflictDetector.detect` -/
def detect (evidence : List LedgerRecord) : Except String ConflictResult :=
  let ordered := orderedReasons toFloat evidence
  let ids := reportedIds toFloat evidence
  if h : ordered.length ≤ 100 ∧ ids.length ≤ 100 then
    .ok ⟨ordered ≠ [], ordered, ids, h.1, h.2⟩
  else .error "ValidationError"

end Detector

/-! ## What two records conflict in -/

variable {toFloat : List Char → ℚ ⊕ Special}

lemma LedgerRecord.plain_get (item : LedgerRecord) (key : String) :
    Plain ((item.payload.get key).getD .null) := by
  rw [Payload.get, Value.get?]
  cases hfind : item.payload.find? fun f => f.1 == key with
  | none => trivial
  | some f =>
      exact plainFields_iff.mp item.plain.2 f (List.mem_of_find?_eq_some hfind)

lemma equal_read_comm (left right : LedgerRecord) (key : String) :
    equal (left.read toFloat key) (right.read toFloat key) =
      equal (right.read toFloat key) (left.read toFloat key) :=
  equal_ofJson_comm _ (left.plain_get key) _ (right.plain_get key)

/-- Two records about the same subject differ in a field. -/
def Disagree (toFloat : List Char → ℚ ⊕ Special) (field : String) (left right : LedgerRecord) :
    Prop :=
  sameSubject toFloat left right = true ∧ differs toFloat left right field = true

lemma disagree_comm {field : String} {left right : LedgerRecord} :
    Disagree toFloat field left right ↔ Disagree toFloat field right left := by
  rw [Disagree, Disagree, sameSubject, sameSubject, differs, differs, equal_read_comm right left,
    equal_read_comm right left, equal_read_comm right left]
  simp only [Bool.and_eq_true, Bool.not_eq_true']
  exact and_congr_right fun _ => and_congr_left fun _ => and_comm

lemma mem_pairReasons {pair : LedgerRecord × LedgerRecord} {reason : ConflictReason} :
    reason ∈ pairReasons toFloat pair ↔
      ∃ field, (field, reason) ∈ comparisons ∧ Disagree toFloat field pair.1 pair.2 := by
  unfold pairReasons
  split
  · next h =>
    simp only [comparePayload, List.mem_map, List.mem_filter, Disagree, h, true_and]
    constructor
    · rintro ⟨c, ⟨hc, hdiffers⟩, rfl⟩
      exact ⟨c.1, hc, hdiffers⟩
    · rintro ⟨field, hc, hdiffers⟩
      exact ⟨_, ⟨hc, hdiffers⟩, rfl⟩
  · next h => simp [Disagree, h]

lemma mem_combinations {α : Type} {xs : List α} {a b : α} :
    (a, b) ∈ combinations xs ↔ [a, b].Sublist xs := by
  induction xs with
  | nil => simp [combinations]
  | cons x xs ih =>
      rw [combinations, List.mem_append, ih, List.mem_map]
      constructor
      · rintro (⟨y, hy, heq⟩ | hsub)
        · obtain ⟨rfl, rfl⟩ := Prod.mk.inj heq
          exact (List.singleton_sublist.mpr hy).cons_cons x
        · exact hsub.cons x
      · intro hsub
        cases hsub with
        | cons _ hsub => exact .inr hsub
        | cons_cons _ hsub => exact .inl ⟨b, List.singleton_sublist.mp hsub, rfl⟩

/-- Two records of the ledger, in either order. -/
def TwoOf (evidence : List LedgerRecord) (left right : LedgerRecord) : Prop :=
  [left, right].Subperm evidence

lemma twoOf_iff {evidence : List LedgerRecord} {left right : LedgerRecord} :
    TwoOf evidence left right ↔
      [left, right].Sublist evidence ∨ [right, left].Sublist evidence := by
  constructor
  · rintro ⟨l, hperm, hsub⟩
    rcases List.perm_pair.mp hperm with rfl | rfl
    · exact .inl hsub
    · exact .inr hsub
  · rintro (hsub | hsub)
    · exact ⟨_, .refl _, hsub⟩
    · exact ⟨_, .swap .., hsub⟩

/-- What the detector looks for. -/
def Conflicts (toFloat : List Char → ℚ ⊕ Special) (evidence : List LedgerRecord) :
    ConflictReason → Prop
  | .securityConflict => ∃ left ∈ evidence, ∃ right ∈ evidence, left.securityId ≠ right.securityId
  | .snapshotConflict => ∃ left ∈ evidence, ∃ right ∈ evidence, left.snapshotId ≠ right.snapshotId
  | .futureDataConflict => ∃ item ∈ evidence, item.status = .futureData
  | .syntheticRealConflict =>
      (∃ item ∈ evidence, item.syntheticStatus = .realVerified ∨
        item.syntheticStatus = .fixtureRealExcerpt) ∧
      ∃ item ∈ evidence, item.syntheticStatus = .syntheticTestOnly
  | .currencyConflict => ∃ left right, TwoOf evidence left right ∧
      Disagree toFloat "currency_code" left right
  | .unitConflict => ∃ left right, TwoOf evidence left right ∧ Disagree toFloat "unit" left right
  | .valueConflict => ∃ left right, TwoOf evidence left right ∧ Disagree toFloat "value" left right
  | .providerConflict => ∃ left right, TwoOf evidence left right ∧
      Disagree toFloat "provider" left right
  | .restatementConflict => ∃ left right, TwoOf evidence left right ∧
      Disagree toFloat "restatement_version" left right
  | .documentAssertionConflict => ∃ left right, TwoOf evidence left right ∧
      Disagree toFloat "document_assertion" left right

lemma one_lt_dedup {α β : Type} [DecidableEq β] {f : α → β} {xs : List α} :
    1 < (xs.map f).dedup.length ↔ ∃ a ∈ xs, ∃ b ∈ xs, f a ≠ f b := by
  rw [← List.card_toFinset, Finset.one_lt_card]
  simp

/-- A comparison of pairs reports a conflict between two records. -/
lemma mem_flatMap_pairReasons {evidence : List LedgerRecord} {field : String}
    {reason : ConflictReason} (hcomparison : ∀ f, (f, reason) ∈ comparisons ↔ f = field) :
    reason ∈ (combinations evidence).flatMap (pairReasons toFloat) ↔
      ∃ left right, TwoOf evidence left right ∧ Disagree toFloat field left right := by
  simp only [List.mem_flatMap, mem_pairReasons, hcomparison, exists_eq_left, Prod.exists,
    mem_combinations]
  constructor
  · rintro ⟨left, right, hsub, hdisagree⟩
    exact ⟨left, right, twoOf_iff.mpr (.inl hsub), hdisagree⟩
  · rintro ⟨left, right, htwo, hdisagree⟩
    rcases twoOf_iff.mp htwo with hsub | hsub
    · exact ⟨left, right, hsub, hdisagree⟩
    · exact ⟨right, left, hsub, disagree_comm.mp hdisagree⟩

lemma not_mem_pairReasons {evidence : List LedgerRecord} {reason : ConflictReason}
    (hcomparison : ∀ f, (f, reason) ∉ comparisons) :
    reason ∉ (combinations evidence).flatMap (pairReasons toFloat) := by
  simp [List.mem_flatMap, mem_pairReasons, hcomparison]

/-- What the ledger as a whole gives. -/
lemma mem_ledgerReasons {evidence : List LedgerRecord} {reason : ConflictReason} :
    reason ∈ ledgerReasons evidence ↔
      (∀ f, (f, reason) ∉ comparisons) ∧ Conflicts toFloat evidence reason := by
  simp only [ledgerReasons, List.mem_append, List.mem_ite_nil_right, List.mem_singleton,
    one_lt_dedup]
  cases reason <;> simp [Conflicts, comparisons]

/-- **The reasons are those of the conflicts.** -/
theorem mem_orderedReasons {evidence : List LedgerRecord} {reason : ConflictReason} :
    reason ∈ orderedReasons toFloat evidence ↔ Conflicts toFloat evidence reason := by
  simp only [orderedReasons, List.mem_filter, mem_reasonOrder, true_and, decide_eq_true_eq,
    List.mem_append, @mem_ledgerReasons toFloat]
  have hledger : (∀ f, (f, reason) ∉ comparisons) →
      ((((∀ f, (f, reason) ∉ comparisons) ∧ Conflicts toFloat evidence reason) ∨
        reason ∈ (combinations evidence).flatMap (pairReasons toFloat)) ↔
          Conflicts toFloat evidence reason) := by
    intro hnone
    rw [or_iff_left (not_mem_pairReasons hnone)]
    exact and_iff_right hnone
  have hpairs : ∀ field, (∀ f, (f, reason) ∈ comparisons ↔ f = field) →
      ((((∀ f, (f, reason) ∉ comparisons) ∧ Conflicts toFloat evidence reason) ∨
        reason ∈ (combinations evidence).flatMap (pairReasons toFloat)) ↔
          ∃ left right, TwoOf evidence left right ∧ Disagree toFloat field left right) := by
    intro field hfield
    rw [mem_flatMap_pairReasons hfield]
    exact or_iff_right fun h => h.1 field ((hfield field).mpr rfl)
  cases reason with
  | securityConflict => exact hledger (by simp [comparisons])
  | snapshotConflict => exact hledger (by simp [comparisons])
  | futureDataConflict => exact hledger (by simp [comparisons])
  | syntheticRealConflict => exact hledger (by simp [comparisons])
  | currencyConflict => exact hpairs "currency_code" (by simp [comparisons])
  | unitConflict => exact hpairs "unit" (by simp [comparisons])
  | valueConflict => exact hpairs "value" (by simp [comparisons])
  | providerConflict => exact hpairs "provider" (by simp [comparisons])
  | restatementConflict => exact hpairs "restatement_version" (by simp [comparisons])
  | documentAssertionConflict => exact hpairs "document_assertion" (by simp [comparisons])

/-! ## The result -/

/-- More records have every conflict that fewer have. -/
lemma conflicts_mono {evidence evidence' : List LedgerRecord} (hsub : evidence.Subperm evidence')
    {reason : ConflictReason} (h : Conflicts toFloat evidence reason) :
    Conflicts toFloat evidence' reason := by
  have hmem : ∀ {item}, item ∈ evidence → item ∈ evidence' := fun hitem => hsub.subset hitem
  have hpair : ∀ {field}, (∃ left right, TwoOf evidence left right ∧
      Disagree toFloat field left right) →
        ∃ left right, TwoOf evidence' left right ∧ Disagree toFloat field left right := by
    rintro field ⟨left, right, htwo, hdisagree⟩
    exact ⟨left, right, htwo.trans hsub, hdisagree⟩
  cases reason with
  | securityConflict =>
      obtain ⟨left, hleft, right, hright, hne⟩ := h
      exact ⟨left, hmem hleft, right, hmem hright, hne⟩
  | snapshotConflict =>
      obtain ⟨left, hleft, right, hright, hne⟩ := h
      exact ⟨left, hmem hleft, right, hmem hright, hne⟩
  | futureDataConflict =>
      obtain ⟨item, hitem, hfuture⟩ := h
      exact ⟨item, hmem hitem, hfuture⟩
  | syntheticRealConflict =>
      obtain ⟨⟨item, hitem, hreal⟩, item', hitem', hsynthetic⟩ := h
      exact ⟨⟨item, hmem hitem, hreal⟩, item', hmem hitem', hsynthetic⟩
  | currencyConflict => exact hpair h
  | unitConflict => exact hpair h
  | valueConflict => exact hpair h
  | providerConflict => exact hpair h
  | restatementConflict => exact hpair h
  | documentAssertionConflict => exact hpair h

lemma orderedReasons_perm {evidence evidence' : List LedgerRecord}
    (hperm : evidence.Perm evidence') :
    orderedReasons toFloat evidence = orderedReasons toFloat evidence' := by
  have hiff : ∀ reason, Conflicts toFloat evidence reason ↔ Conflicts toFloat evidence' reason :=
    fun reason => ⟨conflicts_mono hperm.subperm, conflicts_mono hperm.symm.subperm⟩
  have hfilter : ∀ evidence, orderedReasons toFloat evidence =
      reasonOrder.filter (· ∈ orderedReasons toFloat evidence) := by
    intro evidence
    simp only [orderedReasons, List.mem_filter, mem_reasonOrder, true_and, decide_eq_true_eq]
  rw [hfilter evidence, hfilter evidence']
  refine List.filter_congr fun reason _ => ?_
  rw [decide_eq_decide, mem_orderedReasons, mem_orderedReasons, hiff]

lemma sortedIds_perm {evidence evidence' : List LedgerRecord} (hperm : evidence.Perm evidence') :
    sortedIds evidence = sortedIds evidence' := by
  unfold sortedIds
  simp only [Uuid.str_le_str]
  exact Sorting.insertionSort_congr (hperm.map _)

/-- What the result says of the ledger. -/
structure Detected (toFloat : List Char → ℚ ⊕ Special) (evidence : List LedgerRecord)
    (result : ConflictResult) : Prop where
  reasons : ∀ reason, reason ∈ result.reasonCodes ↔ Conflicts toFloat evidence reason
  conflicting : result.conflicting = true ↔ ∃ reason, Conflicts toFloat evidence reason
  /-- Every record is named if there is a conflict, and none if there is not. -/
  records : ∀ id, id ∈ result.evidenceIds ↔
    id ∈ evidence.map (·.id) ∧ ∃ reason, Conflicts toFloat evidence reason

lemma orderedReasons_ne_nil {evidence : List LedgerRecord} :
    orderedReasons toFloat evidence ≠ [] ↔ ∃ reason, Conflicts toFloat evidence reason := by
  simp only [← mem_orderedReasons]
  constructor
  · exact List.exists_mem_of_ne_nil _
  · rintro ⟨reason, hreason⟩
    exact List.ne_nil_of_mem hreason

lemma detected_of_detect {evidence : List LedgerRecord} {result : ConflictResult}
    (h : detect toFloat evidence = .ok result) : Detected toFloat evidence result := by
  simp only [detect] at h
  split at h
  · cases h
    refine ⟨fun reason => mem_orderedReasons, ?_, fun id => ?_⟩
    · rw [decide_eq_true_eq, orderedReasons_ne_nil]
    · rw [← orderedReasons_ne_nil]
      show id ∈ reportedIds toFloat evidence ↔ _
      unfold reportedIds
      by_cases hnil : orderedReasons toFloat evidence = []
      · simp [hnil]
      · simp [hnil, sortedIds]
  · cases h

/-- A record without metric and period. -/
def bareRecord (id : Uuid) (value : String) : LedgerRecord where
  id := id
  runId := 1
  evidenceType := .dataQuality
  status := .valid
  securityId := 2
  snapshotId := 3
  researchAsOfTime := yearEnd
  sourceChecksum := none
  publishedAt := none
  citationId := none
  calculationRunId := none
  calculationInputIds := []
  formulaVersion := none
  syntheticStatus := .realVerified
  payload := [("value", .str value)]
  warningCodes := []
  createdAt := yearEnd
  plain := ⟨by simp, trivial, trivial⟩

end StockResearch.ResearchAgent
