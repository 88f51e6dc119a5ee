import StockResearch.Core.Sorting
import StockResearch.ResearchAgent.ClaimLaw
import StockResearch.ResearchAgent.Packages

/-!
# The input of a report

`get_package_bundle` loads a sealed package with the claims, the evidence and the links of its run,
each in the order of their identifiers, and `_validate_input` checks them again before a report is
built: the checksum of the package, its claims, and the links of its claims.

* `validateClaims_ok` and `validateLinks_ok` say what the two checks require.
* `loadBundle` is what the report stage finds after the research stage.
-/

namespace StockResearch.Reports

open PyJson PyTime Checked ResearchAgent

/-- The records loaded for a report, as far as its claims and links are checked. -/
structure PersistedReportInput where
  package : ResearchPackageRecord
  runId : Uuid
  claims : List ResearchClaimRecord
  evidence : List ResearchEvidenceRecord
  links : List ClaimEvidenceLinkRecord

def sortedIds (ids : List Uuid) : List Uuid := ids.dedup.insertionSort (· ≤ ·)

/-- The identifiers in the sections of a package. -/
def sectionClaimIds (content : PackageContent) : List Uuid :=
  content.sections.flatMap (·.claimIds)

/-! ## The checks -/

def validatePackageChecksum (hash : IdealHash) (package : ResearchPackageRecord) :
    Except String Unit :=
  check (hash.checksum package.content.dump ≠ package.checksum) "PACKAGE_CHECKSUM_MISMATCH"

/-- One turn of the loop over the claims. -/
def validateClaim (input : PersistedReportInput) (claim : ResearchClaimRecord) :
    Except String Unit := do
  check (claim.runId ≠ input.runId) "CLAIM_RUN_MISMATCH"
  check (∃ t ∈ claim.asOfTime, input.package.content.context.researchAsOfTime < t) "FUTURE_DATA"

/-- The identifiers of the claims with the given support. -/
def idsWith (claims : List ResearchClaimRecord) (support : ClaimSupportStatus) : List Uuid :=
  (claims.filter (·.supportStatus = some support)).map (·.id)

/-- `set(a) != set(b)` -/
def differ (a b : List Uuid) : Prop := ¬ (a ⊆ b ∧ b ⊆ a)

instance (a b : List Uuid) : Decidable (differ a b) := inferInstanceAs (Decidable (¬ _))

def validateClaims (input : PersistedReportInput) : Except String Unit := do
  let expected := sectionClaimIds input.package.content
  let actual := input.claims.map (·.id)
  check (actual ≠ sortedIds actual) "UNSTABLE_CLAIM_ORDER"
  check (∃ claim ∈ input.claims, claim.lifecycleStatus ≠ .validated) "CLAIM_NOT_VALIDATED"
  check (¬ actual ⊆ expected) "UNUSED_CLAIM"
  check (¬ expected ⊆ actual) "CLAIM_RECORD_MISSING"
  input.claims.forM (validateClaim input)
  check (differ input.package.content.unsupportedClaimIds (idsWith input.claims .unsupported))
    "UNSUPPORTED_CLAIM_SET_MISMATCH"
  check (differ input.package.content.conflictingClaimIds (idsWith input.claims .conflicting))
    "CONFLICTING_CLAIM_SET_MISMATCH"

/-- The claims that must have a link. -/
def requiresEvidence (claim : ResearchClaimRecord) : Bool :=
  claim.supportStatus = some .supported || claim.supportStatus = some .partiallySupported ||
    claim.supportStatus = some .conflicting

/-- One turn of the loop over the links, with the pairs that were seen. -/
def validateLink (input : PersistedReportInput) (seen : List (Uuid × Uuid))
    (link : ClaimEvidenceLinkRecord) : Except String (List (Uuid × Uuid)) := do
  check (link.runId ≠ input.runId) "CLAIM_EVIDENCE_LINK_RUN_MISMATCH"
  check (link.claimId ∉ input.claims.map (·.id) ∨ link.evidenceId ∉ input.evidence.map (·.id))
    "CLAIM_EVIDENCE_LINK_UNREACHABLE"
  check ((link.claimId, link.evidenceId) ∈ seen) "DUPLICATE_CLAIM_EVIDENCE_LINK"
  return seen ++ [(link.claimId, link.evidenceId)]

def validateLinks (input : PersistedReportInput) : Except String Unit := do
  let _ ← input.links.foldlM (validateLink input) []
  check (∃ claim ∈ input.claims, requiresEvidence claim ∧
      claim.id ∉ input.links.map (·.claimId)) "CLAIM_EVIDENCE_LINK_MISSING"

/-- The checks of `_validate_input` that concern the package's checksum, its claims and its links. -/
def validateInput (hash : IdealHash) (input : PersistedReportInput) : Except String Unit := do
  validatePackageChecksum hash input.package
  validateClaims input
  validateLinks input

/-! ## What they require -/

section Checks

variable {input : PersistedReportInput}

/-- What `_validate_claims` requires. -/
structure ClaimsAgree (input : PersistedReportInput) : Prop where
  ordered : input.claims.map (·.id) = sortedIds (input.claims.map (·.id))
  validated : ∀ claim ∈ input.claims, claim.lifecycleStatus = .validated
  used : ∀ claim ∈ input.claims, claim.id ∈ sectionClaimIds input.package.content
  present : sectionClaimIds input.package.content ⊆ input.claims.map (·.id)
  run : ∀ claim ∈ input.claims, claim.runId = input.runId
  asOf : ∀ claim ∈ input.claims, ∀ t ∈ claim.asOfTime,
    t ≤ input.package.content.context.researchAsOfTime
  unsupported : ∀ i, i ∈ input.package.content.unsupportedClaimIds ↔
    i ∈ idsWith input.claims .unsupported
  conflicting : ∀ i, i ∈ input.package.content.conflictingClaimIds ↔
    i ∈ idsWith input.claims .conflicting

lemma not_differ {a b : List Uuid} : ¬ differ a b ↔ ∀ i, i ∈ a ↔ i ∈ b := by
  rw [differ, not_not]
  constructor
  · rintro ⟨hab, hba⟩ i
    exact ⟨fun h => hab h, fun h => hba h⟩
  · intro h
    exact ⟨fun i hi => (h i).mp hi, fun i hi => (h i).mpr hi⟩

lemma validateClaims_ok : validateClaims input = .ok () ↔ ClaimsAgree input := by
  unfold validateClaims
  simp only [unit_bind_ok, check_ok, forM_ok, not_differ]
  constructor
  · rintro ⟨hordered, hvalidated, hused, hpresent, hloop, hunsupported, hconflicting⟩
    have hturn : ∀ claim ∈ input.claims, claim.runId = input.runId ∧
        ∀ t ∈ claim.asOfTime, t ≤ input.package.content.context.researchAsOfTime := by
      intro claim hclaim
      obtain ⟨hrun, hasOf⟩ := check_bind_ok.mp (hloop claim hclaim)
      rw [check_ok] at hasOf
      push Not at hasOf
      exact ⟨not_not.mp hrun, hasOf⟩
    push Not at hvalidated
    refine ⟨not_not.mp hordered, hvalidated, ?_, not_not.mp hpresent, fun c hc => (hturn c hc).1,
      fun c hc => (hturn c hc).2, hunsupported, hconflicting⟩
    intro claim hclaim
    exact not_not.mp hused (List.mem_map_of_mem hclaim)
  · intro h
    refine ⟨not_not.mpr h.ordered, ?_, ?_, not_not.mpr h.present, ?_, h.unsupported, h.conflicting⟩
    · rintro ⟨claim, hclaim, hne⟩
      exact hne (h.validated claim hclaim)
    · rw [not_not]
      rintro i hi
      obtain ⟨claim, hclaim, rfl⟩ := List.mem_map.mp hi
      exact h.used claim hclaim
    · intro claim hclaim
      refine check_bind_ok.mpr ⟨not_not.mpr (h.run claim hclaim), check_ok.mpr ?_⟩
      rintro ⟨t, ht, hlt⟩
      exact absurd hlt (not_lt.mpr (h.asOf claim hclaim t ht))

/-- What `_validate_links` requires. -/
structure LinksAgree (input : PersistedReportInput) : Prop where
  run : ∀ link ∈ input.links, link.runId = input.runId
  claim : ∀ link ∈ input.links, link.claimId ∈ input.claims.map (·.id)
  evidence : ∀ link ∈ input.links, link.evidenceId ∈ input.evidence.map (·.id)
  distinct : (input.links.map fun link => (link.claimId, link.evidenceId)).Nodup
  linked : ∀ claim ∈ input.claims, requiresEvidence claim = true →
    ∃ link ∈ input.links, link.claimId = claim.id

/-- The loop over the links ends with the pairs of all of them. -/
lemma linkLoop_ok {links : List ClaimEvidenceLinkRecord} {seen : List (Uuid × Uuid)} :
    (∃ pairs, links.foldlM (validateLink input) seen = .ok pairs) ↔
      (∀ link ∈ links, link.runId = input.runId ∧ link.claimId ∈ input.claims.map (·.id) ∧
        link.evidenceId ∈ input.evidence.map (·.id)) ∧
      (links.map fun link => (link.claimId, link.evidenceId)).Nodup ∧
      ∀ link ∈ links, (link.claimId, link.evidenceId) ∉ seen := by
  induction links generalizing seen with
  | nil => simp [pure, Except.pure]
  | cons link links ih =>
      have hturn : ∀ next, validateLink input seen link = .ok next ↔
          (link.runId = input.runId ∧ link.claimId ∈ input.claims.map (·.id) ∧
            link.evidenceId ∈ input.evidence.map (·.id)) ∧
          (link.claimId, link.evidenceId) ∉ seen ∧
          next = seen ++ [(link.claimId, link.evidenceId)] := by
        intro next
        unfold validateLink
        rw [check_bind_ok, check_bind_ok, check_bind_ok, not_not, not_or, not_not, not_not]
        constructor
        · rintro ⟨hrun, hreach, hnew, hret⟩
          cases hret
          exact ⟨⟨hrun, hreach⟩, hnew, rfl⟩
        · rintro ⟨⟨hrun, hreach⟩, hnew, rfl⟩
          exact ⟨hrun, hreach, hnew, rfl⟩
      simp only [List.foldlM_cons, bind_ok]
      constructor
      · rintro ⟨pairs, next, hnext, hrest⟩
        obtain ⟨hlink, hnew, rfl⟩ := (hturn next).mp hnext
        obtain ⟨hall, hnodup, hseen⟩ := ih.mp ⟨pairs, hrest⟩
        refine ⟨?_, ?_, ?_⟩
        · rintro l hl
          rcases List.mem_cons.mp hl with rfl | hl
          · exact hlink
          · exact hall l hl
        · rw [List.map_cons, List.nodup_cons]
          refine ⟨fun hmem => ?_, hnodup⟩
          obtain ⟨l, hl, hpair⟩ := List.mem_map.mp hmem
          exact hseen l hl (by simp [hpair])
        · rintro l hl
          rcases List.mem_cons.mp hl with rfl | hl
          · exact hnew
          · exact fun hmem => hseen l hl (List.mem_append_left _ hmem)
      · rintro ⟨hall, hnodup, hseen⟩
        rw [List.map_cons, List.nodup_cons] at hnodup
        have hrest : ∃ pairs, links.foldlM (validateLink input)
            (seen ++ [(link.claimId, link.evidenceId)]) = .ok pairs := by
          refine ih.mpr ⟨fun l hl => hall l (List.mem_cons_of_mem _ hl), hnodup.2, ?_⟩
          intro l hl hmem
          rcases List.mem_append.mp hmem with hmem | hmem
          · exact hseen l (List.mem_cons_of_mem _ hl) hmem
          · refine hnodup.1 (List.mem_map.mpr ⟨l, hl, ?_⟩)
            simpa using hmem
        obtain ⟨pairs, hpairs⟩ := hrest
        exact ⟨pairs, _, (hturn _).mpr ⟨hall link List.mem_cons_self,
          hseen link List.mem_cons_self, rfl⟩, hpairs⟩

lemma validateLinks_ok : validateLinks input = .ok () ↔ LinksAgree input := by
  have hloop : (∃ pairs, input.links.foldlM (validateLink input) [] = .ok pairs) ↔ _ := linkLoop_ok
  unfold validateLinks
  rw [bind_ok]
  constructor
  · rintro ⟨pairs, hpairs, hlinked⟩
    obtain ⟨hall, hnodup, -⟩ := hloop.mp ⟨pairs, hpairs⟩
    rw [check_ok] at hlinked
    push Not at hlinked
    refine ⟨fun l hl => (hall l hl).1, fun l hl => (hall l hl).2.1, fun l hl => (hall l hl).2.2,
      hnodup, ?_⟩
    intro claim hclaim hrequires
    exact List.mem_map.mp (hlinked claim hclaim hrequires)
  · intro h
    obtain ⟨pairs, hpairs⟩ := hloop.mpr ⟨fun l hl => ⟨h.run l hl, h.claim l hl, h.evidence l hl⟩,
      h.distinct, fun _ _ => List.not_mem_nil⟩
    refine ⟨pairs, hpairs, check_ok.mpr ?_⟩
    rintro ⟨claim, hclaim, hrequires, hnot⟩
    exact hnot (List.mem_map.mpr (h.linked claim hclaim hrequires))

end Checks

/-! ## What is loaded -/

/-- `get_package_bundle`: the claims, the evidence and the links of the run of a package. -/
def loadBundle (ledger : Txn.Table ResearchEvidenceRecord) (store : ClaimStore)
    (package : ResearchPackageRecord) : PersistedReportInput :=
  let runId := package.content.context.runId
  { package
    runId
    claims := ((store.claims.select (·.claim.runId = runId)).map (·.claim)).insertionSort
      fun a b => a.id ≤ b.id
    evidence := (ledger.select (·.runId = runId)).insertionSort fun a b => a.id ≤ b.id
    links := (store.links.select (·.runId = runId)).insertionSort fun a b => a.id ≤ b.id }

/-- Sorted by identifiers that differ, a list is in the order that the checks expect. -/
lemma sortedIds_insertionSort {α : Type} {key : α → Uuid} {xs : List α}
    (h : (xs.map key).Nodup) :
    (xs.insertionSort fun a b => key a ≤ key b).map key =
      sortedIds ((xs.insertionSort fun a b => key a ≤ key b).map key) := by
  have hperm := (List.perm_insertionSort (fun a b => key a ≤ key b) xs).map key
  have hnodup : ((xs.insertionSort fun a b => key a ≤ key b).map key).Nodup :=
    hperm.nodup_iff.mpr h
  have hsorted : ((xs.insertionSort fun a b => key a ≤ key b).map key).Pairwise (· ≤ ·) :=
    List.pairwise_map.mpr (List.pairwise_insertionSort (fun a b => key a ≤ key b) xs)
  rw [sortedIds, hnodup.dedup, hsorted.insertionSort_eq]

end StockResearch.Reports
