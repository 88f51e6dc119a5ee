import StockResearch.Core.Sorting
import StockResearch.ResearchAgent.Packages

/-!
# Sections and status of a package

Sections are a function of the claims up to order: `packageSection_congr`.  So are the lists of
identifiers, and the checksum covers nothing else.

* `packageSection_ids`: a requested section lists exactly its claims.
* `packageStatus_complete`: what `COMPLETE` says of the sections.
* **`package_sections_law`**: one section for each claim, the status, and the order of the inputs.
-/

namespace StockResearch.ResearchAgent

open PyJson PyTime Sorting

variable {requested requested' : List ResearchSection} {claims claims' : List ResearchClaimRecord}
  {evidence evidence' : List ResearchEvidenceRecord} {kind : ResearchSection}

def claimsOf (claims : List ResearchClaimRecord) (kind : ResearchSection) :
    List ResearchClaimRecord :=
  claims.filter fun claim => claimSection claim = kind

@[simp]
lemma mem_claimsOf {claim : ResearchClaimRecord} :
    claim ∈ claimsOf claims kind ↔ claim ∈ claims ∧ claimSection claim = kind := by
  simp [claimsOf]

lemma sortClaims_perm (claims : List ResearchClaimRecord) : (sortClaims claims).Perm claims :=
  List.perm_insertionSort _ _

@[simp]
lemma sortClaims_eq_nil : sortClaims claims = [] ↔ claims = [] := by
  rw [← List.length_eq_zero_iff, (sortClaims_perm claims).length_eq, List.length_eq_zero_iff]

lemma map_id_sortClaims (claims : List ResearchClaimRecord) :
    (sortClaims claims).map (·.id) = (claims.map (·.id)).insertionSort (· ≤ ·) := by
  rw [sortClaims]
  exact List.map_insertionSort (fun a b => a.id ≤ b.id) (· ≤ ·) (·.id) claims
    fun _ _ _ _ => Iff.rfl

/-! ## A section -/

/-- The status of a section depends on which supports occur. -/
lemma sectionStatus_congr (h : ∀ support : Option ClaimSupportStatus,
    support ∈ claims.map (·.supportStatus) ↔ support ∈ claims'.map (·.supportStatus)) :
    sectionStatus claims = sectionStatus claims' := by
  have hall : ∀ p : Option ClaimSupportStatus → Bool,
      (claims.map (·.supportStatus)).all p = (claims'.map (·.supportStatus)).all p := by
    intro p
    rw [Bool.eq_iff_iff, List.all_eq_true, List.all_eq_true]
    exact forall_congr' fun support => by rw [h support]
  simp only [sectionStatus, hall, h]

lemma sectionStatus_pass :
    (sectionStatus claims).1 = .pass ↔ ∀ claim ∈ claims, claim.supportStatus = some .supported := by
  rw [sectionStatus]
  split
  case isTrue hall => simpa using hall
  case isFalse hall =>
    have hnot : ¬ ∀ claim ∈ claims, claim.supportStatus = some .supported := by simpa using hall
    split <;> simp [hnot]

/-- A requested section, by its claims. -/
lemma packageSection_of_mem (h : kind ∈ requested) :
    packageSection requested claims kind =
      if claimsOf claims kind = [] then ⟨kind, .noEvidence, [], []⟩
      else ⟨kind, (sectionStatus (sortClaims (claimsOf claims kind))).1,
        (sortClaims (claimsOf claims kind)).map (·.id),
        (sectionStatus (sortClaims (claimsOf claims kind))).2⟩ := by
  simp only [packageSection, h, not_true_eq_false, if_false, sortClaims_eq_nil]
  rfl

lemma packageSection_of_not_mem (h : kind ∉ requested) :
    packageSection requested claims kind = ⟨kind, .notRequested, [], []⟩ := if_pos h

/-- **A section is the same for every order of the claims.** -/
lemma packageSection_congr (hclaims : claims.Perm claims')
    (hrequested : ∀ kind, kind ∈ requested ↔ kind ∈ requested') :
    packageSection requested claims kind = packageSection requested' claims' kind := by
  have hperm : (claimsOf claims kind).Perm (claimsOf claims' kind) := hclaims.filter _
  have hids : (sortClaims (claimsOf claims kind)).map (·.id) =
      (sortClaims (claimsOf claims' kind)).map (·.id) := by
    rw [map_id_sortClaims, map_id_sortClaims]
    exact insertionSort_congr (hperm.map _)
  have hnil : claimsOf claims kind = [] ↔ claimsOf claims' kind = [] := by
    rw [← List.length_eq_zero_iff, hperm.length_eq, List.length_eq_zero_iff]
  have hstatus : sectionStatus (sortClaims (claimsOf claims kind)) =
      sectionStatus (sortClaims (claimsOf claims' kind)) := by
    refine sectionStatus_congr fun support => List.Perm.mem_iff (List.Perm.map _ ?_)
    exact (sortClaims_perm _).trans (hperm.trans (sortClaims_perm _).symm)
  by_cases hmem : kind ∈ requested
  · rw [packageSection_of_mem hmem, packageSection_of_mem ((hrequested kind).mp hmem)]
    simp only [hnil, hids, hstatus]
  · rw [packageSection_of_not_mem hmem,
      packageSection_of_not_mem fun h => hmem ((hrequested kind).mpr h)]

@[simp]
lemma packageSection_kind : (packageSection requested claims kind).kind = kind := by
  by_cases hmem : kind ∈ requested
  · rw [packageSection_of_mem hmem]
    split <;> rfl
  · rw [packageSection_of_not_mem hmem]

/-- A requested section lists the claims of its kind, and no other section lists anything. -/
lemma packageSection_ids : (packageSection requested claims kind).claimIds.Perm
    (if kind ∈ requested then (claimsOf claims kind).map (·.id) else []) := by
  by_cases hmem : kind ∈ requested
  · rw [packageSection_of_mem hmem, if_pos hmem]
    split
    case isTrue hnil => simp [hnil]
    case isFalse hnil => exact (sortClaims_perm _).map _
  · rw [packageSection_of_not_mem hmem, if_neg hmem]

/-- A requested section passes when it has claims and all of them are supported. -/
lemma packageSection_pass (hmem : kind ∈ requested) :
    (packageSection requested claims kind).status = .pass ↔
      claimsOf claims kind ≠ [] ∧
        ∀ claim ∈ claimsOf claims kind, claim.supportStatus = some .supported := by
  rw [packageSection_of_mem hmem]
  split
  case isTrue hnil => simp [hnil]
  case isFalse hnil =>
    rw [sectionStatus_pass]
    simp only [(sortClaims_perm (claimsOf claims kind)).mem_iff, ne_eq, hnil, not_false_iff,
      true_and]

/-! ## The package -/

lemma nodup_researchSections : researchSections.Nodup := by decide

/-- Every section of the enumeration has one section of the package, in its order. -/
lemma map_kind_sections (requested : List ResearchSection) (claims : List ResearchClaimRecord) :
    (researchSections.map (packageSection requested claims)).map (·.kind) = researchSections := by
  rw [List.map_map]
  exact List.map_id'' (fun kind => packageSection_kind) _

/-- Every requested section has a claim, and all its claims are supported. -/
def AllSupported (requested : List ResearchSection) (claims : List ResearchClaimRecord) : Prop :=
  ∀ kind ∈ requested, claimsOf claims kind ≠ [] ∧
    ∀ claim ∈ claimsOf claims kind, claim.supportStatus = some .supported

/-- **What `COMPLETE` says of the sections.** -/
lemma packageStatus_complete {runFailed : Bool} :
    packageStatus (researchSections.map (packageSection requested claims)) requested runFailed =
        .complete ↔
      runFailed = false ∧ requested ≠ [] ∧ AllSupported requested claims := by
  have hactive : ((researchSections.map (packageSection requested claims)).filter
      (·.kind ∈ requested)).map (·.status) =
        (researchSections.filter (· ∈ requested)).map
          fun kind => (packageSection requested claims kind).status := by
    rw [List.filter_map, List.map_map]
    simp only [Function.comp_def, packageSection_kind]
  have hmem : ∀ kind, kind ∈ researchSections.filter (· ∈ requested) ↔ kind ∈ requested := by
    simp [mem_researchSections]
  have hnil : researchSections.filter (· ∈ requested) ≠ [] ↔ requested ≠ [] := by
    simp only [ne_eq, List.eq_nil_iff_forall_not_mem, hmem]
  have hpass : (∀ kind ∈ researchSections.filter (· ∈ requested),
      (packageSection requested claims kind).status = .pass) ↔ AllSupported requested claims := by
    simp only [hmem]
    exact forall_congr' fun kind => imp_congr_right fun h => packageSection_pass h
  rw [packageStatus, hactive, ← hpass, ← hnil]
  cases runFailed with
  | true => simp
  | false =>
      simp only [Bool.false_eq_true, if_false, true_and, List.all_map, ne_eq, List.map_eq_nil_iff,
        List.all_eq_true, Function.comp_apply, decide_eq_true_eq]
      split
      case isTrue hall => exact iff_of_true rfl hall
      case isFalse hall =>
        refine iff_of_false ?_ hall
        split <;> simp

/-- **The content is the same for every order of the inputs.** -/
lemma packageContent_congr (context : PackageContext) (blockedCapabilities warnings : List String)
    (runFailed : Bool) (hrequested : requested.Perm requested') (hclaims : claims.Perm claims')
    (hevidence : evidence.Perm evidence') :
    packageContent context requested claims evidence blockedCapabilities warnings runFailed =
      packageContent context requested' claims' evidence' blockedCapabilities warnings
        runFailed := by
  have hsections : packageSection requested claims = packageSection requested' claims' := by
    funext kind
    exact packageSection_congr hclaims fun kind => hrequested.mem_iff
  have hstatus : ∀ sections, packageStatus sections requested runFailed =
      packageStatus sections requested' runFailed := by
    intro sections
    simp only [packageStatus, hrequested.mem_iff]
  have hids : ∀ support, claimIdsWith claims support = claimIdsWith claims' support :=
    fun support => insertionSort_congr ((hclaims.filter _).map _)
  simp only [packageContent, hsections, hstatus, hids,
    insertionSort_congr (hevidence.map (·.id)).dedup]

/-- The sections hold each claim of a requested section once, and no other claim. -/
lemma flatMap_claimIds :
    ((researchSections.map (packageSection requested claims)).flatMap (·.claimIds)).Perm
      ((claims.filter (claimSection · ∈ requested)).map (·.id)) := by
  have hsection : ∀ kind ∈ researchSections, (packageSection requested claims kind).claimIds.Perm
      ((claimsOf (claims.filter (claimSection · ∈ requested)) kind).map (·.id)) := by
    intro kind _
    refine packageSection_ids.trans (List.Perm.of_eq ?_)
    split
    case isTrue hmem =>
      rw [claimsOf, claimsOf, List.filter_filter]
      refine congrArg _ (List.filter_congr fun claim _ => ?_)
      by_cases h : claimSection claim = kind <;> simp [h, hmem]
    case isFalse hmem =>
      symm
      rw [List.map_eq_nil_iff, List.eq_nil_iff_forall_not_mem]
      rintro claim hclaim
      simp only [mem_claimsOf, List.mem_filter, decide_eq_true_eq] at hclaim
      exact hmem (hclaim.2 ▸ hclaim.1.2)
  calc ((researchSections.map (packageSection requested claims)).flatMap (·.claimIds))
      = researchSections.flatMap fun kind => (packageSection requested claims kind).claimIds :=
        List.flatMap_map _ _ _
    _ |>.Perm (researchSections.flatMap fun kind =>
        (claimsOf (claims.filter (claimSection · ∈ requested)) kind).map (·.id)) :=
      List.Perm.flatMap_left _ hsection
    _ |>.Perm ((claims.filter (claimSection · ∈ requested)).map (·.id)) := by
      rw [← List.map_flatMap]
      exact (flatMap_filter_perm claimSection nodup_researchSections
        fun claim _ => mem_researchSections _).map _

/-- With distinct identifiers a claim of a requested section stands in one section. -/
lemma existsUnique_section (hnodup : (claims.map (·.id)).Nodup) {claim : ResearchClaimRecord}
    (hclaim : claim ∈ claims) (hrequested : claimSection claim ∈ requested) :
    ∃! s, s ∈ researchSections.map (packageSection requested claims) ∧
      claim.id ∈ s.claimIds := by
  refine ⟨packageSection requested claims (claimSection claim),
    ⟨List.mem_map_of_mem (mem_researchSections _), ?_⟩, ?_⟩
  · rw [packageSection_ids.mem_iff, if_pos hrequested]
    exact List.mem_map_of_mem (by simpa using hclaim)
  · rintro s ⟨hs, hid⟩
    obtain ⟨kind, -, rfl⟩ := List.mem_map.mp hs
    rw [packageSection_ids.mem_iff] at hid
    split at hid
    · obtain ⟨other, hother, hsame⟩ := List.mem_map.mp hid
      rw [mem_claimsOf] at hother
      rw [← hother.2, List.inj_on_of_nodup_map hnodup hother.1 hclaim hsame]
    · cases hid

/-- **Sections, status and checksum of a package.**  When the assembler returns a package, it has
every section of the enumeration once; a requested section lists its claims, the other sections
nothing, so that every claim of a requested section stands in one section and no other claim in
any; and the package is `COMPLETE` exactly when the run did not fail, a section was requested and
every requested section has claims, all of them supported.  The order of the claims, the evidence
and the requested sections changes nothing. -/
theorem package_sections_law (hash : IdealHash) (packageId : Uuid) (context : PackageContext)
    (requested : List ResearchSection) (claims : List ResearchClaimRecord)
    (evidence : List ResearchEvidenceRecord) (blockedCapabilities warnings : List String)
    (runFailed : Bool) (createdAt : Instant) :
    (∀ package, assemble hash packageId context requested claims evidence blockedCapabilities
        warnings runFailed createdAt = .ok package →
      package.content.sections.map (·.kind) = researchSections ∧
      (∀ s ∈ package.content.sections, s.claimIds.Perm
        (if s.kind ∈ requested then (claimsOf claims s.kind).map (·.id) else [])) ∧
      (package.content.sections.flatMap (·.claimIds)).Perm
        ((claims.filter (claimSection · ∈ requested)).map (·.id)) ∧
      ((claims.map (·.id)).Nodup → ∀ claim ∈ claims, claimSection claim ∈ requested →
        ∃! s, s ∈ package.content.sections ∧ claim.id ∈ s.claimIds) ∧
      (package.content.status = .complete ↔
        runFailed = false ∧ requested ≠ [] ∧ AllSupported requested claims)) ∧
    ∀ requested' claims' evidence', requested.Perm requested' → claims.Perm claims' →
      evidence.Perm evidence' →
      assemble hash packageId context requested' claims' evidence' blockedCapabilities warnings
          runFailed createdAt =
        assemble hash packageId context requested claims evidence blockedCapabilities warnings
          runFailed createdAt := by
  constructor
  · intro package hpackage
    obtain ⟨-, rfl⟩ := assemble_ok.mp hpackage
    refine ⟨map_kind_sections requested claims, ?_, flatMap_claimIds, ?_,
      packageStatus_complete⟩
    · intro s hs
      obtain ⟨kind, -, rfl⟩ := List.mem_map.mp hs
      rw [packageSection_kind]
      exact packageSection_ids
    · intro hnodup claim hclaim hrequested
      exact existsUnique_section hnodup hclaim hrequested
  · intro requested' claims' evidence' hrequested hclaims hevidence
    rw [assemble, assemble, packageContent_congr context blockedCapabilities warnings runFailed
      hrequested hclaims hevidence]

/-- The context of a package about one security. -/
def overviewContext : PackageContext where
  runId := 1
  requestId := 2
  securityId := 3
  snapshotId := 4
  researchAsOfTime := yearEnd
  researchType := .companyOverview
  policyVersion := "policy-v1"
  plannerVersion := "planner-v1"
  toolCatalogVersion := "catalog-v1"

/-- A supported claim without a number. -/
def plainClaim (id : Uuid) (claimType : ClaimType) (hplain : claimType.numeric = false) :
    ResearchClaimRecord where
  id
  runId := 1
  claimType
  lifecycleStatus := .validated
  supportStatus := some .supported
  statementCode := "SECURITY_KNOWN"
  value := none
  unit := none
  currencyCode := none
  period := none
  asOfTime := none
  metricBasis := none
  createdAt := yearEnd
  completedAt := some yearEnd
  valid := {
    code := (by decide +kernel : isCode "SECURITY_KNOWN" = true)
    unit_le := by simp
    currency := by simp
    period_le := by simp
    basis_le := by simp
    shape := by simp [hplain]
    candidate := by simp }

/-- What the assembler makes of two claims for two sections. -/
def overviewPackage (claims : List ResearchClaimRecord) : Except String ResearchPackageRecord :=
  assemble default 9 overviewContext [.securityIdentity, .limitations] claims [] [] [] false yearEnd

/-- Two supported claims in two sections make a complete package, whatever their order. -/
theorem overviewPackage_complete :
    overviewPackage [plainClaim 11 .identity rfl, plainClaim 10 .limitation rfl] =
        overviewPackage [plainClaim 10 .limitation rfl, plainClaim 11 .identity rfl] ∧
      ∃ package, overviewPackage [plainClaim 10 .limitation rfl, plainClaim 11 .identity rfl] =
          .ok package ∧
        package.content.status = .complete ∧
        ∃! s, s ∈ package.content.sections ∧ (10 : Uuid) ∈ s.claimIds := by
  obtain ⟨hreturned, horder⟩ := package_sections_law default 9 overviewContext
    [.securityIdentity, .limitations] [plainClaim 10 .limitation rfl, plainClaim 11 .identity rfl]
    [] [] [] false yearEnd
  refine ⟨horder _ _ _ (.refl _) (.swap _ _ _) (.refl _), ?_⟩
  obtain ⟨package, hpackage⟩ : ∃ package, overviewPackage
      [plainClaim 10 .limitation rfl, plainClaim 11 .identity rfl] = .ok package :=
    ⟨_, assemble_ok.mpr ⟨by decide +kernel, rfl⟩⟩
  obtain ⟨-, -, -, hunique, hcomplete⟩ := hreturned package hpackage
  refine ⟨package, hpackage, hcomplete.mpr ⟨rfl, by simp, ?_⟩, ?_⟩
  · rintro kind hkind
    rcases List.mem_pair.mp hkind with rfl | rfl <;> decide +kernel
  · exact hunique (by decide) (plainClaim 10 .limitation rfl) (by simp) (by decide +kernel)

/-- A package for which nothing was requested is not complete. -/
theorem complete_needs_request : ¬ ∀ (hash : IdealHash) (packageId : Uuid)
    (context : PackageContext) (requested : List ResearchSection)
    (claims : List ResearchClaimRecord) (evidence : List ResearchEvidenceRecord)
    (blockedCapabilities warnings : List String) (runFailed : Bool) (createdAt : Instant)
    (package : ResearchPackageRecord),
    assemble hash packageId context requested claims evidence blockedCapabilities warnings
        runFailed createdAt = .ok package →
      (package.content.status = .complete ↔
        runFailed = false ∧ AllSupported requested claims) := by
  intro h
  have hpackage := h default 9 overviewContext [] [] [] [] [] false yearEnd _
    (assemble_ok.mpr ⟨by decide +kernel, rfl⟩)
  have hcomplete := hpackage.mpr ⟨rfl, by simp [AllSupported]⟩
  cases hcomplete

end StockResearch.ResearchAgent
