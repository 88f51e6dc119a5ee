import StockResearch.Reports.InputVerification

/-!
# From the research stage to the report stage

The research stage builds the claims of a run, validates and links them, and seals a package; the
report stage loads all that and checks it by rules of its own.  The two agree on most: the order of
the claims, their life cycle and run, the lists of unsupported and conflicting claims, the reach and
the uniqueness of links, the checksum.

**Where they do not agree.**  A claim in a section that was not requested stands nowhere in the
package, and the report stage finds it unused.  A number that is only partially supported gets no
link, and the report stage wants one.  And nothing in the research stage compares the as-of time of
a number with that of the run.

* `claimsAgree_iff` and `linksAgree_iff`: the checks, for what the research stage leaves behind.
* **`validateInput_iff`**: the report stage accepts exactly the ledgers that are `Reportable`.
* `partial_claim_rejected`: a metric whose basis is not the version of its formula.
-/

namespace StockResearch.Reports

open PyJson PyTime Checked ResearchAgent

/-- The research stage from the ledger on, and what the report stage loads of it. -/
def researchStage (hash : IdealHash) (parsers : Parsers) (supply : Supply)
    (ledger : Txn.Table ResearchEvidenceRecord) (store : ClaimStore) (mode : ResearchMode)
    (context : PackageContext) (requested : List ResearchSection) (packageId : Uuid)
    (blockedCapabilities warnings : List String) (runFailed : Bool) (createdAt : Instant) :
    Except String PersistedReportInput := do
  let evidence := listEvidence ledger context.runId
  let (claims, store) ← buildAndValidate hash parsers supply context.runId mode evidence store
  let package ← assemble hash packageId context requested claims evidence blockedCapabilities
    warnings runFailed createdAt
  return loadBundle ledger store package

/-! ## What a ledger must be like -/

def disclosureSection (code : String) : ResearchSection :=
  if "CATALYST_".toList.isPrefixOf code.toList then .catalystEvidence
  else if "RISK_".toList.isPrefixOf code.toList then .riskEvidence
  else .documentEvidence

/-- The section that the claim of a record goes to, if a claim is built from it. -/
def claimedSection (parsers : Parsers) (mode : ResearchMode) (item : ResearchEvidenceRecord) :
    Option ResearchSection :=
  if item.evidenceType = .blockedCapability then some .limitations
  else if item.status ≠ .valid then none
  else if item.syntheticStatus = .unknown ∨
      (item.syntheticStatus = .syntheticTestOnly ∧ mode ≠ .syntheticTestOnly) then none
  else match item.evidenceType with
    | .securityMaster => if namesIdentity item.payload then some .securityIdentity else none
    | .dataQuality => some .dataQuality
    | .derivedMetric | .structuredFact =>
        if (numericPayload parsers item.payload).isSome then some .financialHealth
        else some .limitations
    | .documentCitation => (item.payload.text "disclosure_code").map disclosureSection
    | .corporateAction => (item.payload.text "action_code").map fun _ => .corporateActions
    | _ => none

/-- The lineage of a metric is complete, and its basis is the version of its formula. -/
def LineageComplete (item : ResearchEvidenceRecord) : Prop :=
  item.calculationRunId ≠ none ∧ item.calculationInputIds ≠ [] ∧
    item.formulaVersion ≠ none ∧ item.formulaVersion = item.payload.text "metric_basis"

/-- What the report stage needs of a record: the section of its claim was requested, and if the claim
states a number, the number is not of a later time, and a metric has its lineage. -/
structure Reportable (parsers : Parsers) (mode : ResearchMode) (requested : List ResearchSection)
    (researchAsOfTime : Instant) (item : ResearchEvidenceRecord) : Prop where
  requested : ∀ kind ∈ claimedSection parsers mode item, kind ∈ requested
  asOf : claimedSection parsers mode item = some .financialHealth →
    ∀ n ∈ numericPayload parsers item.payload, ∀ t, n.asOf = .aware t true → t ≤ researchAsOfTime
  lineage : claimedSection parsers mode item = some .financialHealth →
    item.evidenceType = .derivedMetric → LineageComplete item

/-! ## The claim of a record -/

section Claim

variable {parsers : Parsers} {supply : Supply} {mode : ResearchMode}
  {item : ResearchEvidenceRecord} {proposal : ResearchClaimProposal}

/-- The number of a proposal, if it states one. -/
def NumberOf (parsers : Parsers) (supply : Supply) (mode : ResearchMode)
    (item : ResearchEvidenceRecord) (proposal : ResearchClaimProposal) : Prop :=
  ∃ n asOf, NumericClaimOf parsers supply item n asOf proposal.claim ∧ item.status = .valid ∧
    (item.evidenceType = .derivedMetric ∨ item.evidenceType = .structuredFact) ∧
    (mode = .realResearch → item.syntheticStatus.synthetic = false)

lemma numeric_of_numericClaim {n : NumericPayload} {asOf : Instant} {claim : ResearchClaimRecord}
    (h : NumericClaimOf parsers supply item n asOf claim) : claim.claimType.numeric = true := by
  rw [h.claimType]
  split_ifs <;> rfl

/-- A proposal states a number, or it is of a kind that states none. -/
lemma propose_number (h : propose parsers supply mode item = .ok (some proposal)) :
    (proposal.claim.claimType.numeric = false ∧ proposal.claim.asOfTime = none) ∨
      NumberOf parsers supply mode item proposal := by
  rcases propose_cases h with ⟨claimType, code, hplain, hbasic⟩ | ⟨n, hn, hvalid, hkind, hreal, hnum⟩
  · have hok := basicProposal_ok hbasic
    exact Or.inl ⟨by rw [hok.2.2.2.1, hplain], hok.2.2.2.2.2⟩
  · obtain ⟨-, asOf, hof⟩ := numericProposal_ok hn hnum
    exact Or.inr ⟨n, asOf, hof, hvalid, hkind, hreal⟩

lemma some_of_map {x : Except String ResearchClaimProposal}
    (h : some <$> x = .ok (some proposal)) : x = .ok proposal := by
  cases x with
  | error e => cases h
  | ok p =>
      cases h
      rfl

lemma none_of_map {x : Except String ResearchClaimProposal} (h : some <$> x = .ok none) : False := by
  cases x <;> cases h

lemma claimSection_of_basic {claimType : ClaimType} {code : String}
    (h : some <$> basicProposal supply item claimType code = .ok (some proposal)) :
    proposal.claim.claimType = claimType ∧ proposal.claim.statementCode = code := by
  have hok := basicProposal_ok (some_of_map h)
  exact ⟨hok.2.2.2.1, hok.2.2.2.2.1⟩

lemma claimSection_of_type (claim : ResearchClaimRecord) :
    (claim.claimType = .identity → claimSection claim = .securityIdentity) ∧
      (claim.claimType = .financialFact → claimSection claim = .financialHealth) ∧
      (claim.claimType = .financialMetric → claimSection claim = .financialHealth) ∧
      (claim.claimType = .corporateAction → claimSection claim = .corporateActions) ∧
      (claim.claimType = .dataQuality → claimSection claim = .dataQuality) ∧
      (claim.claimType = .limitation → claimSection claim = .limitations) := by
  unfold claimSection
  refine ⟨?_, ?_, ?_, ?_, ?_, ?_⟩ <;> intro h <;> rw [h]

lemma claimSection_of_disclosure {claim : ResearchClaimRecord}
    (h : claim.claimType = .documentDisclosure) :
    claimSection claim = disclosureSection claim.statementCode := by
  unfold claimSection
  rw [h]
  rfl

/-- A claim of the section of numbers is a number, and of no other section. -/
lemma financialHealth_iff {claim : ResearchClaimRecord} :
    claimSection claim = .financialHealth ↔
      claim.claimType = .financialFact ∨ claim.claimType = .financialMetric := by
  unfold claimSection
  cases claim.claimType with
  | documentDisclosure =>
      dsimp only
      split_ifs <;> decide
  | _ =>
      dsimp only
      decide

/-- **The section of a record's claim.** -/
lemma claimedSection_of_propose (h : propose parsers supply mode item = .ok (some proposal)) :
    claimedSection parsers mode item = some (claimSection proposal.claim) := by
  obtain ⟨hidentity, hfact, hmetric, haction, hquality, hlimitation⟩ :=
    claimSection_of_type proposal.claim
  unfold propose at h
  unfold claimedSection
  by_cases hblocked : item.evidenceType = .blockedCapability
  · rw [if_pos hblocked] at h ⊢
    obtain ⟨code, -, h⟩ := bind_ok.mp h
    rw [hlimitation (claimSection_of_basic h).1]
  rw [if_neg hblocked] at h ⊢
  by_cases hvalid : item.status ≠ .valid
  · rw [if_pos hvalid] at h
    cases h
  rw [if_neg hvalid] at h ⊢
  by_cases horigin : item.syntheticStatus = .unknown ∨
      (item.syntheticStatus = .syntheticTestOnly ∧ mode ≠ .syntheticTestOnly)
  · rw [if_pos horigin] at h
    cases h
  rw [if_neg horigin] at h ⊢
  have hnumber : item.evidenceType = .derivedMetric ∨ item.evidenceType = .structuredFact →
      (∀ n, numericPayload parsers item.payload = some n →
        some <$> numericProposal supply item n = .ok (some proposal)) →
      (numericPayload parsers item.payload = none →
        some <$> basicProposal supply item .limitation "METRIC_INPUT_INCOMPLETE" =
          .ok (some proposal)) →
      (if (numericPayload parsers item.payload).isSome then some ResearchSection.financialHealth
        else some .limitations) = some (claimSection proposal.claim) := by
    intro hkind hstated hincomplete
    cases hn : numericPayload parsers item.payload with
    | none =>
        rw [hlimitation (claimSection_of_basic (hincomplete hn)).1]
        rfl
    | some n =>
        obtain ⟨-, asOf, hof⟩ := numericProposal_ok hn (some_of_map (hstated n hn))
        have htype := hof.claimType
        rcases hkind with hkind | hkind
        · rw [hkind, if_pos rfl] at htype
          rw [hmetric htype]
          rfl
        · rw [hkind, if_neg (by decide)] at htype
          rw [hfact htype]
          rfl
  cases hkind : item.evidenceType <;> rw [hkind] at h <;> dsimp only at h ⊢
  case securityMaster =>
    by_cases hnames : namesIdentity item.payload = true
    · rw [if_pos hnames] at h ⊢
      rw [hidentity (claimSection_of_basic h).1]
    · rw [if_neg hnames] at h
      cases h
  case dataQuality =>
    obtain ⟨code, -, h⟩ := bind_ok.mp h
    rw [hquality (claimSection_of_basic h).1]
  case derivedMetric =>
    exact hnumber (Or.inl hkind) (fun n hn => by rwa [hn] at h) fun hn => by rwa [hn] at h
  case structuredFact =>
    exact hnumber (Or.inr hkind) (fun n hn => by rwa [hn] at h) fun hn => by rwa [hn] at h
  case documentCitation =>
    cases hcode : item.payload.text "disclosure_code" with
    | none =>
        rw [hcode] at h
        cases h
    | some code =>
        rw [hcode] at h
        obtain ⟨htype, hstatement⟩ := claimSection_of_basic h
        rw [claimSection_of_disclosure htype, hstatement]
        rfl
  case corporateAction =>
    cases hcode : item.payload.text "action_code" with
    | none =>
        rw [hcode] at h
        cases h
    | some code =>
        rw [hcode] at h
        rw [haction (claimSection_of_basic h).1]
        rfl
  case blockedCapability => exact absurd hkind hblocked
  all_goals cases h

lemma claimedSection_of_none (h : propose parsers supply mode item = .ok none) :
    claimedSection parsers mode item = none := by
  unfold propose at h
  unfold claimedSection
  by_cases hblocked : item.evidenceType = .blockedCapability
  · rw [if_pos hblocked] at h
    obtain ⟨code, -, h⟩ := bind_ok.mp h
    exact (none_of_map h).elim
  rw [if_neg hblocked] at h ⊢
  by_cases hvalid : item.status ≠ .valid
  · rw [if_pos hvalid]
  rw [if_neg hvalid] at h ⊢
  by_cases horigin : item.syntheticStatus = .unknown ∨
      (item.syntheticStatus = .syntheticTestOnly ∧ mode ≠ .syntheticTestOnly)
  · rw [if_pos horigin]
  rw [if_neg horigin] at h ⊢
  cases hkind : item.evidenceType <;> rw [hkind] at h <;> dsimp only at h ⊢
  case securityMaster =>
    by_cases hnames : namesIdentity item.payload = true
    · rw [if_pos hnames] at h
      exact (none_of_map h).elim
    · rw [if_neg hnames]
  case dataQuality =>
    obtain ⟨code, -, h⟩ := bind_ok.mp h
    exact (none_of_map h).elim
  case derivedMetric | structuredFact =>
    cases hn : numericPayload parsers item.payload <;> rw [hn] at h <;> exact (none_of_map h).elim
  case documentCitation =>
    cases hcode : item.payload.text "disclosure_code" with
    | none => rfl
    | some code =>
        rw [hcode] at h
        exact (none_of_map h).elim
  case corporateAction =>
    cases hcode : item.payload.text "action_code" with
    | none => rfl
    | some code =>
        rw [hcode] at h
        exact (none_of_map h).elim

/-! ## Its support -/

/-- Only numbers are partially supported. -/
lemma numeric_of_partly {realResearch : Bool} {claim : ResearchClaimRecord}
    {evidence : List ResearchEvidenceRecord}
    (h : (supportOf parsers realResearch claim evidence).1 = .partiallySupported) :
    claim.claimType.numeric = true := by
  cases htype : claim.claimType with
  | financialFact | financialMetric | valuationMetric => rfl
  | identity | dataQuality | limitation | corporateAction | documentDisclosure =>
      unfold supportOf at h
      simp only [htype] at h
      split_ifs at h

/-- The validator compares a metric with its own payload: all that can be missing is its lineage. -/
lemma metricMatches_iff {n : NumericPayload} {asOf : Instant} {claim : ResearchClaimRecord}
    (hof : NumericClaimOf parsers supply item n asOf claim)
    (hkind : item.evidenceType = .derivedMetric ∨ item.evidenceType = .structuredFact) :
    metricMatchesClaim parsers claim item = true ↔
      (item.evidenceType = .derivedMetric → LineageComplete item) := by
  obtain ⟨rawValue, rawAsOf, hvalue, hparsed, hasOf, htime, hunit, hperiod, hbasis, hcode⟩ :=
    numericPayload_eq_some hof.parsed
  rw [hof.asOf_utc] at htime
  have hsame : (claim.value.any n.value.equal && claim.asOfTime = some asOf &&
      claim.unit.any (item.payload.holds "unit") && claim.period.any (item.payload.holds "period") &&
      claim.metricBasis.any (item.payload.holds "metric_basis")) = true := by
    simp [hof.value, hof.asOfTime, hof.unit, hof.period, hof.basis, Payload.holds, hunit, hperiod,
      hbasis]
  unfold metricMatchesClaim
  rw [if_neg (by tauto)]
  simp only [hvalue, hasOf, hparsed, htime, hsame, Bool.true_and]
  rcases hkind with hderived | hfact
  · have htype : claim.claimType = .financialMetric := by rw [hof.claimType, if_pos hderived]
    simp only [htype, hderived, true_or, true_and, forall_const, LineageComplete, hbasis, hof.basis]
    split_ifs with hmissing
    · constructor
      · rintro ⟨⟩
      · rintro ⟨hrun, hinputs, hversion, -⟩
        rcases hmissing with h | h | h
        · exact absurd h hrun
        · exact absurd h hinputs
        · exact absurd h hversion
    · push Not at hmissing
      simp [hmissing]
  · have htype : claim.claimType = .financialFact := by
      rw [hof.claimType, if_neg (by rw [hfact]; decide)]
    rw [if_neg (by simp [htype])]
    simp [htype, hfact]

/-- **A number is partially supported exactly if it is a metric without its lineage.** -/
lemma supportOf_number (h : NumberOf parsers supply mode item proposal) :
    (supportOf parsers (mode = .realResearch) proposal.claim [item]).1 = .partiallySupported ↔
      item.evidenceType = .derivedMetric ∧ ¬ LineageComplete item := by
  obtain ⟨n, asOf, hof, hvalid, hkind, hreal⟩ := h
  have hmatch := metricMatches_iff hof hkind
  have hsupport : supportOf parsers (mode = .realResearch) proposal.claim [item] =
      if metricMatchesClaim parsers proposal.claim item then (.supported, .primary)
      else (.partiallySupported, .context) := by
    have hblocked : item.evidenceType ≠ .blockedCapability := by
      rcases hkind with h | h <;> rw [h] <;> decide
    have hsynthetic : (decide (mode = .realResearch) &&
        [item].any (·.syntheticStatus.synthetic)) = false := by
      by_cases hmode : mode = .realResearch
      · simp [hreal hmode]
      · simp [hmode]
    have hnumeric := numeric_of_numericClaim hof
    unfold supportOf
    simp only [hsynthetic]
    simp only [List.any_cons, List.any_nil, hvalid, hblocked, Bool.or_false]
    cases htype : proposal.claim.claimType <;> rw [htype] at hnumeric <;> cases hnumeric <;> simp
  rw [hsupport]
  split_ifs with hcase
  · have := hmatch.mp hcase
    simp only [false_iff]
    tauto
  · have hnot := hmatch.not.mp hcase
    simp only [true_iff]
    tauto

/-- The links of a proposal: one to its record, if the record can be linked. -/
lemma settledLinks_eq {realResearch : Bool} {evidence : List ResearchEvidenceRecord}
    (hselected : selectedEvidence proposal evidence = [item]) :
    settledLinks parsers supply realResearch evidence proposal =
      if linkable item (supportOf parsers realResearch proposal.claim [item]).1
          proposal.claim.claimType then
        [⟨supply.linkId item.id, proposal.claim.runId, proposal.claim.id, item.id,
          (supportOf parsers realResearch proposal.claim [item]).2,
          supply.completedAt proposal.claim.id⟩]
      else [] := by
  unfold settledLinks ResearchAgent.validateClaim
  simp only [hselected, List.filter_cons, List.filter_nil]
  split_ifs <;> rfl

lemma settled_support {realResearch : Bool} {evidence : List ResearchEvidenceRecord}
    (hselected : selectedEvidence proposal evidence = [item]) :
    (settled parsers supply realResearch evidence proposal).supportStatus =
      some (supportOf parsers realResearch proposal.claim [item]).1 := by
  simp [settled, ResearchAgent.validateClaim, hselected, ResearchClaimRecord.complete]

/-- A claim that must have a link gets one, unless it is partially supported. -/
lemma linkable_of_requires {realResearch : Bool}
    (h : (supportOf parsers realResearch proposal.claim [item]).1 = .supported ∨
      (supportOf parsers realResearch proposal.claim [item]).1 = .conflicting) :
    linkable item (supportOf parsers realResearch proposal.claim [item]).1
      proposal.claim.claimType = true := by
  rcases h with hsupported | hconflicting
  · simp [linkable, hsupported, (supportOf_supported hsupported).1]
  · simp [linkable, hconflicting]

lemma not_linkable_of_partly {realResearch : Bool}
    (h : (supportOf parsers realResearch proposal.claim [item]).1 = .partiallySupported) :
    linkable item (supportOf parsers realResearch proposal.claim [item]).1
      proposal.claim.claimType = false := by
  have hnumeric := numeric_of_partly h
  rw [h]
  cases htype : proposal.claim.claimType <;> rw [htype] at hnumeric <;> cases hnumeric <;> rfl

end Claim

/-! ## What the research stage leaves behind -/

/-- The identifiers in the sections of an assembled package: those of the claims whose section was
requested. -/
lemma mem_sectionClaimIds {context : PackageContext} {requested : List ResearchSection}
    {claims : List ResearchClaimRecord} {evidence : List ResearchEvidenceRecord}
    {blockedCapabilities warnings : List String} {runFailed : Bool} {i : Uuid} :
    i ∈ sectionClaimIds (packageContent context requested claims evidence blockedCapabilities
        warnings runFailed) ↔ ∃ claim ∈ claims, claimSection claim ∈ requested ∧ claim.id = i := by
  have hsection : ∀ kind, i ∈ (packageSection requested claims kind).claimIds ↔
      kind ∈ requested ∧ ∃ claim ∈ claims, claimSection claim = kind ∧ claim.id = i := by
    intro kind
    unfold packageSection
    by_cases hrequested : kind ∈ requested
    · have hmem : i ∈ (sortClaims (claims.filter fun claim => claimSection claim = kind)).map
          (·.id) ↔ ∃ claim ∈ claims, claimSection claim = kind ∧ claim.id = i := by
        simp [sortClaims, List.mem_insertionSort, and_assoc]
      rw [if_neg (not_not.mpr hrequested), ← hmem]
      simp only [hrequested, true_and]
      split_ifs with hnil
      · rw [hnil]
        rfl
      · rfl
    · rw [if_pos hrequested]
      simp [hrequested]
  simp only [sectionClaimIds, packageContent, List.mem_flatMap, List.mem_map,
    exists_exists_and_eq_and, hsection]
  constructor
  · rintro ⟨kind, -, hrequested, claim, hclaim, rfl, hid⟩
    exact ⟨claim, hclaim, hrequested, hid⟩
  · rintro ⟨claim, hclaim, hrequested, hid⟩
    exact ⟨_, mem_researchSections _, hrequested, claim, hclaim, rfl, hid⟩

section Stage

variable {hash : IdealHash} {parsers : Parsers} {supply : Supply}
  {ledger : Txn.Table ResearchEvidenceRecord} {store : ClaimStore} {mode : ResearchMode}
  {context : PackageContext} {requested : List ResearchSection} {packageId : Uuid}
  {blockedCapabilities warnings : List String} {runFailed : Bool} {createdAt : Instant}
  {input : PersistedReportInput}

/-- Nothing is stored for the run yet. -/
def Fresh (store : ClaimStore) (runId : Uuid) : Prop :=
  (∀ row ∈ store.claims.rows, row.claim.runId ≠ runId) ∧
    ∀ link ∈ store.links.rows, link.runId ≠ runId

/-- What the research stage leaves behind, for the proposals of the ledger. -/
structure Produced (hash : IdealHash) (parsers : Parsers) (supply : Supply)
    (ledger : Txn.Table ResearchEvidenceRecord) (mode : ResearchMode) (context : PackageContext)
    (requested : List ResearchSection) (proposals : List ResearchClaimProposal)
    (input : PersistedReportInput) : Prop where
  runId : input.runId = context.runId
  claims : ∀ claim, claim ∈ input.claims ↔ ∃ proposal ∈ proposals, claim =
    settled parsers supply (mode = .realResearch) (listEvidence ledger context.runId) proposal
  ids : (input.claims.map (·.id)).Nodup
  ordered : input.claims.map (·.id) = sortedIds (input.claims.map (·.id))
  evidence : ∀ item, item ∈ input.evidence ↔ item ∈ listEvidence ledger context.runId
  links : ∀ link, link ∈ input.links ↔ ∃ proposal ∈ proposals, link ∈
    settledLinks parsers supply (mode = .realResearch) (listEvidence ledger context.runId) proposal
  pairs : (input.links.map fun link => (link.claimId, link.evidenceId)).Nodup
  used : ∀ i, i ∈ sectionClaimIds input.package.content ↔
    ∃ claim ∈ input.claims, claimSection claim ∈ requested ∧ claim.id = i
  unsupported : ∀ i, i ∈ input.package.content.unsupportedClaimIds ↔
    i ∈ idsWith input.claims .unsupported
  conflicting : ∀ i, i ∈ input.package.content.conflictingClaimIds ↔
    i ∈ idsWith input.claims .conflicting
  researchAsOfTime : input.package.content.context.researchAsOfTime = context.researchAsOfTime
  checksum : hash.checksum input.package.content.dump = input.package.checksum

/-- The rows of a run, when there were none before. -/
lemma filter_append_fresh {α : Type} {run : α → Uuid} {runId : Uuid} {old new : List α}
    (hold : ∀ a ∈ old, run a ≠ runId) (hnew : ∀ a ∈ new, run a = runId) :
    (old ++ new).filter (fun a => run a = runId) = new := by
  rw [List.filter_append, List.filter_eq_nil_iff.mpr (by simpa using hold),
    List.filter_eq_self.mpr (by simpa using hnew), List.nil_append]

/-- **What the research stage leaves behind.** -/
lemma produced_of_stage (hfresh : Fresh store context.runId)
    (h : researchStage hash parsers supply ledger store mode context requested packageId
      blockedCapabilities warnings runFailed createdAt = .ok input) :
    ∃ proposals, proposeClaims parsers supply mode context.runId
        (listEvidence ledger context.runId) = .ok proposals ∧
      Produced hash parsers supply ledger mode context requested proposals input := by
  obtain ⟨⟨claims, store'⟩, hbuild, h⟩ := bind_ok.mp h
  obtain ⟨package, hpackage, h⟩ := bind_ok.mp h
  cases h
  obtain ⟨-, hpackage⟩ := assemble_ok.mp hpackage
  have hcontent : package.content = packageContent context requested claims
      (listEvidence ledger context.runId) blockedCapabilities warnings runFailed := by
    rw [hpackage]
  have hchecksum : hash.checksum package.content.dump = package.checksum := by
    rw [hpackage]
  have hrunId : package.content.context.runId = context.runId := by
    rw [hcontent]
    rfl
  obtain ⟨proposals, hproposals, hsettled, hrows, hlinks⟩ := buildAndValidate_ok hbuild
  refine ⟨proposals, hproposals, ?_⟩
  have hrun : ∀ proposal ∈ proposals, proposal.claim.runId = context.runId := by
    intro proposal hproposal
    obtain ⟨item, -, hitem, hpropose⟩ := mem_proposeClaims hproposals hproposal
    rw [(propose_names hpropose).2.1, hitem]
  have hclaims : (store'.claims.select (·.claim.runId = context.runId)).map (·.claim) = claims := by
    have hmap : (store'.claims.select (·.claim.runId = context.runId)).map (·.claim) =
        (store'.claims.rows.map (·.claim)).filter (fun c => c.runId = context.runId) := by
      rw [List.filter_map]
      rfl
    rw [hmap, hrows]
    refine filter_append_fresh ?_ ?_
    · rintro claim hclaim
      obtain ⟨row, hrow, rfl⟩ := List.mem_map.mp hclaim
      exact hfresh.1 row hrow
    · rintro claim hclaim
      rw [hsettled] at hclaim
      obtain ⟨proposal, hproposal, rfl⟩ := List.mem_map.mp hclaim
      exact hrun proposal hproposal
  have hlinkRows : store'.links.select (·.runId = context.runId) =
      proposals.flatMap (settledLinks parsers supply (mode = .realResearch)
        (listEvidence ledger context.runId)) := by
    rw [Txn.Table.select, hlinks]
    refine filter_append_fresh hfresh.2 ?_
    intro link hlink
    obtain ⟨proposal, hproposal, hlink⟩ := List.mem_flatMap.mp hlink
    unfold settledLinks ResearchAgent.validateClaim at hlink
    obtain ⟨item, -, rfl⟩ := List.mem_map.mp hlink
    exact hrun proposal hproposal
  have hids : (claims.map (·.id)).Nodup := by
    rw [← hclaims, List.map_map]
    refine List.Nodup.sublist (List.filter_sublist.map _) (List.pairwise_map.mpr ?_)
    exact store'.claims.keyed.imp fun hclash hid => hclash (Or.inl hid)
  have hloaded : (loadBundle ledger store' package).claims =
      claims.insertionSort fun a b => a.id ≤ b.id := by
    rw [loadBundle, hrunId, hclaims]
  have hmem : ∀ claim, claim ∈ (loadBundle ledger store' package).claims ↔ claim ∈ claims := by
    intro claim
    rw [hloaded, List.mem_insertionSort]
  have hwith : ∀ (support : ClaimSupportStatus) (i : Uuid), i ∈ claimIdsWith claims support ↔
      i ∈ idsWith (loadBundle ledger store' package).claims support := by
    intro support i
    simp only [claimIdsWith, idsWith, List.mem_insertionSort, List.mem_map, List.mem_filter, hmem]
  refine
    { runId := hrunId
      claims := ?_
      ids := ?_
      ordered := ?_
      evidence := ?_
      links := ?_
      pairs := ?_
      used := ?_
      unsupported := ?_
      conflicting := ?_
      researchAsOfTime := ?_
      checksum := hchecksum }
  · intro claim
    rw [hmem, hsettled, List.mem_map]
    simp only [eq_comm]
  · rw [hloaded]
    exact ((List.perm_insertionSort _ claims).map _).nodup_iff.mpr hids
  · rw [hloaded]
    exact sortedIds_insertionSort hids
  · intro item
    rw [mem_listEvidence, loadBundle, hrunId, List.mem_insertionSort, Txn.Table.mem_select,
      decide_eq_true_eq]
  · intro link
    rw [loadBundle, hrunId, List.mem_insertionSort, hlinkRows, List.mem_flatMap]
  · have hpairs := (List.perm_insertionSort (fun a b : ClaimEvidenceLinkRecord => a.id ≤ b.id)
      (store'.links.select (·.runId = context.runId))).map fun link => (link.claimId, link.evidenceId)
    rw [loadBundle, hrunId]
    refine hpairs.nodup_iff.mpr ?_
    refine List.Nodup.sublist (List.filter_sublist.map _) (List.pairwise_map.mpr ?_)
    refine store'.links.keyed.imp fun hclash hpair => hclash (Or.inr ?_)
    simpa using hpair
  · intro i
    change i ∈ sectionClaimIds package.content ↔ _
    rw [hcontent, mem_sectionClaimIds]
    simp only [hmem]
  · intro i
    rw [← hwith]
    change i ∈ package.content.unsupportedClaimIds ↔ _
    rw [hcontent]
    rfl
  · intro i
    rw [← hwith]
    change i ∈ package.content.conflictingClaimIds ↔ _
    rw [hcontent]
    rfl
  · change package.content.context.researchAsOfTime = _
    rw [hcontent]
    rfl

/-- Every record of the run was looked at, and its proposal is among the proposals. -/
lemma exists_propose {runId : Uuid} {evidence : List ResearchEvidenceRecord}
    {proposals : List ResearchClaimProposal}
    (h : proposeClaims parsers supply mode runId evidence = .ok proposals)
    {item : ResearchEvidenceRecord} (hitem : item ∈ evidence) (hrun : item.runId = runId) :
    ∃ o, propose parsers supply mode item = .ok o ∧ ∀ proposal ∈ o, proposal ∈ proposals := by
  obtain ⟨lists, hlists, rfl⟩ := map_ok.mp h
  have hmem : item ∈ evidence.filter (·.runId = runId) := by simp [hitem, hrun]
  obtain ⟨list, hlist, hmap⟩ := exists_of_forall₂ (forall₂_mapM (fun _ _ h => h) hlists) hmem
  obtain ⟨o, ho, rfl⟩ := map_ok.mp hmap
  refine ⟨o, ho, fun proposal hproposal => List.mem_flatten.mpr ⟨_, hlist, ?_⟩⟩
  simpa using hproposal

/-- A record is reportable exactly if its claim is in a section that was requested, is not of a
later time and is not partially supported. -/
lemma reportable_iff_of_propose {researchAsOfTime : Instant} {item : ResearchEvidenceRecord}
    {proposal : ResearchClaimProposal}
    (h : propose parsers supply mode item = .ok (some proposal)) :
    Reportable parsers mode requested researchAsOfTime item ↔
      claimSection proposal.claim ∈ requested ∧
      (∀ t ∈ proposal.claim.asOfTime, t ≤ researchAsOfTime) ∧
      (supportOf parsers (mode = .realResearch) proposal.claim [item]).1 ≠
        .partiallySupported := by
  have hsection := claimedSection_of_propose h
  rcases propose_number h with ⟨hplain, hnone⟩ | hnumber
  · have hother : claimSection proposal.claim ≠ .financialHealth := by
      rw [Ne, financialHealth_iff]
      rintro (htype | htype) <;> rw [htype] at hplain <;> cases hplain
    have hfull : (supportOf parsers (mode = .realResearch) proposal.claim [item]).1 ≠
        .partiallySupported := by
      intro hpartial
      rw [numeric_of_partly hpartial] at hplain
      cases hplain
    constructor
    · intro hr
      exact ⟨hr.requested _ hsection, by simp [hnone], hfull⟩
    · rintro ⟨hrequested, -, -⟩
      refine ⟨?_, ?_, ?_⟩
      · intro kind hkind
        rw [hsection] at hkind
        cases hkind
        exact hrequested
      all_goals
        intro hhealth
        rw [hsection] at hhealth
        exact absurd (Option.some.inj hhealth) hother
  · have hlineage := supportOf_number hnumber
    obtain ⟨n, asOf, hof, -, hkind, -⟩ := hnumber
    have hhealth : claimSection proposal.claim = .financialHealth := by
      rw [financialHealth_iff, hof.claimType]
      split_ifs
      · exact Or.inr rfl
      · exact Or.inl rfl
    rw [Ne, hlineage, hof.asOfTime]
    constructor
    · intro hr
      refine ⟨hr.requested _ hsection, ?_, ?_⟩
      · rintro t ht
        cases ht
        exact hr.asOf (hsection.trans (congrArg some hhealth)) n hof.parsed asOf hof.asOf_utc
      · rintro ⟨hderived, hnot⟩
        exact hnot (hr.lineage (hsection.trans (congrArg some hhealth)) hderived)
    · rintro ⟨hrequested, hasOf, hnot⟩
      refine ⟨?_, ?_, ?_⟩
      · intro kind hkind
        rw [hsection] at hkind
        cases hkind
        exact hrequested
      · rintro - n' hn' t ht
        rw [hof.parsed] at hn'
        cases hn'
        rw [hof.asOf_utc] at ht
        cases ht
        exact hasOf asOf rfl
      · intro _ hderived
        by_contra hincomplete
        exact hnot ⟨hderived, hincomplete⟩

/-- The proposals of a ledger, and the records that they were built from. -/
def Rooted (parsers : Parsers) (supply : Supply) (mode : ResearchMode) (runId : Uuid)
    (evidence : List ResearchEvidenceRecord) (proposals : List ResearchClaimProposal) : Prop :=
  ∀ proposal ∈ proposals, ∃ item ∈ evidence,
    propose parsers supply mode item = .ok (some proposal) ∧
    selectedEvidence proposal evidence = [item] ∧ proposal.claim.runId = runId

lemma rooted_of_proposeClaims {proposals : List ResearchClaimProposal} {runId : Uuid}
    (h : proposeClaims parsers supply mode runId (listEvidence ledger runId) = .ok proposals) :
    Rooted parsers supply mode runId (listEvidence ledger runId) proposals := by
  intro proposal hproposal
  obtain ⟨item, hitem, hrun, hpropose⟩ := mem_proposeClaims h hproposal
  obtain ⟨hids, hsame, -⟩ := propose_names hpropose
  exact ⟨item, hitem, hpropose,
    selectedEvidence_singleton (listEvidence_ids_nodup ledger runId) hitem hids hsame,
    hsame.trans hrun⟩

/-- The checks of claims pass exactly if all sections were requested and no time is later. -/
lemma Produced.claimsAgree_iff {proposals : List ResearchClaimProposal}
    (h : Produced hash parsers supply ledger mode context requested proposals input)
    (hroot : Rooted parsers supply mode context.runId (listEvidence ledger context.runId)
      proposals) :
    ClaimsAgree input ↔ ∀ proposal ∈ proposals, claimSection proposal.claim ∈ requested ∧
      ∀ t ∈ proposal.claim.asOfTime, t ≤ context.researchAsOfTime := by
  constructor
  · intro hagree proposal hproposal
    have hclaim := (h.claims _).mpr ⟨proposal, hproposal, rfl⟩
    constructor
    · obtain ⟨claim, hin, hrequested, hid⟩ := (h.used _).mp (hagree.used _ hclaim)
      rw [List.inj_on_of_nodup_map h.ids hin hclaim hid] at hrequested
      exact hrequested
    · intro t ht
      rw [← h.researchAsOfTime]
      exact hagree.asOf _ hclaim t ht
  · intro hall
    refine ⟨h.ordered, ?_, ?_, ?_, ?_, ?_, h.unsupported, h.conflicting⟩
    · intro claim hclaim
      obtain ⟨proposal, -, rfl⟩ := (h.claims claim).mp hclaim
      rfl
    · intro claim hclaim
      obtain ⟨proposal, hproposal, rfl⟩ := (h.claims claim).mp hclaim
      exact (h.used _).mpr ⟨_, hclaim, (hall proposal hproposal).1, rfl⟩
    · intro i hi
      obtain ⟨claim, hclaim, -, rfl⟩ := (h.used i).mp hi
      exact List.mem_map_of_mem hclaim
    · intro claim hclaim
      obtain ⟨proposal, hproposal, rfl⟩ := (h.claims claim).mp hclaim
      obtain ⟨item, -, -, -, hrun⟩ := hroot proposal hproposal
      rw [h.runId]
      exact hrun
    · intro claim hclaim t ht
      obtain ⟨proposal, hproposal, rfl⟩ := (h.claims claim).mp hclaim
      rw [h.researchAsOfTime]
      exact (hall proposal hproposal).2 t ht

/-- The checks of links pass exactly if no claim is partially supported. -/
lemma Produced.linksAgree_iff {proposals : List ResearchClaimProposal}
    (h : Produced hash parsers supply ledger mode context requested proposals input)
    (hroot : Rooted parsers supply mode context.runId (listEvidence ledger context.runId)
      proposals) :
    LinksAgree input ↔ ∀ proposal ∈ proposals, ∀ item, selectedEvidence proposal
        (listEvidence ledger context.runId) = [item] →
      (supportOf parsers (mode = .realResearch) proposal.claim [item]).1 ≠ .partiallySupported := by
  constructor
  · intro hagree proposal hproposal item hselected hpartial
    have hclaim := (h.claims _).mpr ⟨proposal, hproposal, rfl⟩
    have hstatus : (settled parsers supply (mode = .realResearch)
        (listEvidence ledger context.runId) proposal).supportStatus = some .partiallySupported := by
      rw [settled_support hselected, hpartial]
    obtain ⟨link, hlink, hid⟩ := hagree.linked _ hclaim (by simp [requiresEvidence, hstatus])
    obtain ⟨other, hother, hmem⟩ := (h.links link).mp hlink
    obtain ⟨item', -, -, hselected', -⟩ := hroot other hother
    rw [settledLinks_eq hselected'] at hmem
    split_ifs at hmem with hlinkable
    · -- The link is of a proposal with the same claim, so with the same support.
      have hlinkId : link.claimId = other.claim.id := by
        rw [List.mem_singleton.mp hmem]
      have hsame := List.inj_on_of_nodup_map h.ids ((h.claims _).mpr ⟨other, hother, rfl⟩) hclaim
        (hlinkId.symm.trans hid)
      rw [← hsame, settled_support hselected'] at hstatus
      rw [not_linkable_of_partly (Option.some.inj hstatus)] at hlinkable
      cases hlinkable
    · cases hmem
  · intro hall
    have hlink : ∀ link ∈ input.links, ∃ proposal ∈ proposals,
        ∃ item ∈ listEvidence ledger context.runId, link.claimId = proposal.claim.id ∧
          link.evidenceId = item.id ∧ link.runId = context.runId := by
      intro link hlink
      obtain ⟨proposal, hproposal, hmem⟩ := (h.links link).mp hlink
      obtain ⟨item, hitem, -, hselected, hrun⟩ := hroot proposal hproposal
      rw [settledLinks_eq hselected] at hmem
      split_ifs at hmem
      · rw [List.mem_singleton.mp hmem]
        exact ⟨proposal, hproposal, item, hitem, rfl, rfl, hrun⟩
      · cases hmem
    refine ⟨?_, ?_, ?_, h.pairs, ?_⟩
    · intro link hl
      obtain ⟨-, -, -, -, -, -, hrun⟩ := hlink link hl
      rw [h.runId, hrun]
    · intro link hl
      obtain ⟨proposal, hproposal, -, -, hid, -, -⟩ := hlink link hl
      rw [hid]
      exact List.mem_map.mpr ⟨_, (h.claims _).mpr ⟨proposal, hproposal, rfl⟩, rfl⟩
    · intro link hl
      obtain ⟨-, -, item, hitem, -, hid, -⟩ := hlink link hl
      rw [hid]
      exact List.mem_map_of_mem ((h.evidence item).mpr hitem)
    · intro claim hclaim hrequires
      obtain ⟨proposal, hproposal, rfl⟩ := (h.claims claim).mp hclaim
      obtain ⟨item, hitem, -, hselected, -⟩ := hroot proposal hproposal
      have hfull := hall proposal hproposal item hselected
      rw [requiresEvidence, settled_support hselected] at hrequires
      have hlinkable : linkable item (supportOf parsers (mode = .realResearch) proposal.claim
          [item]).1 proposal.claim.claimType = true :=
        linkable_of_requires (by simpa [hfull] using hrequires)
      obtain ⟨link, hmem, hid⟩ : ∃ link ∈ settledLinks parsers supply (mode = .realResearch)
          (listEvidence ledger context.runId) proposal, link.claimId = proposal.claim.id := by
        rw [settledLinks_eq hselected, if_pos hlinkable]
        exact ⟨_, List.mem_singleton.mpr rfl, rfl⟩
      exact ⟨link, (h.links link).mpr ⟨proposal, hproposal, hmem⟩, hid⟩

/-- **What the report stage accepts.**  For every ledger and every list of sections, the claims, links
and package that the research stage leaves behind pass the checks exactly if every record of the run
is reportable. -/
theorem validateInput_iff (hash : IdealHash) (parsers : Parsers) (supply : Supply)
    (ledger : Txn.Table ResearchEvidenceRecord) (store : ClaimStore) (mode : ResearchMode)
    (context : PackageContext) (requested : List ResearchSection) (packageId : Uuid)
    (blockedCapabilities warnings : List String) (runFailed : Bool) (createdAt : Instant)
    (input : PersistedReportInput) (hfresh : Fresh store context.runId)
    (h : researchStage hash parsers supply ledger store mode context requested packageId
      blockedCapabilities warnings runFailed createdAt = .ok input) :
    validateInput hash input = .ok () ↔ ∀ item ∈ ledger.rows, item.runId = context.runId →
      Reportable parsers mode requested context.researchAsOfTime item := by
  obtain ⟨proposals, hproposals, hproduced⟩ := produced_of_stage hfresh h
  have hroot := rooted_of_proposeClaims hproposals
  unfold validateInput
  rw [unit_bind_ok, unit_bind_ok, validateClaims_ok, validateLinks_ok,
    hproduced.claimsAgree_iff hroot, hproduced.linksAgree_iff hroot]
  constructor
  · rintro ⟨-, hclaims, hlinks⟩ item hitem hrun
    have hin := mem_listEvidence.mpr ⟨hitem, hrun⟩
    obtain ⟨o, ho, hmem⟩ := exists_propose hproposals hin hrun
    cases o with
    | none =>
        have hnone := claimedSection_of_none ho
        refine ⟨?_, ?_, ?_⟩
        · intro kind hkind
          rw [hnone] at hkind
          cases hkind
        all_goals
          intro hhealth
          rw [hnone] at hhealth
          cases hhealth
    | some proposal =>
        have hproposal := hmem proposal rfl
        obtain ⟨hids, hsame, -⟩ := propose_names ho
        have hselected := selectedEvidence_singleton (listEvidence_ids_nodup ledger context.runId)
          hin hids hsame
        exact (reportable_iff_of_propose ho).mpr ⟨(hclaims proposal hproposal).1,
          (hclaims proposal hproposal).2, hlinks proposal hproposal item hselected⟩
  · intro hall
    have hreport : ∀ proposal ∈ proposals, ∀ item, selectedEvidence proposal
        (listEvidence ledger context.runId) = [item] →
        claimSection proposal.claim ∈ requested ∧
        (∀ t ∈ proposal.claim.asOfTime, t ≤ context.researchAsOfTime) ∧
        (supportOf parsers (mode = .realResearch) proposal.claim [item]).1 ≠
          .partiallySupported := by
      intro proposal hproposal item hselected
      obtain ⟨item', hitem', hpropose, hselected', -⟩ := hroot proposal hproposal
      rw [hselected] at hselected'
      cases hselected'
      obtain ⟨hrow, hrun⟩ := mem_listEvidence.mp hitem'
      exact (reportable_iff_of_propose hpropose).mp (hall item hrow hrun)
    refine ⟨check_ok.mpr (not_not.mpr hproduced.checksum), ?_, ?_⟩
    · intro proposal hproposal
      obtain ⟨item, -, -, hselected, -⟩ := hroot proposal hproposal
      exact ⟨(hreport proposal hproposal item hselected).1,
        (hreport proposal hproposal item hselected).2.1⟩
    · intro proposal hproposal item hselected
      exact (hreport proposal hproposal item hselected).2.2

end Stage

/-! ## Two ledgers of one record -/

/-- What the research stage leaves behind for a ledger of one record, of which financial health was
requested. -/
def oneRecordStage (item : ResearchEvidenceRecord) : Except String PersistedReportInput :=
  researchStage default revenueParsers freshSupply (Txn.Table.single item trivial) ⟨∅, ∅⟩
    .realResearch
    { runId := 1
      requestId := 4
      securityId := 2
      snapshotId := 3
      researchAsOfTime := yearEnd
      researchType := .fullResearchPackage
      policyVersion := "policy-v1"
      plannerVersion := "planner-v1"
      toolCatalogVersion := zeroChecksum }
    [.financialHealth] 9 [] [] false yearEnd

/-- A reported revenue is accepted. -/
theorem revenue_accepted :
    ∃ input, oneRecordStage revenue = .ok input ∧ validateInput default input = .ok () := by
  have hok : (oneRecordStage revenue).isOk = true := by decide +kernel
  obtain ⟨input, hinput⟩ := exists_of_isOk hok
  refine ⟨input, hinput, (validateInput_iff default revenueParsers freshSupply
    (Txn.Table.single revenue trivial) ⟨∅, ∅⟩ .realResearch _ [.financialHealth] 9 [] [] false
    yearEnd input ⟨fun _ h => (List.not_mem_nil h).elim, fun _ h => (List.not_mem_nil h).elim⟩
    hinput).mpr ?_⟩
  intro item hitem _
  obtain rfl : item = revenue := by simpa [Txn.Table.single] using hitem
  have hsection : claimedSection revenueParsers .realResearch revenue = some .financialHealth := by
    decide +kernel
  refine ⟨?_, ?_, ?_⟩
  · intro kind hkind
    rw [hsection] at hkind
    cases hkind
    exact List.mem_singleton.mpr rfl
  · intro _ n hn t ht
    have hasOf : (numericPayload revenueParsers revenue.payload).map (·.asOf) =
        some (.aware yearEnd true) := by rfl
    rw [Option.mem_def.mp hn, Option.map_some, ht] at hasOf
    cases hasOf
    exact le_rfl
  · intro _ hderived
    cases hderived

/-- A margin that was calculated, with a basis that is not the version of its formula. -/
def margin : ResearchEvidenceRecord :=
  { revenue with
    evidenceType := .derivedMetric
    calculationRunId := some 5
    calculationInputIds := [6]
    formulaVersion := some "gross-margin-v1" }

/-- **Its claim is partially supported, and the report stage misses the link.** -/
theorem partial_claim_rejected :
    ∃ input, oneRecordStage margin = .ok input ∧
      validateInput default input = .error "CLAIM_EVIDENCE_LINK_MISSING" := by
  have hok : (oneRecordStage margin).isOk = true := by decide +kernel
  obtain ⟨input, hinput⟩ := exists_of_isOk hok
  obtain ⟨_, -, hproduced⟩ := produced_of_stage
    ⟨fun _ h => (List.not_mem_nil h).elim, fun _ h => (List.not_mem_nil h).elim⟩ hinput
  have hclaims : oneRecordStage margin >>= validateClaims = .ok () := by decide +kernel
  have hlinks : oneRecordStage margin >>= validateLinks =
      .error "CLAIM_EVIDENCE_LINK_MISSING" := by decide +kernel
  rw [hinput, ok_bind] at hclaims hlinks
  have hchecksum : validatePackageChecksum default input.package = .ok () :=
    check_ok.mpr (not_not.mpr hproduced.checksum)
  refine ⟨input, hinput, ?_⟩
  rw [validateInput, hchecksum, ok_bind, hclaims, ok_bind, hlinks]

end StockResearch.Reports
