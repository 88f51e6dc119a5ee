import StockResearch.ResearchAgent.Evidence
import StockResearch.Core.Decimal
import StockResearch.Core.Table

/-!
# Claims

`DeterministicClaimBuilder` proposes at most one claim for each evidence record.
`ClaimSupportValidator` looks at the evidence a proposal names and assigns the support of the claim
and its links.  `ProductionDeterministicClaimPipeline` stores the candidate, validates it, stores
the links and completes the claim, for one proposal after the other.

Parsing of decimals and of times is the language's: `Parsers`.  A claim record carries the checks of
its contract, so that a value that fails them cannot be built.

* `settle_ok`: what one turn of the pipeline stores.
* **`buildAndValidate_ok`**: what the pipeline leaves behind, for the whole ledger.
-/

namespace StockResearch.ResearchAgent

open PyJson PyTime PyDecimal Checked Txn

/-! ## Vocabularies -/

inductive ClaimType where
  | identity
  | financialFact
  | financialMetric
  | valuationMetric
  | documentDisclosure
  | corporateAction
  | dataQuality
  | limitation
deriving DecidableEq, Repr

/-- `claim_type.value` -/
def ClaimType.value : ClaimType → String
  | .identity => "IDENTITY"
  | .financialFact => "FINANCIAL_FACT"
  | .financialMetric => "FINANCIAL_METRIC"
  | .valuationMetric => "VALUATION_METRIC"
  | .documentDisclosure => "DOCUMENT_DISCLOSURE"
  | .corporateAction => "CORPORATE_ACTION"
  | .dataQuality => "DATA_QUALITY"
  | .limitation => "LIMITATION"

/-- The claims that state a number. -/
def ClaimType.numeric : ClaimType → Bool
  | .financialFact | .financialMetric | .valuationMetric => true
  | _ => false

inductive ClaimSupportStatus where
  | supported
  | partiallySupported
  | conflicting
  | unsupported
  | blocked
deriving DecidableEq, Repr

inductive ClaimLifecycleStatus where
  | candidate
  | validated
  | rejected
deriving DecidableEq, Repr

inductive EvidenceRole where
  | primary
  | corroborating
  | contradicting
  | context
  | limitation
deriving DecidableEq, Repr

/-! ## Claim records -/

/-- `^[A-Z][A-Z0-9_:-]{0,127}$` -/
def isCode (s : String) : Bool :=
  match s.toList with
  | [] => false
  | c :: rest => c.isUpper && rest.length ≤ 127 &&
      rest.all fun d => d.isUpper || d.isDigit || d == '_' || d == ':' || d == '-'

/-- `^[A-Z]{3}$` -/
def isCurrencyCode (s : String) : Bool := s.length = 3 && s.toList.all Char.isUpper

structure ClaimFields where
  id : Uuid
  runId : Uuid
  claimType : ClaimType
  lifecycleStatus : ClaimLifecycleStatus
  supportStatus : Option ClaimSupportStatus
  statementCode : String
  value : Option Decimal
  unit : Option String
  currencyCode : Option String
  period : Option String
  asOfTime : Option Instant
  metricBasis : Option String
  createdAt : Instant
  completedAt : Option Instant
deriving DecidableEq

/-- The field checks of `ResearchClaimWrite` and `validate_numeric_shape`. -/
structure ClaimFields.Valid (c : ClaimFields) : Prop where
  code : isCode c.statementCode = true
  unit_le : ∀ u ∈ c.unit, u.length ≤ 32
  currency : ∀ u ∈ c.currencyCode, isCurrencyCode u = true
  period_le : ∀ u ∈ c.period, u.length ≤ 64
  basis_le : ∀ u ∈ c.metricBasis, u.length ≤ 128
  shape : c.claimType.numeric = true → c.value.isSome ∧ c.unit.isSome ∧ c.period.isSome ∧
    c.asOfTime.isSome ∧ c.metricBasis.isSome
  candidate : c.lifecycleStatus = .candidate → c.supportStatus = none

lemma ClaimFields.valid_iff {c : ClaimFields} : c.Valid ↔
    isCode c.statementCode = true ∧ (∀ u ∈ c.unit, u.length ≤ 32) ∧
      (∀ u ∈ c.currencyCode, isCurrencyCode u = true) ∧ (∀ u ∈ c.period, u.length ≤ 64) ∧
      (∀ u ∈ c.metricBasis, u.length ≤ 128) ∧
      (c.claimType.numeric = true → c.value.isSome ∧ c.unit.isSome ∧ c.period.isSome ∧
        c.asOfTime.isSome ∧ c.metricBasis.isSome) ∧
      (c.lifecycleStatus = .candidate → c.supportStatus = none) :=
  ⟨fun h => ⟨h.code, h.unit_le, h.currency, h.period_le, h.basis_le, h.shape, h.candidate⟩,
    fun ⟨h₁, h₂, h₃, h₄, h₅, h₆, h₇⟩ => ⟨h₁, h₂, h₃, h₄, h₅, h₆, h₇⟩⟩

instance (c : ClaimFields) : Decidable c.Valid := decidable_of_iff' _ ClaimFields.valid_iff

/-- A claim that its contract admits. -/
structure ResearchClaimRecord extends ClaimFields where
  valid : toClaimFields.Valid
deriving DecidableEq

/-- `model_validate` -/
def ResearchClaimRecord.make (c : ClaimFields) : Except String ResearchClaimRecord :=
  if h : c.Valid then .ok ⟨c, h⟩ else .error "ValidationError"

lemma ResearchClaimRecord.make_ok {c : ClaimFields} {claim : ResearchClaimRecord} :
    ResearchClaimRecord.make c = .ok claim ↔ claim.toClaimFields = c := by
  unfold make
  constructor
  · intro h
    split at h
    · cases h
      rfl
    · cases h
  · rintro rfl
    rw [dif_pos claim.valid]

/-- `claim.model_copy` with the fields of a completion. -/
def ResearchClaimRecord.complete (claim : ResearchClaimRecord) (support : ClaimSupportStatus)
    (completedAt : Instant) : ResearchClaimRecord where
  toClaimFields := { claim.toClaimFields with
    lifecycleStatus := .validated
    supportStatus := some support
    completedAt := some completedAt }
  valid := by
    have h := claim.valid
    exact ⟨h.code, h.unit_le, h.currency, h.period_le, h.basis_le, h.shape, by rintro ⟨⟩⟩

/-- A candidate with the evidence that the rules propose for it. -/
structure ResearchClaimProposal where
  claim : ResearchClaimRecord
  proposedEvidenceIds : List Uuid

structure ClaimEvidenceLinkRecord where
  id : Uuid
  runId : Uuid
  claimId : Uuid
  evidenceId : Uuid
  role : EvidenceRole
  createdAt : Instant
deriving DecidableEq

/-! ## Proposing -/

/-- The value of `Decimal(text)`. -/
inductive ParsedDecimal where
  | finite (value : Decimal)
  | nonFinite

/-- The value of `datetime.fromisoformat(text)`: without an offset, or an instant with whether its
offset is zero. -/
inductive ParsedTime where
  | naive
  | aware (time : Instant) (utc : Bool)

/-- The parsers of the language.  `none` stands for the exception that the builder catches. -/
structure Parsers where
  decimal : String → Option ParsedDecimal
  fromisoformat : String → Option ParsedTime

/-- `text.replace("Z", "+00:00")` -/
def zuluToOffset (s : String) : String :=
  String.ofList (s.toList.flatMap fun c => if c = 'Z' then "+00:00".toList else [c])

/-- The fields of a payload that make it a number, parsed. -/
structure NumericPayload where
  value : Decimal
  unit : String
  period : String
  asOf : ParsedTime
  basis : String
  code : String

/-- The `try` block of `_numeric`. -/
def numericPayload (parsers : Parsers) (payload : Payload) : Option NumericPayload := do
  let rawValue ← payload.text "value"
  let unit ← payload.text "unit"
  let period ← payload.text "period"
  let rawAsOf ← payload.text "as_of_time"
  let basis ← payload.text "metric_basis"
  let code ← payload.text "metric_code"
  match ← parsers.decimal rawValue with
  | .nonFinite => none
  | .finite value =>
      let asOf ← parsers.fromisoformat (zuluToOffset rawAsOf)
      return { value, unit, period, asOf, basis, code }

/-- What the id factory and the clock return while the pipeline works on the claim of an evidence
record. -/
structure Supply where
  claimId : Uuid → Uuid
  linkId : Uuid → Uuid
  createdAt : Instant
  completedAt : Uuid → Instant

/-- `_basic` -/
def basicProposal (supply : Supply) (evidence : ResearchEvidenceRecord) (claimType : ClaimType)
    (statementCode : String) : Except String ResearchClaimProposal := do
  let claim ← ResearchClaimRecord.make {
    id := supply.claimId evidence.id, runId := evidence.runId, claimType,
    lifecycleStatus := .candidate, supportStatus := none, statementCode, value := none,
    unit := none, currencyCode := none, period := none, asOfTime := none, metricBasis := none,
    createdAt := supply.createdAt, completedAt := none }
  return { claim, proposedEvidenceIds := [evidence.id] }

def awareUtc : ParsedTime → Except String Instant
  | .aware time true => .ok time
  | _ => .error "ValidationError"

/-- The construction of the proposal in `_numeric`.  An as-of time without an offset, or with one
that is not zero, fails the contract. -/
def numericProposal (supply : Supply) (evidence : ResearchEvidenceRecord) (n : NumericPayload) :
    Except String ResearchClaimProposal := do
  let asOf ← awareUtc n.asOf
  let claim ← ResearchClaimRecord.make {
    id := supply.claimId evidence.id, runId := evidence.runId,
    claimType := if evidence.evidenceType = .derivedMetric then .financialMetric
      else .financialFact,
    lifecycleStatus := .candidate, supportStatus := none, statementCode := n.code,
    value := some n.value, unit := some n.unit,
    currencyCode := evidence.payload.text "currency_code", period := some n.period,
    asOfTime := some asOf, metricBasis := some n.basis, createdAt := supply.createdAt,
    completedAt := none }
  return { claim, proposedEvidenceIds := [evidence.id] }

/-- `str(payload.get(key, default))` as a statement code.  The text of a value that is not a string
holds a lower-case letter or does not start with a letter, so it fails the pattern of codes. -/
def codeOr (payload : Payload) (key fallback : String) : Except String String :=
  match payload.get key with
  | none => .ok fallback
  | some (.str s) => .ok s
  | some _ => .error "ValidationError"

/-- `{"security_id", "issuer", "symbol", "exchange"}.issubset(payload)` -/
def namesIdentity (payload : Payload) : Bool :=
  ["security_id", "issuer", "symbol", "exchange"].all fun key => (payload.get key).isSome

def propose (parsers : Parsers) (supply : Supply) (mode : ResearchMode)
    (evidence : ResearchEvidenceRecord) : Except String (Option ResearchClaimProposal) :=
  if evidence.evidenceType = .blockedCapability then do
    let code ← codeOr evidence.payload "capability_code" "CAPABILITY_BLOCKED"
    some <$> basicProposal supply evidence .limitation code
  else if evidence.status ≠ .valid then return none
  else if evidence.syntheticStatus = .unknown ∨
      (evidence.syntheticStatus = .syntheticTestOnly ∧ mode ≠ .syntheticTestOnly) then return none
  else match evidence.evidenceType with
    | .securityMaster =>
        if namesIdentity evidence.payload then
          some <$> basicProposal supply evidence .identity "SECURITY_IDENTITY"
        else return none
    | .dataQuality => do
        let code ← codeOr evidence.payload "quality_code" "DATA_QUALITY_LIMITATION"
        some <$> basicProposal supply evidence .dataQuality code
    | .derivedMetric | .structuredFact =>
        match numericPayload parsers evidence.payload with
        | some n => some <$> numericProposal supply evidence n
        | none => some <$> basicProposal supply evidence .limitation "METRIC_INPUT_INCOMPLETE"
    | .documentCitation =>
        match evidence.payload.text "disclosure_code" with
        | some code => some <$> basicProposal supply evidence .documentDisclosure code
        | none => return none
    | .corporateAction =>
        match evidence.payload.text "action_code" with
        | some code => some <$> basicProposal supply evidence .corporateAction code
        | none => return none
    | _ => return none

def proposeClaims (parsers : Parsers) (supply : Supply) (mode : ResearchMode) (runId : Uuid)
    (evidence : List ResearchEvidenceRecord) : Except String (List ResearchClaimProposal) :=
  collect (fun item => (propose parsers supply mode item).map Option.toList)
    (evidence.filter (·.runId = runId))

/-! ## Validating -/

def metricMatchesClaim (parsers : Parsers) (claim : ResearchClaimRecord)
    (evidence : ResearchEvidenceRecord) : Bool :=
  if evidence.evidenceType ≠ .derivedMetric ∧ evidence.evidenceType ≠ .structuredFact then false
  else if (claim.claimType = .financialMetric ∨ claim.claimType = .valuationMetric) ∧
      (evidence.calculationRunId = none ∨ evidence.calculationInputIds = [] ∨
        evidence.formulaVersion = none) then false
  else
    match evidence.payload.text "value", evidence.payload.text "as_of_time" with
    | some rawValue, some rawAsOf =>
        match parsers.decimal rawValue, parsers.fromisoformat (zuluToOffset rawAsOf) with
        | some (.finite value), some (.aware asOf _) =>
            claim.value.any value.equal && claim.asOfTime = some asOf &&
              claim.unit.any (evidence.payload.holds "unit") &&
              claim.period.any (evidence.payload.holds "period") &&
              claim.metricBasis.any (evidence.payload.holds "metric_basis") &&
              (claim.claimType = .financialFact || evidence.formulaVersion = claim.metricBasis)
        | _, _ => false
    | _, _ => false

/-- `_support` -/
def supportOf (parsers : Parsers) (realResearch : Bool) (claim : ResearchClaimRecord)
    (evidence : List ResearchEvidenceRecord) : ClaimSupportStatus × EvidenceRole :=
  if evidence = [] then (.unsupported, .context)
  else if evidence.any (·.status = .conflicting) then (.conflicting, .contradicting)
  else if evidence.any fun item =>
      item.evidenceType = .blockedCapability || item.status = .blocked then
    if claim.claimType = .dataQuality ∨ claim.claimType = .limitation then (.blocked, .limitation)
    else (.unsupported, .context)
  else if evidence.any (·.status ≠ .valid) then (.unsupported, .context)
  else if realResearch && evidence.any (·.syntheticStatus.synthetic) then (.unsupported, .context)
  else match claim.claimType with
    | .identity =>
        (if evidence.any fun item =>
            item.evidenceType = .securityMaster && namesIdentity item.payload then .supported
          else .unsupported, .primary)
    | .financialFact | .financialMetric | .valuationMetric =>
        if evidence.any (metricMatchesClaim parsers claim) then (.supported, .primary)
        else (.partiallySupported, .context)
    | .documentDisclosure =>
        let documents := evidence.filter (·.evidenceType = .documentCitation)
        if documents.any (·.publishedAt = none) then (.blocked, .limitation)
        else (if documents.any fun item => item.citationId.isSome &&
            item.payload.holds "disclosure_code" claim.statementCode then .supported
          else .unsupported, .primary)
    | .dataQuality | .limitation => (.supported, .primary)
    | .corporateAction => (.unsupported, .context)

def linkable (evidence : ResearchEvidenceRecord) (support : ClaimSupportStatus)
    (claimType : ClaimType) : Bool :=
  match support with
  | .supported => evidence.status = .valid
  | .conflicting | .blocked => true
  | _ => claimType = .dataQuality || claimType = .limitation

/-- The evidence a proposal names, each record once. -/
def selectedEvidence (proposal : ResearchClaimProposal) (evidence : List ResearchEvidenceRecord) :
    List ResearchEvidenceRecord :=
  (evidence.filter fun item =>
      item.runId = proposal.claim.runId && item.id ∈ proposal.proposedEvidenceIds).foldl
    (fun seen item => if seen.any (·.id = item.id) then seen else seen ++ [item]) []

/-- `ClaimSupportValidator.validate`: the support and the links. -/
def validateClaim (parsers : Parsers) (supply : Supply) (realResearch : Bool)
    (evidence : List ResearchEvidenceRecord) (proposal : ResearchClaimProposal)
    (completedAt : Instant) : ClaimSupportStatus × List ClaimEvidenceLinkRecord :=
  let selected := selectedEvidence proposal evidence
  let (support, role) := supportOf parsers realResearch proposal.claim selected
  (support, (selected.filter (linkable · support proposal.claim.claimType)).map fun item =>
    { id := supply.linkId item.id, runId := proposal.claim.runId, claimId := proposal.claim.id,
      evidenceId := item.id, role, createdAt := completedAt })

/-! ## The pipeline -/

/-- `research_claims`: a claim and the key derived from its content. -/
structure ClaimRow where
  claim : ResearchClaimRecord
  claimKey : String

instance : Schema ClaimRow where
  clash a b := a.claim.id = b.claim.id ∨ (a.claim.runId = b.claim.runId ∧ a.claimKey = b.claimKey)
  check _ := True
  clash_symm _ _ h := h.imp Eq.symm fun h => ⟨h.1.symm, h.2.symm⟩
  decClash _ _ := inferInstance
  decCheck _ := inferInstance

/-- `claim_evidence_links` -/
instance : Schema ClaimEvidenceLinkRecord where
  clash a b := a.id = b.id ∨ (a.claimId = b.claimId ∧ a.evidenceId = b.evidenceId)
  check _ := True
  clash_symm _ _ h := h.imp Eq.symm fun h => ⟨h.1.symm, h.2.symm⟩
  decClash _ _ := inferInstance
  decCheck _ := inferInstance

/-- The claims and the links of all runs. -/
structure ClaimStore where
  claims : Table ClaimRow
  links : Table ClaimEvidenceLinkRecord

/-- The basis of a claim's key: its dump without the identifier, the statuses and the validator. -/
def claimBasis (claim : ResearchClaimRecord) : Value :=
  .obj [("run_id", .str claim.runId.str), ("claim_type", .str claim.claimType.value),
    ("statement_code", .str claim.statementCode),
    ("value", optionalText (claim.value.map Decimal.str)), ("unit", optionalText claim.unit),
    ("currency_code", optionalText claim.currencyCode), ("period", optionalText claim.period),
    ("as_of_time", optionalText (claim.asOfTime.map Instant.isoformat)),
    ("metric_basis", optionalText claim.metricBasis),
    ("builder_version", .str "deterministic-claim-builder-v1"),
    ("created_at", .str claim.createdAt.isoformat),
    ("completed_at", optionalText (claim.completedAt.map Instant.isoformat))]

def addClaim (hash : IdealHash) (claim : ResearchClaimRecord) : Transaction String ClaimStore Unit :=
  Txn.write (fun s => (s.claims.insert ⟨claim, hash.checksum (claimBasis claim)⟩).map fun t =>
    { s with claims := t }) "IntegrityError"

def addLinks (links : List ClaimEvidenceLinkRecord) : Transaction String ClaimStore Unit :=
  Txn.write (fun s => (s.links.insertAll links).map fun t => { s with links := t }) "IntegrityError"

def completeClaim (claimId : Uuid) (support : ClaimSupportStatus) (completedAt : Instant) :
    Transaction String ClaimStore ResearchClaimRecord := do
  let found ← query fun s => s.claims.selectOne (·.claim.id = claimId)
  let row ← fetch found "RESEARCH_CLAIM_NOT_FOUND"
  Txn.write (fun s => (s.claims.update (·.claim.id = claimId) fun r =>
    { r with claim := r.claim.complete support completedAt }).map fun t => { s with claims := t })
    "IntegrityError"
  return row.claim.complete support completedAt

section Pipeline

variable (hash : IdealHash) (parsers : Parsers) (supply : Supply)

/-- One turn of the loop of `build_and_validate`. -/
def settle (realResearch : Bool) (evidence : List ResearchEvidenceRecord)
    (proposal : ResearchClaimProposal) : Transaction String ClaimStore ResearchClaimRecord := do
  addClaim hash proposal.claim
  let completedAt := supply.completedAt proposal.claim.id
  let validation := validateClaim parsers supply realResearch evidence proposal completedAt
  if validation.2 ≠ [] then addLinks validation.2
  completeClaim proposal.claim.id validation.1 completedAt

/-- `build_and_validate`, on what `list_evidence` returned. -/
def buildAndValidate (runId : Uuid) (mode : ResearchMode)
    (evidence : List ResearchEvidenceRecord) :
    Transaction String ClaimStore (List ResearchClaimRecord) := do
  let proposals ← lift (proposeClaims parsers supply mode runId evidence)
  proposals.mapM (settle hash parsers supply (mode = .realResearch) evidence)

/-- The claim that a proposal becomes. -/
def settled (realResearch : Bool) (evidence : List ResearchEvidenceRecord)
    (proposal : ResearchClaimProposal) : ResearchClaimRecord :=
  let completedAt := supply.completedAt proposal.claim.id
  proposal.claim.complete
    (validateClaim parsers supply realResearch evidence proposal completedAt).1 completedAt

/-- The links that a proposal gets. -/
def settledLinks (realResearch : Bool) (evidence : List ResearchEvidenceRecord)
    (proposal : ResearchClaimProposal) : List ClaimEvidenceLinkRecord :=
  (validateClaim parsers supply realResearch evidence proposal
    (supply.completedAt proposal.claim.id)).2

end Pipeline

/-! ## What the pipeline stores -/

section Stored

variable {hash : IdealHash} {parsers : Parsers} {supply : Supply}

lemma addLinks_ok {links : List ClaimEvidenceLinkRecord} {s : ClaimStore}
    {r : Unit × ClaimStore} (h : addLinks links s = .ok r) :
    r.2.claims = s.claims ∧ r.2.links.rows = s.links.rows ++ links := by
  obtain ⟨t, ht, hr⟩ := write_map_ok.mp h
  rw [hr]
  exact ⟨rfl, Table.rows_insertAll ht⟩

/-- Completing the claim that was stored last changes that row only. -/
lemma completeClaim_ok {claim result : ResearchClaimRecord} {key : String}
    {rows : List ClaimRow} {support : ClaimSupportStatus} {completedAt : Instant}
    {s s' : ClaimStore} (hrows : s.claims.rows = rows ++ [⟨claim, key⟩])
    (h : completeClaim claim.id support completedAt s = .ok (result, s')) :
    result = claim.complete support completedAt ∧ s'.links = s.links ∧
      s'.claims.rows = rows ++ [⟨claim.complete support completedAt, key⟩] := by
  have hkeyed := s.claims.keyed
  rw [hrows, List.pairwise_append] at hkeyed
  have hother : ∀ row ∈ rows, row.claim.id ≠ claim.id := fun row hrow heq =>
    hkeyed.2.2 row hrow ⟨claim, key⟩ (by simp) (.inl heq)
  rw [completeClaim, query_bind, fetch_bind_ok] at h
  obtain ⟨row, hfound, h⟩ := h
  rw [write_map_bind_ok] at h
  obtain ⟨t, ht, h⟩ := h
  have hrow : row = ⟨claim, key⟩ := by
    rw [Table.selectOne, hrows, List.find?_append] at hfound
    have hnone : rows.find? (fun r => decide (r.claim.id = claim.id)) = none := by
      rw [List.find?_eq_none]
      intro r hr
      simpa using hother r hr
    rw [hnone] at hfound
    simpa [eq_comm] using hfound
  subst hrow
  cases h
  refine ⟨rfl, rfl, ?_⟩
  have hmap : rows.map (fun r => if r.claim.id = claim.id then
      { r with claim := r.claim.complete support completedAt } else r) = rows := by
    refine (List.map_congr_left fun r hr => ?_).trans (List.map_id rows)
    rw [if_neg (hother r hr), id]
  change t.rows = _
  rw [Table.rows_update ht, hrows]
  simpa using hmap

/-- **One turn of the pipeline** stores the completed claim and its links behind what was there. -/
lemma settle_ok {realResearch : Bool} {evidence : List ResearchEvidenceRecord}
    {proposal : ResearchClaimProposal} {claim : ResearchClaimRecord} {s s' : ClaimStore}
    (h : settle hash parsers supply realResearch evidence proposal s = .ok (claim, s')) :
    claim = settled parsers supply realResearch evidence proposal ∧
      s'.claims.rows = s.claims.rows ++ [⟨claim, hash.checksum (claimBasis proposal.claim)⟩] ∧
      s'.links.rows =
        s.links.rows ++ settledLinks parsers supply realResearch evidence proposal := by
  obtain ⟨_, s₁, hadd, h⟩ := Txn.bind_ok.mp h
  obtain ⟨t, ht, hs₁⟩ := write_map_ok.mp hadd
  dsimp only at hs₁
  have hrows₁ : s₁.claims.rows = s.claims.rows ++ [⟨proposal.claim,
      hash.checksum (claimBasis proposal.claim)⟩] := by
    rw [hs₁]
    exact Table.rows_insert ht
  have hlinks₁ : s₁.links = s.links := by rw [hs₁]
  obtain ⟨s₂, hclaims₂, hlinks₂, hcomplete⟩ : ∃ s₂ : ClaimStore, s₂.claims = s₁.claims ∧
      s₂.links.rows = s₁.links.rows ++ settledLinks parsers supply realResearch evidence proposal ∧
      completeClaim proposal.claim.id (validateClaim parsers supply realResearch evidence proposal
        (supply.completedAt proposal.claim.id)).1 (supply.completedAt proposal.claim.id) s₂ =
        .ok (claim, s') := by
    dsimp only at h
    split at h
    · obtain ⟨_, s₂, hlinks, h⟩ := Txn.bind_ok.mp h
      obtain ⟨hclaims, hrows⟩ := addLinks_ok hlinks
      exact ⟨s₂, hclaims, hrows, h⟩
    · rename_i hnil
      refine ⟨s₁, rfl, ?_, h⟩
      rw [settledLinks, not_not.mp hnil, List.append_nil]
  obtain ⟨hresult, hlinks', hrows'⟩ := completeClaim_ok (hclaims₂ ▸ hrows₁) hcomplete
  refine ⟨hresult, ?_, ?_⟩
  · rw [hrows', hresult]
  · rw [hlinks', hlinks₂, hlinks₁]

/-- **What the pipeline leaves behind**: each proposal of the ledger settled, in order. -/
theorem buildAndValidate_ok {runId : Uuid} {mode : ResearchMode}
    {evidence : List ResearchEvidenceRecord} {claims : List ResearchClaimRecord}
    {s s' : ClaimStore}
    (h : buildAndValidate hash parsers supply runId mode evidence s = .ok (claims, s')) :
    ∃ proposals, proposeClaims parsers supply mode runId evidence = .ok proposals ∧
      claims = proposals.map (settled parsers supply (mode = .realResearch) evidence) ∧
      s'.claims.rows.map (·.claim) = s.claims.rows.map (·.claim) ++ claims ∧
      s'.links.rows = s.links.rows ++
        proposals.flatMap (settledLinks parsers supply (mode = .realResearch) evidence) := by
  rw [buildAndValidate, lift_bind_ok] at h
  obtain ⟨proposals, hproposals, h⟩ := h
  refine ⟨proposals, hproposals, ?_⟩
  clear hproposals
  induction proposals generalizing s claims with
  | nil =>
      cases h
      simp
  | cons proposal proposals ih =>
      rw [List.mapM_cons] at h
      obtain ⟨claim, s₁, hsettle, h⟩ := Txn.bind_ok.mp h
      obtain ⟨claims', s₂, hrest, hret⟩ := Txn.bind_ok.mp h
      cases hret
      obtain ⟨hclaim, hrows, hlinks⟩ := settle_ok hsettle
      obtain ⟨hclaims, hrows', hlinks'⟩ := ih hrest
      refine ⟨by rw [hclaim, hclaims, List.map_cons], ?_, ?_⟩
      · rw [hrows', hrows]
        simp
      · rw [hlinks', hlinks, List.flatMap_cons, List.append_assoc]

end Stored

end StockResearch.ResearchAgent
