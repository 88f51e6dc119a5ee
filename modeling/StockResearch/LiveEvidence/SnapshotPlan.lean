import StockResearch.LiveEvidence.Database
import StockResearch.Providers.Records

/-!
# Snapshot plans

`SnapshotPlanRegistry`: a plan is sealed with a checksum over its request part, the status and the
warning codes that planning derives from it, and the registry's identity.  `create` builds a
snapshot from a plan that it is handed.  To check the plan, it plans the request part again and
compares checksums.

What is compared is the checksum of the *recomputed* status; the plan's own `status` and
`warning_codes` are never compared with it.  `create_exact_iff` says for every plan whether this
matters: accepting a plan means it is the recomputed one exactly when its status and warning codes
are the derived ones, or `create` refuses it on other grounds.  `not_exact_tampered` is a plan that
planning seals `BLOCKED` and that is built as `COMPLETE`.
-/

namespace StockResearch.LiveEvidence

open PyJson

/-! ## The schemas -/

/-- What the platform decides: how an instant is written in JSON, and what a decimal digit is. -/
structure Platform where
  jsonTime : Timestamp → String
  isDecimal : Char → Bool

/-- `^[A-Z][A-Z0-9_]{2,63}$` -/
def stableCode (s : String) : Bool :=
  match s.toList with
  | [] => false
  | c :: cs => c.isUpper && (2 ≤ cs.length && cs.length ≤ 63) &&
      cs.all fun c => c.isUpper || c.isDigit || c == '_'

/-- `^[0-9a-f]{64}$` -/
def isChecksum (s : String) : Bool :=
  s.toList.length == 64 && s.toList.all fun c => c.isDigit || ('a' ≤ c && c ≤ 'f')

/-- `^\d+\.\d+\.\d+$` -/
def semanticVersion (platform : Platform) (s : String) : Bool :=
  match s.toList.splitOn '.' with
  | [major, minor, patch] => [major, minor, patch].all fun part =>
      part ≠ [] && part.all platform.isDecimal
  | _ => false

/-- Identifiers that are unique and sorted by their text. -/
def UniqueSorted (ids : List Uuid) : Prop := ids.Pairwise fun a b => a.str < b.str

instance (ids : List Uuid) : Decidable (UniqueSorted ids) :=
  inferInstanceAs (Decidable (ids.Pairwise _))

inductive EvidenceSourceType where
  | providerLive | manualImport | syntheticTest | offlineFixture
deriving DecidableEq, Repr

def EvidenceSourceType.value : EvidenceSourceType → String
  | .providerLive => "PROVIDER_LIVE"
  | .manualImport => "MANUAL_IMPORT"
  | .syntheticTest => "SYNTHETIC_TEST"
  | .offlineFixture => "OFFLINE_FIXTURE"

structure SnapshotManifestReference where
  manifestId : Uuid
  manifestChecksum : String
  approved : Bool
  licenseAllowed : Bool
deriving DecidableEq, Repr

structure SnapshotTemporalEvidence where
  evidenceId : Uuid
  scopeAsOfTime : Timestamp
  publishedAt : Option Timestamp
  filedAt : Option Timestamp
  factAvailableAt : Option Timestamp
  importedAt : Timestamp
  requiresPublicationTime : Bool
deriving DecidableEq, Repr

structure SnapshotScopeEvidence where
  evidenceId : Uuid
  evidenceKind : String
  securityId : Uuid
  issuerId : Uuid
deriving DecidableEq, Repr

structure SnapshotSyntheticEvidence where
  evidenceId : Uuid
  sourceType : EvidenceSourceType
  syntheticStatus : Providers.ProviderSyntheticStatus
  companyEvidenceStatus : String
  securityIsNeutralSynthetic : Bool
  offline : Bool
  notLive : Bool
deriving DecidableEq, Repr

/-- `Literal["REAL_COMPANY", "TEST_ONLY"]` -/
inductive ExecutionMode where
  | realCompany | testOnly
deriving DecidableEq, Repr

def ExecutionMode.value : ExecutionMode → String
  | .realCompany => "REAL_COMPANY"
  | .testOnly => "TEST_ONLY"

structure SnapshotFromIngestionPlanRequest where
  securityId : Uuid
  issuerId : Uuid
  researchAsOfTime : Timestamp
  manifests : List SnapshotManifestReference
  documentVersionIds : List Uuid
  financialFactIds : List Uuid
  mappingVersionIds : List Uuid
  formulaVersionIds : List Uuid
  requiredInputKinds : List String
  availableInputKinds : List String
  temporalEvidence : List SnapshotTemporalEvidence
  scopeEvidence : List SnapshotScopeEvidence
  syntheticEvidence : List SnapshotSyntheticEvidence
  executionMode : ExecutionMode
  strictPublication : Bool
  plannerVersion : String
deriving DecidableEq, Repr

/-- Input kinds: unique, sorted, stable codes. -/
def InputKinds (kinds : List String) : Prop :=
  kinds.Pairwise (· < ·) ∧ ∀ kind ∈ kinds, stableCode kind = true

instance (kinds : List String) : Decidable (InputKinds kinds) :=
  inferInstanceAs (Decidable (_ ∧ _))

/-- The validators of `SnapshotFromIngestionPlanRequest`. -/
def SnapshotFromIngestionPlanRequest.Valid (platform : Platform)
    (r : SnapshotFromIngestionPlanRequest) : Prop :=
  (1 ≤ r.manifests.length ∧ r.manifests.length ≤ 128 ∧
    UniqueSorted (r.manifests.map (·.manifestId)) ∧
    ∀ m ∈ r.manifests, isChecksum m.manifestChecksum = true) ∧
  (r.documentVersionIds.length ≤ 512 ∧ UniqueSorted r.documentVersionIds) ∧
  (r.financialFactIds.length ≤ 4096 ∧ UniqueSorted r.financialFactIds) ∧
  (r.mappingVersionIds.length ≤ 512 ∧ UniqueSorted r.mappingVersionIds) ∧
  (r.formulaVersionIds.length ≤ 512 ∧ UniqueSorted r.formulaVersionIds) ∧
  (1 ≤ r.requiredInputKinds.length ∧ r.requiredInputKinds.length ≤ 16 ∧
    InputKinds r.requiredInputKinds) ∧
  (r.availableInputKinds.length ≤ 16 ∧ InputKinds r.availableInputKinds) ∧
  (r.temporalEvidence.length ≤ 4096 ∧ UniqueSorted (r.temporalEvidence.map (·.evidenceId))) ∧
  (r.scopeEvidence.length ≤ 4096 ∧ UniqueSorted (r.scopeEvidence.map (·.evidenceId)) ∧
    ∀ e ∈ r.scopeEvidence, stableCode e.evidenceKind = true) ∧
  (r.syntheticEvidence.length ≤ 4096 ∧ UniqueSorted (r.syntheticEvidence.map (·.evidenceId)) ∧
    ∀ e ∈ r.syntheticEvidence, stableCode e.companyEvidenceStatus = true) ∧
  semanticVersion platform r.plannerVersion = true

instance (platform : Platform) (r : SnapshotFromIngestionPlanRequest) :
    Decidable (r.Valid platform) :=
  inferInstanceAs (Decidable (_ ∧ _))

/-- `Literal["READY", "PARTIAL", "BLOCKED"]` -/
inductive PlanStatus where
  | ready | partly | blocked
deriving DecidableEq, Repr

def PlanStatus.value : PlanStatus → String
  | .ready => "READY"
  | .partly => "PARTIAL"
  | .blocked => "BLOCKED"

structure SnapshotFromIngestionPlan where
  request : SnapshotFromIngestionPlanRequest
  status : PlanStatus
  warningCodes : List String
  planChecksum : String
  registryId : String
  registryVersion : String
  registryChecksum : String
  registrySignature : String
deriving DecidableEq, Repr

/-! ## Planning -/

/-- The warning codes of a `BLOCKED` decision, or nothing for a `PASS`. -/
abbrev Decision := Option (List String)

def validateTemporalScope (r : SnapshotFromIngestionPlanRequest) : Decision :=
  if r.temporalEvidence.any fun e => e.scopeAsOfTime ≠ r.researchAsOfTime then
    some ["AS_OF_MISMATCH"]
  else if r.strictPublication && r.temporalEvidence.any fun e =>
      e.requiresPublicationTime && e.publishedAt = none then
    some ["SOURCE_PUBLISHED_AT_UNKNOWN_STRICT"]
  else if r.temporalEvidence.any fun e =>
      [e.publishedAt, e.filedAt, e.factAvailableAt].any fun t =>
        t.any fun t => r.researchAsOfTime < t then
    some ["FUTURE_DATA"]
  else none

def validateSecurityScope (r : SnapshotFromIngestionPlanRequest) : Decision :=
  if r.scopeEvidence.any fun e => e.securityId ≠ r.securityId then
    some ["SNAPSHOT_SECURITY_MISMATCH"]
  else if r.scopeEvidence.any fun e => e.issuerId ≠ r.issuerId then
    some ["SNAPSHOT_ISSUER_MISMATCH"]
  else none

def validateSyntheticScope (r : SnapshotFromIngestionPlanRequest) : Decision :=
  let fixturePresent := r.syntheticEvidence.any fun e =>
    e.sourceType = .offlineFixture || e.syntheticStatus = .fixtureRealExcerpt
  let syntheticPresent := r.syntheticEvidence.any fun e =>
    e.sourceType = .syntheticTest || e.syntheticStatus = .syntheticTestOnly
  let notTestOnly := r.syntheticEvidence.any fun e =>
    e.sourceType ≠ .syntheticTest || e.syntheticStatus ≠ .syntheticTestOnly ||
      e.companyEvidenceStatus ≠ "NOT_COMPANY_EVIDENCE" || !e.securityIsNeutralSynthetic ||
      !e.offline || !e.notLive
  if fixturePresent then some ["FIXTURE_COMPANY_EVIDENCE_FORBIDDEN"]
  else if r.executionMode = .realCompany && syntheticPresent then
    some ["SYNTHETIC_COMPANY_EVIDENCE_FORBIDDEN"]
  else if r.executionMode = .testOnly && notTestOnly then
    some ["SYNTHETIC_COMPANY_EVIDENCE_FORBIDDEN"]
  else none

/-- The status and warning codes that `plan` seals a request with. -/
def derivedStatus (r : SnapshotFromIngestionPlanRequest) : PlanStatus × List String :=
  if r.manifests.any fun m => !m.approved then (.blocked, ["SNAPSHOT_MANIFEST_NOT_APPROVED"])
  else if r.manifests.any fun m => !m.licenseAllowed then (.blocked, ["SNAPSHOT_LICENSE_BLOCKED"])
  else
    match validateTemporalScope r with
    | some codes => (.blocked, codes)
    | none =>
        match validateSecurityScope r with
        | some codes => (.blocked, codes)
        | none =>
            match validateSyntheticScope r with
            | some codes => (.blocked, codes)
            | none =>
                if r.requiredInputKinds.any fun kind => kind ∉ r.availableInputKinds then
                  (if r.availableInputKinds ≠ [] then .partly else .blocked,
                    ["SNAPSHOT_INPUT_INCOMPLETE"])
                else (.ready, [])

/-! ## Sealing -/

structure SnapshotPlanRegistry where
  registryId : String
  registryVersion : String
  registryChecksum : String
deriving DecidableEq, Repr

section Json

variable (platform : Platform)

def textsJson (texts : List String) : Value := .arr (texts.map .str)

def idsJson (ids : List Uuid) : Value := .arr (ids.map fun id => .str id.str)

def timeJson (t : Timestamp) : Value := .str (platform.jsonTime t)

/-- An instant that may be absent. -/
def optionalTimeJson : Option Timestamp → Value
  | none => .null
  | some t => timeJson platform t

def SnapshotManifestReference.json (m : SnapshotManifestReference) : Value :=
  .obj [("manifest_id", .str m.manifestId.str), ("manifest_checksum", .str m.manifestChecksum),
    ("approved", .bool m.approved), ("license_allowed", .bool m.licenseAllowed)]

def SnapshotTemporalEvidence.json (e : SnapshotTemporalEvidence) : Value :=
  .obj [("evidence_id", .str e.evidenceId.str),
    ("scope_as_of_time", timeJson platform e.scopeAsOfTime),
    ("published_at", optionalTimeJson platform e.publishedAt),
    ("filed_at", optionalTimeJson platform e.filedAt),
    ("fact_available_at", optionalTimeJson platform e.factAvailableAt),
    ("imported_at", timeJson platform e.importedAt),
    ("requires_publication_time", .bool e.requiresPublicationTime)]

def SnapshotScopeEvidence.json (e : SnapshotScopeEvidence) : Value :=
  .obj [("evidence_id", .str e.evidenceId.str), ("evidence_kind", .str e.evidenceKind),
    ("security_id", .str e.securityId.str), ("issuer_id", .str e.issuerId.str)]

def SnapshotSyntheticEvidence.json (e : SnapshotSyntheticEvidence) : Value :=
  .obj [("evidence_id", .str e.evidenceId.str), ("source_type", .str e.sourceType.value),
    ("synthetic_status", .str e.syntheticStatus.value),
    ("company_evidence_status", .str e.companyEvidenceStatus),
    ("security_is_neutral_synthetic", .bool e.securityIsNeutralSynthetic),
    ("offline", .bool e.offline), ("not_live", .bool e.notLive)]

/-- `value.model_dump(mode="json")` -/
def SnapshotFromIngestionPlanRequest.fields (r : SnapshotFromIngestionPlanRequest) :
    List (String × Value) :=
  [ ("security_id", .str r.securityId.str),
    ("issuer_id", .str r.issuerId.str),
    ("research_as_of_time", timeJson platform r.researchAsOfTime),
    ("manifests", .arr (r.manifests.map (·.json))),
    ("document_version_ids", idsJson r.documentVersionIds),
    ("financial_fact_ids", idsJson r.financialFactIds),
    ("mapping_version_ids", idsJson r.mappingVersionIds),
    ("formula_version_ids", idsJson r.formulaVersionIds),
    ("required_input_kinds", textsJson r.requiredInputKinds),
    ("available_input_kinds", textsJson r.availableInputKinds),
    ("temporal_evidence", .arr (r.temporalEvidence.map (·.json platform))),
    ("scope_evidence", .arr (r.scopeEvidence.map (·.json))),
    ("synthetic_evidence", .arr (r.syntheticEvidence.map (·.json))),
    ("execution_mode", .str r.executionMode.value),
    ("strict_publication", .bool r.strictPublication),
    ("planner_version", .str r.plannerVersion) ]

end Json

variable (platform : Platform) (hash : IdealHash)

namespace SnapshotPlanRegistry

variable (registry : SnapshotPlanRegistry)

/-- `_seal` -/
def sealPlan (r : SnapshotFromIngestionPlanRequest) (status : PlanStatus) (warningCodes : List String) :
    SnapshotFromIngestionPlan :=
  let payload : Value := .obj (r.fields platform ++
    [ ("status", .str status.value), ("warning_codes", textsJson warningCodes),
      ("registry_id", .str registry.registryId), ("registry_version", .str registry.registryVersion),
      ("registry_checksum", .str registry.registryChecksum) ])
  let planChecksum := hash.digest (asciiText payload)
  { request := r, status, warningCodes, planChecksum
    registryId := registry.registryId
    registryVersion := registry.registryVersion
    registryChecksum := registry.registryChecksum
    registrySignature := hash.digest (registry.registryChecksum.toList ++ ':' :: planChecksum.toList) }

def plan (r : SnapshotFromIngestionPlanRequest) : SnapshotFromIngestionPlan :=
  registry.sealPlan platform hash r (derivedStatus r).1 (derivedStatus r).2

end SnapshotPlanRegistry

/-! ## Building -/

/-- `Literal["COMPLETE", "PARTIAL"]` -/
inductive BuildStatus where
  | complete | partly
deriving DecidableEq, Repr

/-- The fields of `SnapshotBuildRequest` that `create` compares with the plan. -/
structure SnapshotBuildRequest where
  securityId : Uuid
  researchAsOfTime : Timestamp
deriving DecidableEq, Repr

/-- The fields of `SnapshotBuildResult` that `create` reads. -/
structure SnapshotBuildResult where
  snapshotId : Uuid
  snapshotSecurityId : Uuid
  completedAt : Option Timestamp
  status : BuildStatus
  checksum : String
deriving DecidableEq, Repr

structure IngestionSnapshotBinding where
  id : Uuid
  manifestId : Uuid
  manifestChecksum : String
  securityId : Uuid
  snapshotId : Uuid
  snapshotChecksum : String
  researchAsOfTime : Timestamp
  boundAt : Timestamp
  bindingChecksum : String
deriving DecidableEq, Repr

structure SnapshotFromIngestionResult where
  snapshot : SnapshotBuildResult
  bindings : List IngestionSnapshotBinding
  status : BuildStatus
  planChecksum : String
deriving DecidableEq, Repr

def bindingChecksum (p : SnapshotFromIngestionPlan) (built : SnapshotBuildResult)
    (boundAt : Timestamp) (m : SnapshotManifestReference) : String :=
  hash.digest (asciiText (.obj
    [ ("manifest_id", .str m.manifestId.str),
      ("manifest_checksum", .str m.manifestChecksum),
      ("manifest_security_id", .str p.request.securityId.str),
      ("snapshot_id", .str built.snapshotId.str),
      ("snapshot_checksum", .str built.checksum),
      ("snapshot_security_id", .str built.snapshotSecurityId.str),
      ("security_id", .str p.request.securityId.str),
      ("research_as_of_time", timeJson platform p.request.researchAsOfTime),
      ("source_published_at", .null),
      ("bound_at", timeJson platform boundAt) ]))

/-- `bind_manifest_to_snapshot` of every manifest; `bindingId` draws the identifiers. -/
def bindManifests (p : SnapshotFromIngestionPlan) (built : SnapshotBuildResult)
    (boundAt : Timestamp) (bindingId : Nat → Uuid) : Except Raised (List IngestionSnapshotBinding) :=
  if p.request.securityId ≠ built.snapshotSecurityId then
    .error (.validation "SNAPSHOT_BINDING_SCOPE_MISMATCH")
  else
    .ok (p.request.manifests.mapIdx fun i m =>
      { id := bindingId i, manifestId := m.manifestId, manifestChecksum := m.manifestChecksum
        securityId := p.request.securityId, snapshotId := built.snapshotId
        snapshotChecksum := built.checksum, researchAsOfTime := p.request.researchAsOfTime
        boundAt, bindingChecksum := bindingChecksum platform hash p built boundAt m })

/-- `except LiveEvidenceValidationError: raise`, and everything else becomes a persistence
failure. -/
def persistenceRaise : Raised → Raised
  | .validation code => .validation code
  | _ => .validation "SNAPSHOT_PERSISTENCE_FAILED"

/-- The body of the `try`. -/
def buildAndBind (p : SnapshotFromIngestionPlan) (buildRequest : SnapshotBuildRequest)
    (builder : SnapshotBuildRequest → Except Raised SnapshotBuildResult) (bindingId : Nat → Uuid) :
    Except Raised (SnapshotBuildResult × List IngestionSnapshotBinding) := do
  let built ← builder buildRequest
  match built.completedAt with
  | none => .error (.value "terminal snapshot is missing completed_at")
  | some boundAt =>
      if isChecksum built.checksum then
        let bindings ← bindManifests platform hash p built boundAt bindingId
        pure (built, bindings)
      else .error (.value "snapshot_checksum must be sha256")

namespace SnapshotPlanRegistry

variable (registry : SnapshotPlanRegistry)

/-- The plan itself is refused, whatever is to be built. -/
def refuses (p : SnapshotFromIngestionPlan) : Prop :=
  p.status = .blocked ∨
    p.planChecksum ≠ (registry.plan platform hash p.request).planChecksum ∨
    p.registrySignature ≠ (registry.plan platform hash p.request).registrySignature ∨
    p.registryId ≠ registry.registryId ∨ p.registryVersion ≠ registry.registryVersion ∨
    p.registryChecksum ≠ registry.registryChecksum

instance (p : SnapshotFromIngestionPlan) : Decidable (registry.refuses platform hash p) :=
  inferInstanceAs (Decidable (_ ∨ _))

/-- `SnapshotPlanRegistry.create` -/
def create (p : SnapshotFromIngestionPlan) (buildRequest : SnapshotBuildRequest)
    (builder : SnapshotBuildRequest → Except Raised SnapshotBuildResult) (bindingId : Nat → Uuid) :
    Except Raised SnapshotFromIngestionResult :=
  if ¬ p.request.Valid platform then .error (.value "the plan's request part is not valid")
  else if registry.refuses platform hash p ∨ buildRequest.securityId ≠ p.request.securityId ∨
      buildRequest.researchAsOfTime ≠ p.request.researchAsOfTime then
    .error (.validation "SNAPSHOT_PLAN_CHECKSUM_MISMATCH")
  else
    match buildAndBind platform hash p buildRequest builder bindingId with
    | .error raised => .error (persistenceRaise raised)
    | .ok (built, bindings) =>
        .ok { snapshot := built, bindings
              status := if p.status = .partly ∨ built.status = .partly then .partly else .complete
              planChecksum := p.planChecksum }

/-! ## What acceptance says about a plan -/

/-- Whenever the plan is accepted, it is the one that planning computes from its request part,
planning does not seal that `BLOCKED`, and the result is `COMPLETE` only for a `READY` plan and a
`COMPLETE` build. -/
def Exact (p : SnapshotFromIngestionPlan) : Prop :=
  ∀ buildRequest builder bindingId result,
    registry.create platform hash p buildRequest builder bindingId = .ok result →
      p = registry.plan platform hash p.request ∧
      (registry.plan platform hash p.request).status ≠ .blocked ∧
      (result.status = .complete → (registry.plan platform hash p.request).status = .ready ∧
        ∃ built, builder buildRequest = .ok built ∧ built.status = .complete)

variable {platform hash registry} {p : SnapshotFromIngestionPlan}

lemma buildAndBind_ok {buildRequest : SnapshotBuildRequest}
    {builder : SnapshotBuildRequest → Except Raised SnapshotBuildResult} {bindingId : Nat → Uuid}
    {built : SnapshotBuildResult} {bindings : List IngestionSnapshotBinding}
    (h : buildAndBind platform hash p buildRequest builder bindingId = .ok (built, bindings)) :
    builder buildRequest = .ok built := by
  cases hbuilt : builder buildRequest with
  | error raised => simp [buildAndBind, hbuilt, bind, Except.bind] at h
  | ok built' =>
      simp only [buildAndBind, hbuilt, bind, Except.bind] at h
      split at h
      · cases h
      · split at h
        · split at h
          · cases h
          · cases h
            rfl
        · cases h

/-- What an accepted plan has passed. -/
lemma create_ok {buildRequest : SnapshotBuildRequest}
    {builder : SnapshotBuildRequest → Except Raised SnapshotBuildResult} {bindingId : Nat → Uuid}
    {result : SnapshotFromIngestionResult}
    (h : registry.create platform hash p buildRequest builder bindingId = .ok result) :
    p.request.Valid platform ∧ ¬ registry.refuses platform hash p ∧
      ∃ built, builder buildRequest = .ok built ∧
        result.status = (if p.status = .partly ∨ built.status = .partly then .partly
          else .complete) := by
  unfold create at h
  split at h
  · cases h
  · rename_i hvalid
    split at h
    · cases h
    · rename_i hchecks
      rw [not_or] at hchecks
      split at h
      · cases h
      · rename_i built bindings hbuild
        cases h
        exact ⟨not_not.mp hvalid, hchecks.1, built, buildAndBind_ok hbuild, rfl⟩

/-- Everything but the status and the warning codes of a plan that is not refused is as planned. -/
lemma eq_plan_iff (h : ¬ registry.refuses platform hash p) :
    p = registry.plan platform hash p.request ↔
      p.status = (derivedStatus p.request).1 ∧ p.warningCodes = (derivedStatus p.request).2 := by
  simp only [refuses, not_or, ne_eq, not_not] at h
  obtain ⟨-, hchecksum, hsignature, hid, hversion, hregistry⟩ := h
  constructor
  · intro hp
    exact ⟨congrArg SnapshotFromIngestionPlan.status hp,
      congrArg SnapshotFromIngestionPlan.warningCodes hp⟩
  · rintro ⟨hstatus, hcodes⟩
    cases p
    simp only [plan, sealPlan] at hchecksum hsignature hid hversion hregistry hstatus hcodes ⊢
    subst hchecksum hsignature hid hversion hregistry hstatus hcodes
    rfl

/-- A builder that builds the snapshot it is asked for. -/
def completeBuilder (r : SnapshotBuildRequest) : Except Raised SnapshotBuildResult :=
  .ok { snapshotId := 0, snapshotSecurityId := r.securityId, completedAt := some 0
        status := .complete, checksum := String.ofList (List.replicate 64 '0') }

/-- A plan that is valid and not refused can be built. -/
lemma create_completeBuilder (hvalid : p.request.Valid platform)
    (hrefused : ¬ registry.refuses platform hash p) :
    ∃ result, registry.create platform hash p
      { securityId := p.request.securityId, researchAsOfTime := p.request.researchAsOfTime }
      completeBuilder (fun _ => 0) = .ok result ∧
      result.status = if p.status = .partly then .partly else .complete := by
  have hchecksum : isChecksum (String.ofList (List.replicate 64 '0')) = true := by decide
  unfold create
  rw [if_neg (not_not.mpr hvalid), if_neg (by simpa using hrefused)]
  simp only [buildAndBind, completeBuilder, bind, Except.bind, hchecksum, if_true, bindManifests,
    ne_eq, not_true_eq_false, if_false, pure, Except.pure, reduceCtorEq, or_false]
  exact ⟨_, rfl, rfl⟩

lemma ready_of_ne {status : PlanStatus} (hblocked : status ≠ .blocked) (hpartly : status ≠ .partly) :
    status = .ready := by
  cases status <;> simp at hblocked hpartly ⊢

lemma complete_of_ne {status : BuildStatus} (hpartly : status ≠ .partly) : status = .complete := by
  cases status <;> simp at hpartly ⊢

/-- **When acceptance is exact.**  A plan is accepted only as the one that planning computes if and
only if its status and warning codes are the derived ones, or it is refused anyway. -/
theorem create_exact_iff (platform : Platform) (hash : IdealHash) (registry : SnapshotPlanRegistry)
    (p : SnapshotFromIngestionPlan) :
    registry.Exact platform hash p ↔
      (p.status = (derivedStatus p.request).1 ∧ p.warningCodes = (derivedStatus p.request).2) ∨
        registry.refuses platform hash p ∨ ¬ p.request.Valid platform := by
  constructor
  · intro hexact
    by_cases hrefused : registry.refuses platform hash p
    · exact .inr (.inl hrefused)
    by_cases hvalid : p.request.Valid platform
    · obtain ⟨result, hcreate, -⟩ := create_completeBuilder hvalid hrefused
      exact .inl ((eq_plan_iff hrefused).mp (hexact _ _ _ _ hcreate).1)
    · exact .inr (.inr hvalid)
  · rintro (hderived | hrefused | hvalid) buildRequest builder bindingId result hcreate
    · obtain ⟨-, hrefused, built, hbuilt, hstatus⟩ := create_ok hcreate
      have hplan := (eq_plan_iff hrefused).mpr hderived
      have hnotBlocked : p.status ≠ .blocked := fun h => hrefused (.inl h)
      refine ⟨hplan, hplan ▸ hnotBlocked, ?_⟩
      intro hcomplete
      rw [hcomplete] at hstatus
      have hnotPartial : ¬ (p.status = .partly ∨ built.status = .partly) := by
        intro h
        rw [if_pos h] at hstatus
        cases hstatus
      rw [not_or] at hnotPartial
      refine ⟨?_, built, hbuilt, ?_⟩
      · rw [← hplan]
        exact ready_of_ne hnotBlocked hnotPartial.1
      · exact complete_of_ne hnotPartial.2
    · exact absurd hrefused (create_ok hcreate).2.1
    · exact absurd (create_ok hcreate).1 hvalid

/-- A request whose only manifest was not approved. -/
def unapprovedRequest : SnapshotFromIngestionPlanRequest where
  securityId := 1
  issuerId := 2
  researchAsOfTime := 10
  manifests := [{ manifestId := 3, manifestChecksum := String.ofList (List.replicate 64 'a')
                  approved := false, licenseAllowed := true }]
  documentVersionIds := []
  financialFactIds := []
  mappingVersionIds := []
  formulaVersionIds := []
  requiredInputKinds := ["DOCUMENT"]
  availableInputKinds := ["DOCUMENT"]
  temporalEvidence := []
  scopeEvidence := []
  syntheticEvidence := []
  executionMode := .realCompany
  strictPublication := true
  plannerVersion := "1.0.0"

def samplePlatform : Platform where
  jsonTime t := toString t
  isDecimal := Char.isDigit

def sampleRegistry : SnapshotPlanRegistry where
  registryId := "SNAPSHOT_PLAN_REGISTRY"
  registryVersion := "1.0.0"
  registryChecksum := String.ofList (List.replicate 64 'f')

/-- The sealed plan of the unapproved request with its status altered to `READY`. -/
def tamperedPlan : SnapshotFromIngestionPlan :=
  { sampleRegistry.plan samplePlatform default unapprovedRequest with
    status := .ready, warningCodes := [] }

/-- **A plan that planning seals `BLOCKED` is built as `COMPLETE`** once its status is altered. -/
theorem not_exact_tampered :
    (sampleRegistry.plan samplePlatform default unapprovedRequest).status = .blocked ∧
      (∃ result, sampleRegistry.create samplePlatform default tamperedPlan
          { securityId := 1, researchAsOfTime := 10 } completeBuilder (fun _ => 0) = .ok result ∧
        result.status = .complete) ∧
      ¬ sampleRegistry.Exact samplePlatform default tamperedPlan := by
  have hvalid : unapprovedRequest.Valid samplePlatform := by decide +kernel
  have hrefused : ¬ sampleRegistry.refuses samplePlatform default tamperedPlan := by
    simp only [refuses, not_or, ne_eq, not_not]
    exact ⟨by simp [tamperedPlan], rfl, rfl, rfl, rfl, rfl⟩
  obtain ⟨result, hcreate, hstatus⟩ := create_completeBuilder hvalid hrefused
  refine ⟨rfl, ⟨result, hcreate, hstatus⟩, ?_⟩
  intro hexact
  obtain ⟨-, hblocked, -⟩ := hexact _ _ _ _ hcreate
  exact hblocked rfl

end SnapshotPlanRegistry

end StockResearch.LiveEvidence
