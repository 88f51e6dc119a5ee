import StockResearch.Core.Registry
import StockResearch.Providers.Records
import StockResearch.Securities.Master

/-!
# The security-master bridge

`SecurityMasterProviderBridge.stage` reads the identifiers and aliases of a verified batch, compares
them with the owners that the repository knows and with the ones that it has planned in the same
call, and appends what is new once every record has been read.

**The plan.**  For a key, the dictionaries of planned owners hold the last security only.  `Planned`
says where the loop over the records stands: for the identifiers and for the aliases it is a run of
`Registry` over the claims that the records make.

* **`stage_law`**: what a call appends, in which repositories and for which batches it appends
  nothing twice and leaves one owner a key, and that it appends nothing when it raises.
* `alternating_aliases_appended_twice`: two securities that share a name and take turns.
-/

namespace StockResearch.Providers

open PyText PyTime Checked Securities Registry

/-! ## Values -/

/-- The standard library as the bridges call it. -/
structure BridgeLibrary where
  /-- The Unicode character database. -/
  unicode : Unicode
  /-- `UUID(text)` -/
  uuid : String → Option Uuid
  /-- `build_provider_batch_checksum` -/
  batchChecksum : List ProviderRecord → String

/-- The fields of `ProviderIngestionManifestRecord` that the bridges read. -/
structure ProviderIngestionManifestRecord where
  id : Uuid
  rawArtifactId : Uuid
  batchChecksum : String
  recordCount : Nat
  sourcePublishedAt : Option Instant
  syntheticStatus : ProviderSyntheticStatus
  manifestChecksum : String

/-- `value > bound` for an optional time. -/
def laterThan (bound : Instant) (value : Option Instant) : Prop := ∃ t ∈ value, bound < t

instance (bound : Instant) (value : Option Instant) : Decidable (laterThan bound value) :=
  decidable_of_iff (value.any (bound < ·) = true) (by simp [laterThan, Option.any_eq_true])

/-- The statuses that are refused for a write. -/
def notReal (status : ProviderSyntheticStatus) : Prop :=
  status = .syntheticTestOnly ∨ status = .unknown

instance (status : ProviderSyntheticStatus) : Decidable (notReal status) :=
  inferInstanceAs (Decidable (_ ∨ _))

/-- `SecurityMasterBinding` -/
structure SecurityMasterBinding where
  marketCode : String
  exchangeMic : String
deriving DecidableEq

/-- `SecurityIdentifierAppend` -/
structure SecurityIdentifierAppend where
  securityId : Uuid
  scheme : String
  value : String
  normalizedValue : Text
  sourceName : String
deriving DecidableEq

/-- `SecurityAliasAppend` -/
structure SecurityAliasAppend where
  securityId : Uuid
  aliasText : String
  normalizedAlias : Text
  aliasType : SecurityAliasType
  locale : Option String
  sourceName : String
deriving DecidableEq

abbrev IdentifierKey := String × Text

abbrev AliasKey := SecurityAliasType × Text

/-- The key of an identifier and the security that it is given to. -/
def SecurityIdentifierAppend.claim (i : SecurityIdentifierAppend) : IdentifierKey × Uuid :=
  ((i.scheme, i.normalizedValue), i.securityId)

/-- The key of an alias and the security that it is given to. -/
def SecurityAliasAppend.claim (a : SecurityAliasAppend) : AliasKey × Uuid :=
  ((a.aliasType, a.normalizedAlias), a.securityId)

/-- `SecurityMasterBridgeContext` -/
structure SecurityMasterBridgeContext where
  providerCode : String
  researchAsOfTime : Instant
  derivedUseApproved : Bool

/-- `SecurityMasterBridgeResult` -/
structure SecurityMasterBridgeResult where
  securityIds : List Uuid
  appendedIdentifierCount : Nat
  appendedAliasCount : Nat
  existingRecordCount : Nat
  manifestId : Uuid
  manifestChecksum : String
deriving DecidableEq

/-- `SecurityMasterBridgeRepository`: the bindings, and the identifiers and aliases in the order in
which they were appended. -/
structure SecurityMasterRepository where
  getSecurityBinding : Uuid → Option SecurityMasterBinding
  identifiers : List SecurityIdentifierAppend
  aliases : List SecurityAliasAppend

namespace SecurityMasterRepository

variable (repository : SecurityMasterRepository)

/-- The securities that an identifier is given to. -/
def identifierOwners (key : IdentifierKey) : List Uuid :=
  ((repository.identifiers.map (·.claim)).filter fun c => c.1 = key).map Prod.snd

def findIdentifierOwner (key : IdentifierKey) : Option Uuid := (repository.identifierOwners key).head?

def findAliasOwners (key : AliasKey) : List Uuid :=
  ((repository.aliases.map (·.claim)).filter fun c => c.1 = key).map Prod.snd

def appendIdentifier (i : SecurityIdentifierAppend) : SecurityMasterRepository :=
  { repository with identifiers := repository.identifiers ++ [i] }

def appendAlias (a : SecurityAliasAppend) : SecurityMasterRepository :=
  { repository with aliases := repository.aliases ++ [a] }

end SecurityMasterRepository

/-! ## One record -/

section Stage

variable (library : BridgeLibrary)

/-- An error of a normalizer is a `ValueError` of the bridge. -/
def orValueError {α : Type} : Except Failure α → Except Raised α
  | .ok a => .ok a
  | .error (.invalidQuery message) => .error (.value message)
  | .error (.validation message) => .error (.validation message)

/-- `^[A-Z][A-Z0-9_]{2,63}$` -/
def isCode (text : String) : Bool :=
  match text.toList with
  | [] => false
  | c :: cs => c.isUpper && 2 ≤ cs.length && cs.length ≤ 63 &&
      cs.all fun d => d.isUpper || d.isDigit || d == '_'

def normalizeExternalIdentifier (u : Unicode) (scheme value : Text) : Except Failure Text := do
  let checked ← nfkcChecked u scheme
  check (['_'].intercalate (split (u.upper (strip checked))) ≠ "SEC_CIK".toList)
    (.invalidQuery "external identifier scheme is not supported")
  Securities.normalizeExternalIdentifier u value

/-- `1 ≤ len(text) ≤ 256` -/
def isBounded (length : Nat) : Prop := 1 ≤ length ∧ length ≤ 256

instance (length : Nat) : Decidable (isBounded length) := inferInstanceAs (Decidable (_ ∧ _))

/-- `SecurityIdentifierAppend(…)` -/
def SecurityIdentifierAppend.create (i : SecurityIdentifierAppend) :
    Except Raised SecurityIdentifierAppend := do
  check (¬ (isCode i.scheme ∧ isBounded i.value.length ∧ isBounded i.normalizedValue.length ∧
    isBounded i.sourceName.length)) (.validation "SecurityIdentifierAppend")
  pure i

/-- `SecurityAliasAppend(…)` -/
def SecurityAliasAppend.create (a : SecurityAliasAppend) : Except Raised SecurityAliasAppend := do
  check (¬ (isBounded a.aliasText.length ∧ isBounded a.normalizedAlias.length ∧
    (a.locale.all fun l => l.length ≤ 32) ∧ isBounded a.sourceName.length))
    (.validation "SecurityAliasAppend")
  pure a

/-- The checks of a record up to its security. -/
def checkRecord (manifest : ProviderIngestionManifestRecord) (context : SecurityMasterBridgeContext)
    (binding : Uuid → Option SecurityMasterBinding) (record : ProviderRecord) :
    Except Raised Uuid := do
  check (record.rawArtifactId ≠ manifest.rawArtifactId)
    (.value "SECURITY_MASTER_RAW_ARTIFACT_MISMATCH")
  check (record.syntheticStatus ≠ manifest.syntheticStatus)
    (.value "SECURITY_MASTER_SYNTHETIC_STATUS_MISMATCH")
  check (laterThan context.researchAsOfTime record.sourcePublishedAt)
    (.value "SECURITY_MASTER_FUTURE_DATA")
  check (record.status = .missing) (.value "SECURITY_MASTER_RECORD_NOT_VERIFIED")
  check (record.text "verification_status" ≠ some "VERIFIED")
    (.value "SECURITY_MASTER_RECORD_NOT_VERIFIED")
  let securityId ← require ((record.text "security_id").bind library.uuid)
    (.value "SECURITY_MAPPING_NOT_FOUND")
  let bound ← require (binding securityId) (.value "SECURITY_MAPPING_NOT_FOUND")
  check (record.text "market_code" ≠ some bound.marketCode) (.value "SECURITY_MARKET_MISMATCH")
  check (record.text "exchange_mic" ≠ some bound.exchangeMic) (.value "SECURITY_EXCHANGE_MISMATCH")
  pure securityId

/-- The identifier that a record states: its key and its text. -/
def readIdentifier (record : ProviderRecord) : Except Raised (Option (IdentifierKey × String)) :=
  match record.text "identifier_scheme", record.text "identifier_value" with
  | none, none => .ok none
  | some scheme, some value => do
      let normalized ← orValueError
        (normalizeExternalIdentifier library.unicode scheme.toList value.toList)
      pure (some ((scheme, normalized), value))
  | _, _ => .error (.value "SECURITY_IDENTIFIER_INCOMPLETE")

/-- `SecurityAliasType(value)` -/
def SecurityAliasType.ofValue : String → Option SecurityAliasType
  | "SYMBOL" => some .symbol
  | "SYMBOL_WITH_EXCHANGE" => some .symbolWithExchange
  | "COMPANY_SHORT_NAME" => some .companyShortName
  | "LEGAL_NAME" => some .legalName
  | "ENGLISH_NAME" => some .englishName
  | "PROVIDER_SYMBOL" => some .providerSymbol
  | "FORMER_NAME" => some .formerName
  | _ => none

/-- The alias that a record states: its key and its text. -/
def readAlias (record : ProviderRecord) : Except Raised (Option (AliasKey × String)) :=
  match record.text "alias", record.text "alias_type" with
  | none, none => .ok none
  | some aliasText, some aliasTypeValue => do
      let aliasType ← require (SecurityAliasType.ofValue aliasTypeValue)
        (.value "SECURITY_ALIAS_TYPE_INVALID")
      let normalized ← orValueError (storedForm library.unicode aliasType aliasText.toList)
      pure (some ((aliasType, normalized), aliasText))
  | _, _ => .error (.value "SECURITY_ALIAS_INCOMPLETE")

variable (repository : SecurityMasterRepository)

/-- `_stage_identifier`: what is to be appended, how many were there, and the planned owners. -/
def stageIdentifier (record : ProviderRecord) (securityId : Uuid) (sourceName : String)
    (planned : IdentifierKey → Option Uuid) :
    Except Raised (Option SecurityIdentifierAppend × Nat × (IdentifierKey → Option Uuid)) := do
  match ← readIdentifier library record with
  | none => pure (none, 0, planned)
  | some (key, value) =>
      match standing true (repository.findIdentifierOwner key).toList (planned key) securityId with
      | .conflict => .error (.value "SECURITY_IDENTIFIER_CONFLICT")
      | .existing => pure (none, 1, planned)
      | .new =>
          let identifier ← SecurityIdentifierAppend.create
            ⟨securityId, key.1, value, key.2, sourceName⟩
          pure (some identifier, 0, Function.update planned key (some securityId))

/-- `_stage_alias`; only a provider symbol is exclusive. -/
def stageAlias (record : ProviderRecord) (securityId : Uuid) (sourceName : String)
    (planned : AliasKey → Option Uuid) :
    Except Raised (Option SecurityAliasAppend × Nat × (AliasKey → Option Uuid)) := do
  match ← readAlias library record with
  | none => pure (none, 0, planned)
  | some (key, aliasText) =>
      match standing (key.1 == .providerSymbol) (repository.findAliasOwners key) (planned key)
          securityId with
      | .conflict => .error (.value "SECURITY_ALIAS_CONFLICT")
      | .existing => pure (none, 1, planned)
      | .new =>
          let appended ← SecurityAliasAppend.create
            ⟨securityId, aliasText, key.2, key.1, record.text "locale", sourceName⟩
          pure (some appended, 0, Function.update planned key (some securityId))

/-! ## The batch -/

/-- The local variables of the loop. -/
structure StagePlan where
  identifiers : List SecurityIdentifierAppend
  aliases : List SecurityAliasAppend
  existingCount : Nat
  securityIds : List Uuid
  plannedIdentifiers : IdentifierKey → Option Uuid
  plannedAliases : AliasKey → Option Uuid

def StagePlan.empty : StagePlan := ⟨[], [], 0, [], fun _ => none, fun _ => none⟩

variable (manifest : ProviderIngestionManifestRecord) (context : SecurityMasterBridgeContext)

/-- `f"{context.provider_code}:manifest:{manifest.id}"` -/
def sourceName : String := context.providerCode ++ ":manifest:" ++ manifest.id.str

/-- One turn of the loop. -/
def stageRecord (plan : StagePlan) (record : ProviderRecord) : Except Raised StagePlan := do
  let securityId ← checkRecord library manifest context repository.getSecurityBinding record
  let (identifier, identifierExisting, plannedIdentifiers) ← stageIdentifier library repository
    record securityId (sourceName manifest context) plan.plannedIdentifiers
  let (appended, aliasExisting, plannedAliases) ← stageAlias library repository record securityId
    (sourceName manifest context) plan.plannedAliases
  pure {
    identifiers := plan.identifiers ++ identifier.toList
    aliases := plan.aliases ++ appended.toList
    existingCount := plan.existingCount + identifierExisting + aliasExisting
    securityIds := if securityId ∈ plan.securityIds then plan.securityIds
      else plan.securityIds ++ [securityId]
    plannedIdentifiers
    plannedAliases }

/-- Everything up to the first write. -/
def planBatch (batch : ProviderBatch) : Except Raised StagePlan := do
  check (¬ context.derivedUseApproved) (.value "DERIVED_USE_NOT_APPROVED")
  check (manifest.manifestChecksum ≠ batch.manifestChecksum)
    (.value "SECURITY_MASTER_MANIFEST_MISMATCH")
  check (manifest.batchChecksum ≠ library.batchChecksum batch.records)
    (.value "SECURITY_MASTER_BATCH_CHECKSUM_MISMATCH")
  check (manifest.recordCount ≠ batch.records.length)
    (.value "SECURITY_MASTER_RECORD_COUNT_MISMATCH")
  check (laterThan context.researchAsOfTime manifest.sourcePublishedAt)
    (.value "SECURITY_MASTER_FUTURE_DATA")
  check (notReal manifest.syntheticStatus) (.value "SYNTHETIC_SECURITY_MASTER_WRITE_FORBIDDEN")
  batch.records.foldlM (stageRecord library repository manifest context) StagePlan.empty

/-- `SecurityMasterProviderBridge.stage`, with the repository that it leaves behind. -/
def stage (batch : ProviderBatch) :
    Except Raised SecurityMasterBridgeResult × SecurityMasterRepository :=
  match planBatch library repository manifest context batch with
  | .error e => (.error e, repository)
  | .ok plan =>
      let repository := plan.identifiers.foldl SecurityMasterRepository.appendIdentifier repository
      let repository := plan.aliases.foldl SecurityMasterRepository.appendAlias repository
      (.ok {
        securityIds := plan.securityIds.insertionSort fun a b => a.str ≤ b.str
        appendedIdentifierCount := plan.identifiers.length
        appendedAliasCount := plan.aliases.length
        existingRecordCount := plan.existingCount
        manifestId := manifest.id
        manifestChecksum := manifest.manifestChecksum }, repository)

end Stage

end StockResearch.Providers
