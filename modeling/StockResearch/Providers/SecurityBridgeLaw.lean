import StockResearch.Providers.SecurityBridge

/-!
# What the security-master bridge appends

The loop over the records is a run of `Registry` twice over: for the identifiers, whose keys are all
exclusive, and for the aliases, of which only provider symbols are.  `Staged.step` adds a record to
both runs; what the runs have done is then read off `Registry`.

* **`stage_law`**: exactly when a call that returns appends nothing twice and leaves one owner for
  every identifier and every provider symbol.
-/

namespace StockResearch.Providers

open PyText PyTime Checked Securities Registry LastSeen

section Law

variable {library : BridgeLibrary} {repository repository' : SecurityMasterRepository}
  {manifest : ProviderIngestionManifestRecord} {context : SecurityMasterBridgeContext}
  {batch : ProviderBatch}

/-! ## Claims -/

/-- The identifier that a record claims for its security. -/
def identifierClaim (library : BridgeLibrary) (record : ProviderRecord) :
    Option (IdentifierKey × Uuid) :=
  match readIdentifier library record, (record.text "security_id").bind library.uuid with
  | .ok (some (key, _)), some securityId => some (key, securityId)
  | _, _ => none

/-- The alias that a record claims for its security. -/
def aliasClaim (library : BridgeLibrary) (record : ProviderRecord) : Option (AliasKey × Uuid) :=
  match readAlias library record, (record.text "security_id").bind library.uuid with
  | .ok (some (key, _)), some securityId => some (key, securityId)
  | _, _ => none

/-- The aliases that a batch claims, in the order of its records. -/
def aliasClaims (library : BridgeLibrary) (batch : ProviderBatch) : List (AliasKey × Uuid) :=
  batch.records.filterMap (aliasClaim library)

/-- A record that passes its checks and can be read. -/
structure Accepted (library : BridgeLibrary) (repository : SecurityMasterRepository)
    (manifest : ProviderIngestionManifestRecord) (context : SecurityMasterBridgeContext)
    (record : ProviderRecord) : Prop where
  checked : ∃ securityId, checkRecord library manifest context repository.getSecurityBinding record =
    .ok securityId
  identifier : ∃ stated, readIdentifier library record = .ok stated
  aliased : ∃ stated, readAlias library record = .ok stated

lemma checkRecord_ok {record : ProviderRecord} {securityId : Uuid}
    (h : checkRecord library manifest context repository.getSecurityBinding record =
      .ok securityId) : (record.text "security_id").bind library.uuid = some securityId := by
  unfold checkRecord at h
  simp only [check_bind_ok, require_bind_ok] at h
  obtain ⟨-, -, -, -, -, s, hs, _, -, -, -, hpure⟩ := h
  cases hpure
  exact hs

lemma createIdentifier_ok {i j : SecurityIdentifierAppend}
    (h : SecurityIdentifierAppend.create i = .ok j) : j = i := by
  obtain ⟨-, hpure⟩ := check_bind_ok.mp h
  cases hpure
  rfl

lemma createAlias_ok {a b : SecurityAliasAppend} (h : SecurityAliasAppend.create a = .ok b) :
    b = a := by
  obtain ⟨-, hpure⟩ := check_bind_ok.mp h
  cases hpure
  rfl

/-- What `_stage_identifier` does with the claim of a record. -/
lemma stageIdentifier_ok {record : ProviderRecord} {securityId : Uuid} {source : String}
    {planned planned' : IdentifierKey → Option Uuid} {appended : Option SecurityIdentifierAppend}
    {n : Nat} (h : stageIdentifier library repository record securityId source planned =
      .ok (appended, n, planned')) :
    (readIdentifier library record = .ok none ∧ appended = none ∧ planned' = planned) ∨
      ∃ key value, readIdentifier library record = .ok (some (key, value)) ∧
        standing true (repository.findIdentifierOwner key).toList (planned key) securityId ≠
          .conflict ∧
        planned' = (if standing true (repository.findIdentifierOwner key).toList (planned key)
          securityId = .new then Function.update planned key (some securityId) else planned) ∧
        appended.toList.map (·.claim) = if standing true
          (repository.findIdentifierOwner key).toList (planned key) securityId = .new then
            [(key, securityId)] else [] := by
  obtain ⟨stated, hstated, h⟩ := bind_ok.mp h
  cases stated with
  | none =>
      cases h
      exact Or.inl ⟨hstated, rfl, rfl⟩
  | some stated =>
      obtain ⟨key, value⟩ := stated
      refine Or.inr ⟨key, value, hstated, ?_⟩
      dsimp only at h
      split at h
      · cases h
      · rename_i hstanding
        cases h
        simp [hstanding]
      · rename_i hstanding
        obtain ⟨identifier, hcreate, hpure⟩ := bind_ok.mp h
        cases hpure
        rw [createIdentifier_ok hcreate]
        simp [hstanding, SecurityIdentifierAppend.claim]

/-- What `_stage_alias` does with the claim of a record. -/
lemma stageAlias_ok {record : ProviderRecord} {securityId : Uuid} {source : String}
    {planned planned' : AliasKey → Option Uuid} {appended : Option SecurityAliasAppend}
    {n : Nat} (h : stageAlias library repository record securityId source planned =
      .ok (appended, n, planned')) :
    (readAlias library record = .ok none ∧ appended = none ∧ planned' = planned) ∨
      ∃ key value, readAlias library record = .ok (some (key, value)) ∧
        standing (key.1 == .providerSymbol) (repository.findAliasOwners key) (planned key)
          securityId ≠ .conflict ∧
        planned' = (if standing (key.1 == .providerSymbol) (repository.findAliasOwners key)
          (planned key) securityId = .new then Function.update planned key (some securityId)
            else planned) ∧
        appended.toList.map (·.claim) = if standing (key.1 == .providerSymbol)
          (repository.findAliasOwners key) (planned key) securityId = .new then
            [(key, securityId)] else [] := by
  obtain ⟨stated, hstated, h⟩ := bind_ok.mp h
  cases stated with
  | none =>
      cases h
      exact Or.inl ⟨hstated, rfl, rfl⟩
  | some stated =>
      obtain ⟨key, value⟩ := stated
      refine Or.inr ⟨key, value, hstated, ?_⟩
      dsimp only at h
      split at h
      · cases h
      · rename_i hstanding
        cases h
        simp [hstanding]
      · rename_i hstanding
        obtain ⟨added, hcreate, hpure⟩ := bind_ok.mp h
        cases hpure
        rw [createAlias_ok hcreate]
        simp [hstanding, SecurityAliasAppend.claim]

/-! ## The run -/

/-- Where the loop stands after some records. -/
structure Staged (library : BridgeLibrary) (repository : SecurityMasterRepository)
    (manifest : ProviderIngestionManifestRecord) (context : SecurityMasterBridgeContext)
    (done : List ProviderRecord) (plan : StagePlan) : Prop where
  identifiers : Registered (fun _ => true) (fun key => (repository.findIdentifierOwner key).toList)
    (done.filterMap (identifierClaim library)) plan.plannedIdentifiers
    (plan.identifiers.map (·.claim))
  aliases : Registered (fun key => key.1 == .providerSymbol) repository.findAliasOwners
    (done.filterMap (aliasClaim library)) plan.plannedAliases (plan.aliases.map (·.claim))
  accepted : ∀ record ∈ done, Accepted library repository manifest context record

/-- **One record is added to both runs.** -/
lemma Staged.step {done : List ProviderRecord} {plan plan' : StagePlan} {record : ProviderRecord}
    (h : Staged library repository manifest context done plan)
    (hrecord : stageRecord library repository manifest context plan record = .ok plan') :
    Staged library repository manifest context (done ++ [record]) plan' := by
  obtain ⟨securityId, hchecked, hrecord⟩ := bind_ok.mp hrecord
  obtain ⟨⟨identifier, n, plannedIdentifiers⟩, hidentifier, hrecord⟩ := bind_ok.mp hrecord
  obtain ⟨⟨appended, m, plannedAliases⟩, halias, hrecord⟩ := bind_ok.mp hrecord
  cases hrecord
  have hsecurity := checkRecord_ok hchecked
  have hidentifier := stageIdentifier_ok hidentifier
  have halias := stageAlias_ok halias
  refine ⟨?_, ?_, ?_⟩
  · rw [List.filterMap_append, List.map_append]
    rcases hidentifier with ⟨hnone, rfl, rfl⟩ | ⟨key, value, hstated, hfree, rfl, hnew⟩
    · have hclaim : identifierClaim library record = none := by simp [identifierClaim, hnone]
      simpa [hclaim] using h.identifiers
    · have hclaim : identifierClaim library record = some (key, securityId) := by
        simp [identifierClaim, hstated, hsecurity]
      rw [hnew]
      have hstep := h.identifiers.step (c := (key, securityId)) hfree
      simpa [hclaim] using hstep
  · rw [List.filterMap_append, List.map_append]
    rcases halias with ⟨hnone, rfl, rfl⟩ | ⟨key, value, hstated, hfree, rfl, hnew⟩
    · have hclaim : aliasClaim library record = none := by simp [aliasClaim, hnone]
      simpa [hclaim] using h.aliases
    · have hclaim : aliasClaim library record = some (key, securityId) := by
        simp [aliasClaim, hstated, hsecurity]
      rw [hnew]
      have hstep := h.aliases.step (c := (key, securityId)) hfree
      simpa [hclaim] using hstep
  · intro r hr
    rcases List.mem_append.mp hr with hr | hr
    · exact h.accepted r hr
    · obtain rfl := List.mem_singleton.mp hr
      refine ⟨⟨securityId, hchecked⟩, ?_, ?_⟩
      · rcases hidentifier with ⟨hnone, -⟩ | ⟨key, value, hstated, -⟩
        · exact ⟨_, hnone⟩
        · exact ⟨_, hstated⟩
      · rcases halias with ⟨hnone, -⟩ | ⟨key, value, hstated, -⟩
        · exact ⟨_, hnone⟩
        · exact ⟨_, hstated⟩

/-- The checks before the loop. -/
structure Gates (library : BridgeLibrary) (manifest : ProviderIngestionManifestRecord)
    (context : SecurityMasterBridgeContext) (batch : ProviderBatch) : Prop where
  approved : context.derivedUseApproved = true
  manifestChecksum : manifest.manifestChecksum = batch.manifestChecksum
  batchChecksum : manifest.batchChecksum = library.batchChecksum batch.records
  recordCount : manifest.recordCount = batch.records.length
  published : ¬ laterThan context.researchAsOfTime manifest.sourcePublishedAt
  real : ¬ notReal manifest.syntheticStatus

lemma planBatch_ok {plan : StagePlan} :
    planBatch library repository manifest context batch = .ok plan ↔
      Gates library manifest context batch ∧
        batch.records.foldlM (stageRecord library repository manifest context) StagePlan.empty =
          .ok plan := by
  unfold planBatch
  simp only [check_bind_ok, not_not]
  constructor
  · rintro ⟨h₁, h₂, h₃, h₄, h₅, h₆, hloop⟩
    exact ⟨⟨h₁, h₂, h₃, h₄, h₅, h₆⟩, hloop⟩
  · rintro ⟨⟨h₁, h₂, h₃, h₄, h₅, h₆⟩, hloop⟩
    exact ⟨h₁, h₂, h₃, h₄, h₅, h₆, hloop⟩

lemma staged_empty : Staged library repository manifest context [] StagePlan.empty where
  identifiers := registered_nil
  aliases := registered_nil
  accepted := by simp

def SecurityMasterRepository.appended (repository : SecurityMasterRepository) (plan : StagePlan) :
    SecurityMasterRepository :=
  { repository with
    identifiers := repository.identifiers ++ plan.identifiers
    aliases := repository.aliases ++ plan.aliases }

lemma foldl_append (repository : SecurityMasterRepository) (plan : StagePlan) :
    plan.aliases.foldl SecurityMasterRepository.appendAlias
      (plan.identifiers.foldl SecurityMasterRepository.appendIdentifier repository) =
      repository.appended plan := by
  have hidentifiers : ∀ (l : List SecurityIdentifierAppend) (r : SecurityMasterRepository),
      l.foldl SecurityMasterRepository.appendIdentifier r =
        { r with identifiers := r.identifiers ++ l } := by
    intro l
    induction l with
    | nil =>
        intro r
        simp
    | cons i l ih =>
        intro r
        rw [List.foldl_cons, ih]
        simp [SecurityMasterRepository.appendIdentifier]
  have haliases : ∀ (l : List SecurityAliasAppend) (r : SecurityMasterRepository),
      l.foldl SecurityMasterRepository.appendAlias r = { r with aliases := r.aliases ++ l } := by
    intro l
    induction l with
    | nil =>
        intro r
        simp
    | cons a l ih =>
        intro r
        rw [List.foldl_cons, ih]
        simp [SecurityMasterRepository.appendAlias]
  rw [hidentifiers, haliases]
  rfl

/-- What a call that returns has planned and appended. -/
lemma stage_ok {result : SecurityMasterBridgeResult}
    (h : stage library repository manifest context batch = (.ok result, repository')) :
    ∃ plan, Gates library manifest context batch ∧
      Staged library repository manifest context batch.records plan ∧
      repository' = repository.appended plan := by
  unfold stage at h
  split at h
  · cases h
  · rename_i plan hplan
    obtain ⟨hgates, hloop⟩ := planBatch_ok.mp hplan
    have hstaged := foldlM_induction
      (P := fun done plan => Staged library repository manifest context done plan)
      (fun done record plan plan' hstaged hrecord => hstaged.step hrecord) staged_empty hloop
    refine ⟨plan, hgates, by simpa using hstaged, ?_⟩
    dsimp only at h
    rw [foldl_append] at h
    exact (congrArg Prod.snd h).symm

/-! ## Owners -/

/-- Every identifier and every provider symbol has one owner at most. -/
structure SingleOwners (repository : SecurityMasterRepository) : Prop where
  identifiers : ∀ key, ∀ a ∈ repository.identifierOwners key,
    ∀ b ∈ repository.identifierOwners key, a = b
  aliases : ∀ key : AliasKey, key.1 = .providerSymbol → ∀ a ∈ repository.findAliasOwners key,
    ∀ b ∈ repository.findAliasOwners key, a = b

lemma identifierOwners_appended (plan : StagePlan) (key : IdentifierKey) :
    (repository.appended plan).identifierOwners key =
      ownersAfter repository.identifierOwners (plan.identifiers.map (·.claim)) key := by
  simp [SecurityMasterRepository.identifierOwners, SecurityMasterRepository.appended, ownersAfter]

lemma findAliasOwners_appended (plan : StagePlan) :
    (repository.appended plan).findAliasOwners =
      ownersAfter repository.findAliasOwners (plan.aliases.map (·.claim)) := by
  funext key
  simp [SecurityMasterRepository.findAliasOwners, SecurityMasterRepository.appended, ownersAfter]

/-- An identifier that was appended had no owner. -/
lemma Staged.identifierOwners_eq_nil {plan : StagePlan} {c : IdentifierKey × Uuid}
    (h : Staged library repository manifest context batch.records plan)
    (hc : c ∈ plan.identifiers.map (·.claim)) : repository.identifierOwners c.1 = [] := by
  have hnil := h.identifiers.owners_eq_nil hc rfl
  simpa [SecurityMasterRepository.findIdentifierOwner, List.head?_eq_none_iff] using hnil

lemma Staged.single_iff {plan : StagePlan}
    (h : Staged library repository manifest context batch.records plan) :
    SingleOwners (repository.appended plan) ↔ SingleOwners repository := by
  have halias : ∀ key : AliasKey, key.1 = .providerSymbol →
      ((∀ a ∈ (repository.appended plan).findAliasOwners key,
        ∀ b ∈ (repository.appended plan).findAliasOwners key, a = b) ↔
      ∀ a ∈ repository.findAliasOwners key, ∀ b ∈ repository.findAliasOwners key, a = b) := by
    intro key hkey
    rw [findAliasOwners_appended]
    exact h.aliases.single_iff (by simp [hkey])
  have hidentifier : ∀ key : IdentifierKey,
      (∀ a ∈ (repository.appended plan).identifierOwners key,
        ∀ b ∈ (repository.appended plan).identifierOwners key, a = b) ↔
      ∀ a ∈ repository.identifierOwners key, ∀ b ∈ repository.identifierOwners key, a = b := by
    intro key
    rw [identifierOwners_appended]
    constructor
    · intro hsingle a ha b hb
      exact hsingle a (mem_ownersAfter.mpr (Or.inl ha)) b (mem_ownersAfter.mpr (Or.inl hb))
    · intro hsingle a ha b hb
      rcases mem_ownersAfter.mp ha with hold | hnew <;>
        rcases mem_ownersAfter.mp hb with hold' | hnew'
      · exact hsingle a hold b hold'
      · rw [h.identifierOwners_eq_nil hnew'] at hold
        cases hold
      · rw [h.identifierOwners_eq_nil hnew] at hold'
        cases hold'
      · exact h.identifiers.eq_of_key hnew hnew' rfl rfl
  constructor
  · rintro ⟨hids, hals⟩
    exact ⟨fun key => (hidentifier key).mp (hids key),
      fun key hkey => (halias key hkey).mp (hals key hkey)⟩
  · rintro ⟨hids, hals⟩
    exact ⟨fun key => (hidentifier key).mpr (hids key),
      fun key hkey => (halias key hkey).mpr (hals key hkey)⟩

/-! ## The same batch again -/

/-- The owner of a claimed identifier after the call. -/
lemma Staged.findIdentifierOwner_appended {plan : StagePlan} {c : IdentifierKey × Uuid}
    (h : Staged library repository manifest context batch.records plan)
    (hc : c ∈ batch.records.filterMap (identifierClaim library)) :
    (repository.appended plan).findIdentifierOwner c.1 = some c.2 := by
  obtain ⟨hmem, hall⟩ := h.identifiers.settled hc
  have hall := hall rfl
  rw [SecurityMasterRepository.findIdentifierOwner, identifierOwners_appended, ownersAfter]
  cases howners : repository.identifierOwners c.1 with
  | cons o owners =>
      have ho := hall o (mem_ownersAfter.mpr (Or.inl (by
        simp [SecurityMasterRepository.findIdentifierOwner, howners])))
      rw [ho]
      rfl
  | nil =>
      rw [List.nil_append]
      have hnew : c ∈ plan.identifiers.map (·.claim) := by
        rcases mem_ownersAfter.mp hmem with hold | hnew
        · simp [SecurityMasterRepository.findIdentifierOwner, howners] at hold
        · exact hnew
      have hhead : c.2 ∈ ((plan.identifiers.map (·.claim)).filter fun d => d.1 = c.1).map Prod.snd :=
        List.mem_map.mpr ⟨c, by simp [hnew], rfl⟩
      cases hlist : ((plan.identifiers.map (·.claim)).filter fun d => d.1 = c.1).map Prod.snd with
      | nil =>
          rw [hlist] at hhead
          cases hhead
      | cons o owners =>
          have ho : o ∈ ((plan.identifiers.map (·.claim)).filter fun d => d.1 = c.1).map
              Prod.snd := by
            rw [hlist]
            exact List.mem_cons_self ..
          have hin : o ∈ ownersAfter
              (fun key => (repository.findIdentifierOwner key).toList)
              (plan.identifiers.map (·.claim)) c.1 := List.mem_append_right _ ho
          rw [List.head?_cons, hall o hin]

/-- A plan that appends nothing and remembers nothing. -/
def StagePlan.Idle (plan : StagePlan) : Prop :=
  plan.identifiers = [] ∧ plan.aliases = [] ∧ plan.plannedIdentifiers = (fun _ => none) ∧
    plan.plannedAliases = fun _ => none

/-- After the call, a record of the batch brings nothing new. -/
lemma Staged.idle {plan plan' : StagePlan} {record : ProviderRecord}
    (h : Staged library repository manifest context batch.records plan)
    (hrecord : record ∈ batch.records) (hidle : plan'.Idle) :
    ∃ plan'', stageRecord library (repository.appended plan) manifest context plan' record =
      .ok plan'' ∧ plan''.Idle := by
  obtain ⟨⟨securityId, hchecked⟩, ⟨identifier, hidentifier⟩, ⟨stated, haliased⟩⟩ :=
    h.accepted record hrecord
  have hsecurity := checkRecord_ok hchecked
  obtain ⟨hnoIds, hnoAliases, hplannedIds, hplannedAliases⟩ := hidle
  have hstageIdentifier : ∀ source, ∃ n, stageIdentifier library (repository.appended plan) record
      securityId source plan'.plannedIdentifiers = .ok (none, n, plan'.plannedIdentifiers) := by
    intro source
    unfold stageIdentifier
    rw [hidentifier, ok_bind]
    cases identifier with
    | none => exact ⟨0, rfl⟩
    | some identifier =>
        obtain ⟨key, value⟩ := identifier
        have hclaim : identifierClaim library record = some (key, securityId) := by
          simp [identifierClaim, hidentifier, hsecurity]
        have howner := h.findIdentifierOwner_appended
          (List.mem_filterMap.mpr ⟨record, hrecord, hclaim⟩)
        refine ⟨1, ?_⟩
        dsimp only at howner ⊢
        rw [howner, hplannedIds]
        simp [standing]
        rfl
  have hstageAlias : ∀ source, ∃ n, stageAlias library (repository.appended plan) record
      securityId source plan'.plannedAliases = .ok (none, n, plan'.plannedAliases) := by
    intro source
    unfold stageAlias
    rw [haliased, ok_bind]
    cases stated with
    | none => exact ⟨0, rfl⟩
    | some stated =>
        obtain ⟨key, value⟩ := stated
        have hclaim : aliasClaim library record = some (key, securityId) := by
          simp [aliasClaim, haliased, hsecurity]
        have hstanding := h.aliases.standing_settled
          (List.mem_filterMap.mpr ⟨record, hrecord, hclaim⟩)
        refine ⟨1, ?_⟩
        rw [findAliasOwners_appended, hplannedAliases]
        dsimp only at hstanding ⊢
        rw [hstanding]
        rfl
  obtain ⟨n, hn⟩ := hstageIdentifier (sourceName manifest context)
  obtain ⟨m, hm⟩ := hstageAlias (sourceName manifest context)
  have hbinding : (repository.appended plan).getSecurityBinding = repository.getSecurityBinding :=
    rfl
  have hturn : stageRecord library (repository.appended plan) manifest context plan' record = .ok
      { identifiers := plan'.identifiers ++ []
        aliases := plan'.aliases ++ []
        existingCount := plan'.existingCount + n + m
        securityIds := if securityId ∈ plan'.securityIds then plan'.securityIds
          else plan'.securityIds ++ [securityId]
        plannedIdentifiers := plan'.plannedIdentifiers
        plannedAliases := plan'.plannedAliases } := by
    unfold stageRecord
    rw [hbinding, hchecked, ok_bind, hn, ok_bind]
    dsimp only
    rw [hm, ok_bind]
    rfl
  refine ⟨_, hturn, ?_⟩
  simp [StagePlan.Idle, hnoIds, hnoAliases, hplannedIds, hplannedAliases]

/-- **Staging the same batch again appends nothing.** -/
lemma Staged.again {plan : StagePlan} (hgates : Gates library manifest context batch)
    (h : Staged library repository manifest context batch.records plan) :
    ∃ result, stage library (repository.appended plan) manifest context batch =
        (.ok result, repository.appended plan) ∧
      result.appendedIdentifierCount = 0 ∧ result.appendedAliasCount = 0 := by
  have hempty : StagePlan.empty.Idle := ⟨rfl, rfl, rfl, rfl⟩
  obtain ⟨plan', hloop, hnoIds, hnoAliases, -⟩ := exists_foldlM_ok (I := StagePlan.Idle)
    (fun record hrecord plan'' hidle => h.idle hrecord hidle) hempty
  have hplan : planBatch library (repository.appended plan) manifest context batch = .ok plan' :=
    planBatch_ok.mpr ⟨hgates, hloop⟩
  unfold stage
  rw [hplan]
  dsimp only
  rw [hnoIds, hnoAliases]
  exact ⟨_, rfl, rfl, rfl⟩

/-! ## The law -/

/-- What a call that returns should have done. -/
structure StageLaw (library : BridgeLibrary) (manifest : ProviderIngestionManifestRecord)
    (context : SecurityMasterBridgeContext) (batch : ProviderBatch)
    (repository repository' : SecurityMasterRepository) : Prop where
  /-- What is appended was not there before, and nothing is appended twice. -/
  appended : ∃ identifiers aliases,
    repository'.identifiers = repository.identifiers ++ identifiers ∧
    repository'.aliases = repository.aliases ++ aliases ∧
    (∀ i ∈ identifiers, ∀ j ∈ repository.identifiers, i.claim.1 ≠ j.claim.1) ∧
    (∀ a ∈ aliases, ∀ b ∈ repository.aliases, a.claim ≠ b.claim) ∧
    (identifiers.map (·.claim.1)).Nodup ∧ (aliases.map (·.claim)).Nodup
  single : SingleOwners repository'
  again : ∃ result, stage library repository' manifest context batch = (.ok result, repository') ∧
    result.appendedIdentifierCount = 0 ∧ result.appendedAliasCount = 0

lemma mem_identifierOwners {j : SecurityIdentifierAppend} (hj : j ∈ repository.identifiers) :
    j.securityId ∈ repository.identifierOwners j.claim.1 :=
  List.mem_map.mpr ⟨j.claim, by simpa using ⟨j, hj, rfl⟩, rfl⟩

lemma mem_findAliasOwners {b : SecurityAliasAppend} (hb : b ∈ repository.aliases) :
    b.securityId ∈ repository.findAliasOwners b.claim.1 :=
  List.mem_map.mpr ⟨b.claim, by simpa using ⟨b, hb, rfl⟩, rfl⟩

lemma Staged.law_iff {plan : StagePlan} (hgates : Gates library manifest context batch)
    (h : Staged library repository manifest context batch.records plan) :
    StageLaw library manifest context batch repository (repository.appended plan) ↔
      SingleOwners repository ∧
        Grouped (unknown repository.findAliasOwners (aliasClaims library batch)) := by
  constructor
  · rintro ⟨⟨identifiers, aliases, -, haliases, -, -, -, hnodup⟩, hsingle, -⟩
    obtain rfl : plan.aliases = aliases := List.append_cancel_left haliases
    exact ⟨h.single_iff.mp hsingle, h.aliases.nodup_iff.mp hnodup⟩
  · rintro ⟨hsingle, hgrouped⟩
    refine ⟨⟨plan.identifiers, plan.aliases, rfl, rfl, ?_, ?_, ?_, h.aliases.nodup_iff.mpr hgrouped⟩,
      h.single_iff.mpr hsingle, h.again hgates⟩
    · intro i hi j hj hkey
      have hnil := h.identifierOwners_eq_nil (List.mem_map_of_mem hi)
      have hmem := mem_identifierOwners hj
      rw [← hkey, hnil] at hmem
      cases hmem
    · intro a ha b hb hsame
      have hnot := (h.aliases.mem_new.mp (List.mem_map_of_mem ha)).2
      have hmem := mem_findAliasOwners hb
      rw [← hsame] at hmem
      have hsecurity : b.securityId = a.claim.2 := (congrArg Prod.snd hsame).symm
      rw [hsecurity] at hmem
      exact hnot hmem
    · have hkeys := h.identifiers.nodup_keys fun _ => rfl
      rwa [List.map_map] at hkeys

/-- **What a call does to the repository.**  When it raises, nothing.  When it returns, it does what it
should exactly if there was one owner at most for every identifier and every provider symbol, and no
security claims an alias that it does not own both before and after another one does. -/
theorem stage_law (library : BridgeLibrary) (repository : SecurityMasterRepository)
    (manifest : ProviderIngestionManifestRecord) (context : SecurityMasterBridgeContext)
    (batch : ProviderBatch) :
    (∀ e repository', stage library repository manifest context batch = (.error e, repository') →
      repository' = repository) ∧
    ∀ result repository',
      stage library repository manifest context batch = (.ok result, repository') →
      (StageLaw library manifest context batch repository repository' ↔
        SingleOwners repository ∧
          Grouped (unknown repository.findAliasOwners (aliasClaims library batch))) := by
  constructor
  · intro e repository' h
    unfold stage at h
    split at h
    · exact (congrArg Prod.snd h).symm
    · cases h
  · intro result repository' h
    obtain ⟨plan, hgates, hstaged, rfl⟩ := stage_ok h
    exact hstaged.law_iff hgates

end Law

/-! ## Two securities that share a name -/

/-- A library that reads the texts of two identifiers. -/
def twoIds : BridgeLibrary where
  unicode := ascii
  uuid text := if text = (1 : Uuid).str then some 1 else if text = (2 : Uuid).str then some 2 else none
  batchChecksum _ := "batch"

/-- A record that gives the short name `Acme` to a security. -/
def acmeRecord (recordKey : String) (securityId : Uuid) (validKey : 1 ≤ recordKey.length ∧
    recordKey.length ≤ 256) (printable : isPrintable "master" ∧ isPrintable recordKey) :
    ProviderRecord where
  identity :=
    { providerDefinitionId := 8
      providerCapabilityId := 9
      sourceIdentity := "master"
      recordKey
      revision := 1
      validSource := by decide
      validKey
      validRevision := validRevision_one
      printable }
  rawArtifactId := 3
  sourceChecksum := "source"
  sourcePublishedAt := none
  status := .complete
  numericValues := []
  textValues := [("security_id", some securityId.str), ("market_code", some "US_EQUITY"),
    ("exchange_mic", some "XNAS"), ("verification_status", some "VERIFIED"),
    ("alias", some "Acme"), ("alias_type", some "COMPANY_SHORT_NAME")]
  warningCodes := []
  syntheticStatus := .realVerified

/-- The two securities, one after the other. -/
def acmeTwice : ProviderBatch where
  manifestChecksum := "manifest"
  records := [acmeRecord "a" 1 validKey_a (by decide), acmeRecord "b" 2 (by decide) (by decide)]
  bounded := by decide
  ordered := by decide
  unique := by decide

/-- The first security comes back after the second. -/
def acmeAlternating : ProviderBatch where
  manifestChecksum := "manifest"
  records := [acmeRecord "a" 1 validKey_a (by decide), acmeRecord "b" 2 (by decide) (by decide),
    acmeRecord "c" 1 (by decide) (by decide)]
  bounded := by decide
  ordered := by decide
  unique := by decide

def acmeManifest (recordCount : Nat) : ProviderIngestionManifestRecord where
  id := 4
  rawArtifactId := 3
  batchChecksum := "batch"
  recordCount
  sourcePublishedAt := none
  syntheticStatus := .realVerified
  manifestChecksum := "manifest"

def acmeContext : SecurityMasterBridgeContext where
  providerCode := "SEC_EDGAR_PUBLIC_V1"
  researchAsOfTime :=
    { date := ⟨2024, 1, 1, validYear_2024, validMonth_1, validDay_2024_1_1⟩
      hour := 0
      minute := 0
      second := 0
      microsecond := 0
      validHour := validHour_0
      validMinute := validMinute_0
      validSecond := validMinute_0
      validMicrosecond := validMicrosecond_0 }
  derivedUseApproved := true

/-- A repository that knows the securities and nothing else. -/
def bareRepository : SecurityMasterRepository where
  getSecurityBinding _ := some ⟨"US_EQUITY", "XNAS"⟩
  identifiers := []
  aliases := []

/-- One after the other, each gets the name once. -/
theorem acmeTwice_law :
    ∃ result repository', stage twoIds bareRepository (acmeManifest 2) acmeContext acmeTwice =
        (.ok result, repository') ∧
      StageLaw twoIds (acmeManifest 2) acmeContext acmeTwice bareRepository repository' := by
  have hok : (stage twoIds bareRepository (acmeManifest 2) acmeContext acmeTwice).1.isOk = true := by
    decide +kernel
  obtain ⟨result, hresult⟩ := exists_of_isOk hok
  refine ⟨result, _, Prod.ext hresult rfl,
    ((stage_law twoIds bareRepository (acmeManifest 2) acmeContext acmeTwice).2 result _
      (Prod.ext hresult rfl)).mpr ⟨⟨?_, ?_⟩, ?_⟩⟩
  · intro key a ha
    cases ha
  · intro key _ a ha
    cases ha
  · intro key a b _ hsub
    have htwo : (unknown bareRepository.findAliasOwners (aliasClaims twoIds acmeTwice)).length = 2 := by
      decide +kernel
    have hle := hsub.length_le
    rw [htwo] at hle
    simp at hle

/-- **Taking turns, the first security gets the name twice.** -/
theorem alternating_aliases_appended_twice :
    (stage twoIds bareRepository (acmeManifest 3) acmeContext acmeAlternating).1.isOk = true ∧
      (stage twoIds bareRepository (acmeManifest 3) acmeContext acmeAlternating).2.aliases.map
        (·.claim) = [((.companyShortName, "ACME".toList), 1),
          ((.companyShortName, "ACME".toList), 2), ((.companyShortName, "ACME".toList), 1)] := by
  refine ⟨by decide +kernel, by decide +kernel⟩

end StockResearch.Providers
