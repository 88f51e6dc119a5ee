import StockResearch.Core.Canonical
import StockResearch.Core.Program
import StockResearch.DataAccess.Evidence

/-!
# Building snapshots

`SnapshotBuilder` of `domain/data_access/snapshots.py`, with the repository methods it calls.

A build looks the snapshot up or creates it, selects the evidence and then replays the snapshot, if
it is terminal, or attempts it inside a savepoint.  An attempt that raises is undone, and the snapshot
is marked as failed outside the savepoint.

Any call of the repository may raise: `Surroundings.fault` says which ones do.  A call that raises has
written nothing, except for the read-back at the end of an update, which is an operation of its own.
-/

namespace StockResearch.DataAccess

open PyTime PyJson Txn

/-! ## Contracts -/

/-- The categories a snapshot may hold. -/
inductive DataCategory where
  | dailyPrices | corporateActions | financialFacts | filingMetadata
deriving DecidableEq, Repr

def DataCategory.value : DataCategory → String
  | .dailyPrices => "DAILY_PRICES"
  | .corporateActions => "CORPORATE_ACTIONS"
  | .financialFacts => "FINANCIAL_FACTS"
  | .filingMetadata => "FILING_METADATA"

/-- `_SOURCE_TYPES` -/
def DataCategory.sourceType : DataCategory → String
  | .dailyPrices => "daily_price_bars"
  | .corporateActions => "corporate_actions"
  | .financialFacts => "provider_financial_facts"
  | .filingMetadata => "source_documents"

inductive SnapshotErrorCode where
  | versionConflict | buildFailed | persistenceFailed
deriving DecidableEq, Repr

/-- A validated request: the categories are distinct and in order. -/
structure SnapshotBuildRequest where
  securityId : Uuid
  researchAsOfTime : Instant
  snapshotVersion : Nat
  categories : List DataCategory
  exchangeTimezone : String
  providerPreference : List Uuid
  itemLimit : Nat
  version_pos : 0 < snapshotVersion
  categories_ne : categories ≠ []
  categories_sorted : categories.Pairwise fun a b => a.value < b.value
  preference_nodup : providerPreference.Nodup
  itemLimit_bounds : 1 ≤ itemLimit ∧ itemLimit ≤ 99

inductive SnapshotStatus where
  | building | complete | partly | failed | superseded
deriving DecidableEq, Repr

structure DataSnapshotRecord where
  id : Uuid
  securityId : Uuid
  researchAsOfTime : Instant
  snapshotVersion : Nat
  status : SnapshotStatus
  completedAt : Option Instant
  checksum : Option String
  notes : Option String
  createdAt : Instant
deriving DecidableEq

structure DataSnapshotUpdate where
  status : SnapshotStatus
  completedAt : Instant
  checksum : Option String
  notes : Option String
deriving DecidableEq

structure SnapshotItemWrite where
  snapshotId : Uuid
  providerId : Uuid
  category : DataCategory
  sourceRecordType : String
  sourceRecordId : Uuid
  sourcePublishedAt : Option Instant
  retrievedAt : Instant
  checksumInput : List Char
  checksum : String
deriving DecidableEq

structure SnapshotItemRecord extends SnapshotItemWrite where
  id : Uuid
  createdAt : Instant
deriving DecidableEq

structure SnapshotItemSummary where
  itemId : Uuid
  providerId : Uuid
  category : DataCategory
  sourceRecordType : String
  sourceRecordId : Uuid
  checksum : String
deriving DecidableEq

structure SnapshotBuildResult where
  snapshot : DataSnapshotRecord
  items : List SnapshotItemSummary
  status : SnapshotStatus
  checksum : String
  warnings : List String
deriving DecidableEq

/-- What is raised inside a build. -/
inductive Raised where
  | snapshotBuildError (code : SnapshotErrorCode)
  | failure (f : Failure)
deriving DecidableEq, Repr

/-! ## Surroundings -/

/-- The standard library: `hashlib.sha256(text.encode("utf-8")).hexdigest()`, and the date of an
instant in a named zone, if there is one. -/
structure Platform where
  sha256 : List Char → String
  localDate : String → Instant → Option Date

/-- The operations of the repository, and where they may raise. -/
inductive Operation where
  | lookup | create
  | query (category : DataCategory) (providerId : Option Uuid)
  | savepoint | addItem (index : Nat) | update | readUpdated | release
  | markFailed | readFailed
  | listItems
deriving DecidableEq

/-- What a build meets: the evidence, the operations that fail, the clock at the end of an attempt
and at its failure, and new identifiers. -/
structure Surroundings where
  evidence : Evidence
  fault : Operation → Option Failure
  completedAt : Except Raised Instant
  failedAt : Except Raised Instant
  snapshotId : Uuid
  itemId : Nat → Uuid
  createdAt : Instant

/-- A call of the repository that raises, if it is to. -/
def Surroundings.perform (env : Surroundings) (op : Operation) : Except Raised Unit :=
  match env.fault op with
  | some f => .error (.failure f)
  | none => .ok ()

/-! ## Selection -/

def queryCategory (env : Surroundings) (request : SnapshotBuildRequest) (category : DataCategory)
    (localDate : Date) (providerId : Option Uuid) : Except Raised (List SnapshotSourceRecord) := do
  env.perform (.query category providerId)
  let q : EvidenceQuery :=
    ⟨request.securityId, request.researchAsOfTime, request.itemLimit + 1, providerId⟩
  let records : Except Failure (List SnapshotSourceRecord) :=
    match category with
    | .dailyPrices => (listDailyHistory env.evidence localDate q).map (List.map .bar)
    | .corporateActions => (listCorporateActions env.evidence q).map (List.map .action)
    | .financialFacts => (listFinancialFacts env.evidence q).map (List.map .fact)
    | .filingMetadata => (listSourceDocuments env.evidence q).map (List.map .document)
  records.mapError .failure

/-- The loop of `_category_candidates` over the preferred providers. -/
def preferredCandidates (env : Surroundings) (request : SnapshotBuildRequest)
    (category : DataCategory) (localDate : Date) :
    List Uuid → Except Raised (List SnapshotSourceRecord × Bool)
  | [] => .ok ([], true)
  | providerId :: rest => do
      let candidates ← queryCategory env request category localDate (some providerId)
      let eligible := candidates.filter (·.eligible request.researchAsOfTime localDate)
      if eligible ≠ [] then return (eligible, false)
      else preferredCandidates env request category localDate rest

def categoryCandidates (env : Surroundings) (request : SnapshotBuildRequest)
    (category : DataCategory) (localDate : Date) :
    Except Raised (List SnapshotSourceRecord × Bool) :=
  if request.providerPreference ≠ [] then
    preferredCandidates env request category localDate request.providerPreference
  else do
    let candidates ← queryCategory env request category localDate none
    return (candidates, false)

/-- `UNKNOWN_PUBLICATION`, for the records of a category that need it. -/
def unknownPublications (category : DataCategory) (records : List SnapshotSourceRecord) :
    List String :=
  (records.filter (·.source.publishedAt = none)).map fun r =>
    "UNKNOWN_PUBLICATION:" ++ category.value ++ ":" ++ category.sourceType ++ ":" ++ r.source.id.str

/-- The round of `_select` for a category: what it selects, and its warnings. -/
def selectCategory (env : Surroundings) (request : SnapshotBuildRequest) (localDate : Date)
    (category : DataCategory) :
    Except Raised (List (DataCategory × SnapshotSourceRecord) × List String) := do
  let (candidates, preferredMissing) ← categoryCandidates env request category localDate
  let eligible := candidates.filter (·.eligible request.researchAsOfTime localDate)
  let selected := eligible.take request.itemLimit
  return (selected.map fun r => (category, r),
    (if preferredMissing then ["NO_PREFERRED_PROVIDER:" ++ category.value] else []) ++
    (if request.itemLimit < eligible.length then ["TRUNCATED_CATEGORY:" ++ category.value] else []) ++
    (if selected = [] then ["MISSING_CATEGORY:" ++ category.value] else []) ++
    unknownPublications category selected)

def selectionKey (x : DataCategory × SnapshotSourceRecord) :
    String ×ₗ String ×ₗ String ×ₗ String :=
  toLex (x.1.value, toLex (x.1.sourceType, toLex (x.2.source.id.str, x.2.source.providerId.str)))

def select (platform : Platform) (env : Surroundings) (request : SnapshotBuildRequest) :
    Except Raised (List (DataCategory × SnapshotSourceRecord) × List String) := do
  let localDate ← Checked.require
    (platform.localDate request.exchangeTimezone request.researchAsOfTime) (.failure .other)
  let rounds ← request.categories.mapM (selectCategory env request localDate)
  return ((rounds.flatMap (·.1)).insertionSort (fun a b => selectionKey a ≤ selectionKey b),
    rounds.flatMap (·.2))

/-! ## Checksums -/

def optionalTime : Option Instant → Value
  | none => .null
  | some t => .str t.isoformat

/-- The descriptor of an item. -/
def descriptor (record : SnapshotSourceRecord) (category : DataCategory) : Value :=
  .obj [("category", .str category.value), ("provider_id", .str record.source.providerId.str),
    ("retrieved_at", .str record.source.retrievedAt.isoformat), ("schema", .str "snapshot-item-v1"),
    ("source_published_at", optionalTime record.source.publishedAt),
    ("source_record_id", .str record.source.id.str),
    ("source_record_type", .str category.sourceType)]

def itemWrite (platform : Platform) (x : DataCategory × SnapshotSourceRecord) : SnapshotItemWrite where
  snapshotId := 0
  providerId := x.2.source.providerId
  category := x.1
  sourceRecordType := x.1.sourceType
  sourceRecordId := x.2.source.id
  sourcePublishedAt := x.2.source.publishedAt
  retrievedAt := x.2.source.retrievedAt
  checksumInput := canonicalText (descriptor x.2 x.1)
  checksum := platform.sha256 (canonicalText (descriptor x.2 x.1))

/-- `{"checksum": …, "descriptor": json.loads(item.checksum_input)}` -/
def itemDocument (item : SnapshotItemWrite) : Except Raised Value := do
  let value ← Checked.require (loads item.checksumInput) (.failure .other)
  return .obj [("checksum", .str item.checksum), ("descriptor", value)]

def snapshotChecksum (platform : Platform) (request : SnapshotBuildRequest)
    (items : List SnapshotItemWrite) (warnings : List String) : Except Raised String := do
  let documents ← items.mapM itemDocument
  return platform.sha256 (canonicalText (.obj [
    ("items", .arr documents),
    ("provider_preference", .arr (request.providerPreference.map fun p => .str p.str)),
    ("research_as_of_time", .str request.researchAsOfTime.isoformat),
    ("requested_categories", .arr (request.categories.map fun c => .str c.value)),
    ("schema", .str "data-snapshot-v1"),
    ("security_id", .str request.securityId.str),
    ("snapshot_version", .int request.snapshotVersion),
    ("warnings", .arr (warnings.map .str))]))

def notes (platform : Platform) (warnings : List String) : Option String :=
  if warnings = [] then none
  else
    let digest := platform.sha256 (canonicalText (.obj [("warnings", .arr (warnings.map .str))]))
    some ("snapshot-warnings:v1:count=" ++ toString warnings.length ++ ":sha256=" ++ digest)

/-- What a build is going to store. -/
structure Plan where
  items : List SnapshotItemWrite
  warnings : List String
  checksum : String
  status : SnapshotStatus
deriving DecidableEq

/-- The first statements of the `try` block. -/
def plan (platform : Platform) (env : Surroundings) (request : SnapshotBuildRequest) :
    Except Raised Plan := do
  let (selected, warnings) ← select platform env request
  let items := selected.map (itemWrite platform)
  let checksum ← snapshotChecksum platform request items warnings
  return ⟨items, warnings, checksum, if warnings ≠ [] then .partly else .complete⟩

/-! ## The repository -/

def SnapshotBuildRequest.names (request : SnapshotBuildRequest) (row : DataSnapshotRecord) : Prop :=
  row.securityId = request.securityId ∧ row.researchAsOfTime = request.researchAsOfTime ∧
    row.snapshotVersion = request.snapshotVersion

instance (request : SnapshotBuildRequest) (row : DataSnapshotRecord) :
    Decidable (request.names row) :=
  inferInstanceAs (Decidable (_ ∧ _ ∧ _))

/-- `ck_data_snapshots_completion_shape` -/
def SnapshotStatus.shape : SnapshotStatus → Option Instant → Option String → Prop
  | .building, completedAt, checksum => completedAt = none ∧ checksum = none
  | .failed, completedAt, checksum => completedAt ≠ none ∧ checksum = none
  | .complete, completedAt, checksum => completedAt ≠ none ∧ checksum ≠ none
  | .partly, completedAt, checksum => completedAt ≠ none ∧ checksum ≠ none
  | .superseded, completedAt, checksum => completedAt ≠ none ∧ checksum ≠ none

instance : ∀ (status : SnapshotStatus) (completedAt : Option Instant) (checksum : Option String),
    Decidable (status.shape completedAt checksum)
  | .building, _, _ => inferInstanceAs (Decidable (_ ∧ _))
  | .failed, _, _ => inferInstanceAs (Decidable (_ ∧ _))
  | .complete, _, _ => inferInstanceAs (Decidable (_ ∧ _))
  | .partly, _, _ => inferInstanceAs (Decidable (_ ∧ _))
  | .superseded, _, _ => inferInstanceAs (Decidable (_ ∧ _))

instance : Schema DataSnapshotRecord where
  clash a b := a.id = b.id ∨ a.securityId = b.securityId ∧
    a.researchAsOfTime = b.researchAsOfTime ∧ a.snapshotVersion = b.snapshotVersion
  check r := 0 < r.snapshotVersion ∧ r.status.shape r.completedAt r.checksum
  clash_symm _ _ := Or.imp Eq.symm (And.imp Eq.symm (And.imp Eq.symm Eq.symm))
  decClash _ _ := inferInstance
  decCheck _ := inferInstance

instance : Schema SnapshotItemRecord where
  clash a b := a.id = b.id ∨ a.snapshotId = b.snapshotId ∧
    a.sourceRecordType = b.sourceRecordType ∧ a.sourceRecordId = b.sourceRecordId
  check _ := True
  clash_symm _ _ := Or.imp Eq.symm (And.imp Eq.symm (And.imp Eq.symm Eq.symm))
  decClash _ _ := inferInstance
  decCheck _ := inferInstance

structure Store where
  snapshots : Table DataSnapshotRecord
  items : Table SnapshotItemRecord

def newSnapshot (env : Surroundings) (request : SnapshotBuildRequest) : DataSnapshotRecord where
  id := env.snapshotId
  securityId := request.securityId
  researchAsOfTime := request.researchAsOfTime
  snapshotVersion := request.snapshotVersion
  status := .building
  completedAt := none
  checksum := none
  notes := none
  createdAt := env.createdAt

/-- `get_or_create_snapshot`.  A row that is refused makes it look again, and it is not there. -/
def getOrCreateSnapshot (env : Surroundings) (request : SnapshotBuildRequest) :
    Transaction Raised Store (DataSnapshotRecord × Bool) := do
  lift (env.perform .lookup)
  match ← query (·.snapshots.selectOne fun row => request.names row) with
  | some existing => return (existing, false)
  | none =>
      lift (env.perform .create)
      write (fun s => (s.snapshots.insert (newSnapshot env request)).map fun t =>
        { s with snapshots := t }) (.failure .other)
      return (newSnapshot env request, true)

/-- The row after an update. -/
def DataSnapshotRecord.updated (row : DataSnapshotRecord) (u : DataSnapshotUpdate) :
    DataSnapshotRecord :=
  { row with status := u.status, completedAt := some u.completedAt, checksum := u.checksum,
             notes := u.notes }

/-- `update_snapshot`, up to its flush. -/
def updateSnapshot (snapshotId : Uuid) (u : DataSnapshotUpdate) :
    Transaction Raised Store DataSnapshotRecord := do
  let row ← fetch (← query (·.snapshots.selectOne (·.id = snapshotId))) (.failure .other)
  raiseIf (row.status ≠ .building) (.failure .other)
  write (fun s => (s.snapshots.update (·.id = snapshotId) (·.updated u)).map fun t =>
    { s with snapshots := t }) (.failure .other)
  return row.updated u

def addSnapshotItem (env : Surroundings) (value : SnapshotItemWrite) (index : Nat) :
    Transaction Raised Store SnapshotItemRecord := do
  lift (env.perform (.addItem index))
  let row : SnapshotItemRecord := { value with id := env.itemId index, createdAt := env.createdAt }
  write (fun s => (s.items.insert row).map fun t => { s with items := t }) (.failure .other)
  return row

/-- The order of `list_snapshot_items_for_replay`. -/
def replayKey (item : SnapshotItemRecord) : String ×ₗ String ×ₗ Uuid ×ₗ Uuid :=
  toLex (item.category.value, toLex (item.sourceRecordType, toLex (item.sourceRecordId, item.id)))

/-- The items of a snapshot, in this order. -/
def Store.itemsOf (s : Store) (snapshotId : Uuid) : List SnapshotItemRecord :=
  (s.items.select (·.snapshotId = snapshotId)).insertionSort fun a b => replayKey a ≤ replayKey b

/-- `list_snapshot_items_for_replay`: 396 items at most. -/
def listSnapshotItemsForReplay (env : Surroundings) (s : Store) (snapshotId : Uuid) :
    Except Raised (List SnapshotItemRecord) := do
  env.perform .listItems
  Checked.check (396 < (s.itemsOf snapshotId).length) (.failure .storedDataValidationError)
  return s.itemsOf snapshotId

/-! ## Building -/

def SnapshotItemRecord.summary (item : SnapshotItemRecord) : SnapshotItemSummary :=
  ⟨item.id, item.providerId, item.category, item.sourceRecordType, item.sourceRecordId,
    item.checksum⟩

/-- `item.model_copy(update={"snapshot_id": snapshot_id})` -/
def SnapshotItemWrite.under (item : SnapshotItemWrite) (snapshotId : Uuid) : SnapshotItemWrite :=
  { item with snapshotId := snapshotId }

/-- What `_replay_items_match` compares of an item: all but the snapshot. -/
def SnapshotItemWrite.comparable (item : SnapshotItemWrite) : SnapshotItemWrite := item.under 0

def replayItemsMatch (stored : List SnapshotItemRecord) (expected : List SnapshotItemWrite) : Bool :=
  stored.map (·.comparable) = expected.map (·.comparable)

def replay (env : Surroundings) (s : Store) (snapshot : DataSnapshotRecord) (p : Plan) :
    Except Raised SnapshotBuildResult :=
  match listSnapshotItemsForReplay env s snapshot.id with
  | .error (.failure .storedDataValidationError) => .error (.snapshotBuildError .versionConflict)
  | .error _ => .error (.snapshotBuildError .persistenceFailed)
  | .ok items =>
      if replayItemsMatch items p.items then
        .ok ⟨snapshot, items.map (·.summary), p.status, p.checksum, p.warnings⟩
      else .error (.snapshotBuildError .versionConflict)

/-- The body of `snapshot_attempt()`. -/
def attempt (platform : Platform) (env : Surroundings) (snapshot : DataSnapshotRecord) (p : Plan) :
    Transaction Raised Store SnapshotBuildResult := do
  lift (env.perform .savepoint)
  let persisted ← p.items.zipIdx.mapM fun x => addSnapshotItem env (x.1.under snapshot.id) x.2
  let completedAt ← lift env.completedAt
  lift (env.perform .update)
  let completed ← updateSnapshot snapshot.id
    ⟨p.status, completedAt, some p.checksum, notes platform p.warnings⟩
  lift (env.perform .readUpdated)
  lift (env.perform .release)
  return ⟨completed, persisted.map (·.summary), p.status, p.checksum, p.warnings⟩

/-- A transaction on the whole store. -/
def inTransaction {α : Type} (t : Transaction Raised Store α) : Program Raised Store α :=
  Program.transact id (fun _ s => s) t

/-- Everything is caught. -/
def catchAll {α : Type} (x : Program Raised Store α) (handler : Raised → Program Raised Store α) :
    Program Raised Store α :=
  Program.catching (fun _ => true) x handler

/-- `_mark_failed`.  The read-back comes after the write. -/
def markFailed (env : Surroundings) (snapshotId : Uuid) : Program Raised Store Unit :=
  catchAll
    (do
      let failedAt ← Program.call env.failedAt
      Program.call (env.perform .markFailed)
      let _ ← inTransaction (updateSnapshot snapshotId
        ⟨.failed, failedAt, none, some "Snapshot build failed safely"⟩)
      Program.call (env.perform .readFailed))
    fun _ => throw (.snapshotBuildError .persistenceFailed)

/-- The `try` block of `build`, for a snapshot that has been looked up or created. -/
def buildSnapshot (platform : Platform) (env : Surroundings) (request : SnapshotBuildRequest)
    (snapshot : DataSnapshotRecord) (terminalReplay : Bool) :
    Program Raised Store SnapshotBuildResult := do
  let p ← Program.call (plan platform env request)
  if terminalReplay then
    if snapshot.status ≠ p.status ∨ snapshot.checksum ≠ some p.checksum then
      throw (.snapshotBuildError .versionConflict)
    else inTransaction fun s => (replay env s snapshot p).map fun result => (result, s)
  else inTransaction (attempt platform env snapshot p)

/-- What a replay raises: a `SnapshotBuildError` as it is, and `BUILD_FAILED` for the rest. -/
def replayError : Raised → Raised
  | .snapshotBuildError code => .snapshotBuildError code
  | .failure _ => .snapshotBuildError .buildFailed

/-- `SnapshotBuilder.build` -/
def build (platform : Platform) (env : Surroundings) (request : SnapshotBuildRequest) :
    Program Raised Store SnapshotBuildResult := do
  let (snapshot, created) ← catchAll (inTransaction (getOrCreateSnapshot env request))
    fun _ => throw (.snapshotBuildError .persistenceFailed)
  let terminalReplay := !created && decide (snapshot.status ≠ .building)
  catchAll (buildSnapshot platform env request snapshot terminalReplay) fun e =>
    if terminalReplay then throw (replayError e)
    else do
      markFailed env snapshot.id
      throw (.snapshotBuildError .buildFailed)

end StockResearch.DataAccess
