import StockResearch.Core.Calendar
import StockResearch.Core.Unicode
import StockResearch.Core.Uuid

/-!
# Provider records and batches

The value objects an adapter returns: a record with its identity, numeric values as decimal
strings and text values, and the batch of one response.  A batch is valid when its record keys are
in order and no two are equal, so a `ProviderBatch` carries that as its own field.

`Library` collects what the adapters call in Python's standard library and what no result here
depends on: the digest, the decoding of bytes, decimal numbers and the Unicode character database.
Every theorem holds for any such library.
-/

namespace StockResearch.Providers

open PyJson PyTime

inductive ProviderSyntheticStatus where
  | realVerified | fixtureRealExcerpt | syntheticTestOnly | unknown
deriving DecidableEq, Repr

def ProviderSyntheticStatus.value : ProviderSyntheticStatus → String
  | .realVerified => "REAL_VERIFIED"
  | .fixtureRealExcerpt => "FIXTURE_REAL_EXCERPT"
  | .syntheticTestOnly => "SYNTHETIC_TEST_ONLY"
  | .unknown => "UNKNOWN"

/-- What an adapter raises: a `ValueError`, a `_SecBoundaryError` or a pydantic `ValidationError`. -/
inductive Raised where
  | value (code : String)
  | boundary (code : String)
  | validation (message : String)
deriving DecidableEq, Repr

/-- The standard library as the adapters call it. -/
structure Library where
  /-- `hashlib.sha256(body).hexdigest()` -/
  sha256 : List UInt8 → String
  /-- `body.decode(json.detect_encoding(body))` -/
  decode : List UInt8 → Option (List Char)
  /-- `body.decode("utf-8")` does not raise. -/
  isUtf8 : List UInt8 → Bool
  /-- `str(Decimal(text))`, if the text denotes a finite number. -/
  decimal : String → Option String
  /-- `float(literal) == 0` -/
  floatIsZero : List Char → Bool
  /-- `str(value)` of a list or a dictionary. -/
  containerText : Value → String
  /-- `\d` -/
  isDecimal : Char → Bool
  /-- `c.isalnum()` -/
  isAlnum : Char → Bool
  /-- `text.casefold()` -/
  casefold : String → String

/-- A library for ASCII texts, with a digest of the right shape. -/
def asciiLibrary : Library where
  sha256 body := String.ofList (Uuid.hexDigits 64 (body.foldl (fun n b => n * 257 + b.toNat + 1) 0))
  decode body := if body.all (· < 128) then some (body.map fun b => Char.ofNat b.toNat) else none
  isUtf8 body := body.all (· < 128)
  decimal s := if s ≠ "" ∧ s.toList.all Char.isDigit then some s else none
  floatIsZero literal := literal.all fun c => !c.isDigit || c == '0'
  containerText _ := ""
  isDecimal := Char.isDigit
  isAlnum := Char.isAlphanum
  casefold s := String.ofList (s.toList.map Char.toLower)

/-- `value == value.strip()` and no control character: the text is normalized and printable. -/
def isPrintable (s : String) : Bool :=
  !(s.toList.head?.any PyText.isSpace) && !(s.toList.getLast?.any PyText.isSpace) &&
    s.toList.all fun c => 32 ≤ c.toNat && c.toNat != 127

/-! ## Records -/

structure ProviderRecordIdentity where
  providerDefinitionId : Uuid
  providerCapabilityId : Uuid
  sourceIdentity : String
  recordKey : String
  revision : Nat
  validSource : 1 ≤ sourceIdentity.length ∧ sourceIdentity.length ≤ 512
  validKey : 1 ≤ recordKey.length ∧ recordKey.length ≤ 256
  validRevision : 1 ≤ revision ∧ revision ≤ 1000000
  printable : isPrintable sourceIdentity ∧ isPrintable recordKey
deriving DecidableEq

/-- The members of an identity in canonical JSON. -/
def ProviderRecordIdentity.json (i : ProviderRecordIdentity) : Value :=
  .obj [("provider_definition_id", .str i.providerDefinitionId.str),
    ("provider_capability_id", .str i.providerCapabilityId.str),
    ("source_identity", .str i.sourceIdentity), ("record_key", .str i.recordKey),
    ("revision", .int i.revision)]

/-- `provider_checksum(identity)` -/
def ProviderRecordIdentity.checksum (library : Library) (i : ProviderRecordIdentity) : String :=
  library.sha256 ((canonicalText i.json).flatMap String.utf8EncodeChar)

/-- `ProviderRecordIdentity(…, revision=1)` -/
def ProviderRecordIdentity.create (providerDefinitionId providerCapabilityId : Uuid)
    (sourceIdentity recordKey : String) : Except Raised ProviderRecordIdentity :=
  if h : (1 ≤ sourceIdentity.length ∧ sourceIdentity.length ≤ 512) ∧
      (1 ≤ recordKey.length ∧ recordKey.length ≤ 256) then
    if hp : isPrintable sourceIdentity ∧ isPrintable recordKey then
      .ok { providerDefinitionId, providerCapabilityId, sourceIdentity, recordKey, revision := 1
            validSource := h.1, validKey := h.2, validRevision := by omega, printable := hp }
    else .error (.validation "record identity must be normalized printable text")
  else .error (.validation "string_length")

inductive ProviderRecordStatus where
  | complete | partly | missing
deriving DecidableEq, Repr

structure ProviderRecord where
  identity : ProviderRecordIdentity
  rawArtifactId : Uuid
  sourceChecksum : String
  sourcePublishedAt : Option Instant
  status : ProviderRecordStatus
  numericValues : List (String × Option String)
  textValues : List (String × Option String)
  warningCodes : List String
  syntheticStatus : ProviderSyntheticStatus
deriving DecidableEq

namespace ProviderRecord

/-- `identity.record_key` -/
def key (r : ProviderRecord) : String := r.identity.recordKey

/-- `text_values[name]`, if it is there and a text. -/
def text (r : ProviderRecord) (name : String) : Option String :=
  (r.textValues.lookup name).join

/-- The text under a name among the text values or the numeric values. -/
def stated (r : ProviderRecord) (name : String) : Option String :=
  r.text name <|> (r.numericValues.lookup name).join

/-- The validators of `ProviderRecord`. -/
def validate (library : Library) (r : ProviderRecord) : Except Raised ProviderRecord :=
  if r.numericValues.any fun v => v.2.any fun s => (library.decimal s).isNone then
    .error (.validation "numeric values must be Decimal strings")
  else if r.status = .partly ∧ r.warningCodes = [] then
    .error (.validation "PARTIAL records require a warning")
  else if r.status = .missing ∧ r.warningCodes = [] then
    .error (.validation "MISSING records require a warning")
  else if r.status = .missing ∧ r.numericValues.any fun v => v.2.isSome then
    .error (.validation "missing numeric values cannot be filled with zero")
  else .ok r

lemma validate_ok {library : Library} {r s : ProviderRecord} (h : r.validate library = .ok s) :
    s = r := by
  unfold validate at h
  split_ifs at h
  exact (Except.ok.inj h).symm

end ProviderRecord

lemma ProviderRecordIdentity.create_ok {definition capability : Uuid} {source key : String}
    {i : ProviderRecordIdentity} (h : create definition capability source key = .ok i) :
    i.recordKey = key := by
  unfold create at h
  split_ifs at h
  rw [← Except.ok.inj h]

/-! ## Batches -/

/-- A batch with its records in the order of their keys, no two of which are equal. -/
structure ProviderBatch where
  manifestChecksum : String
  records : List ProviderRecord
  bounded : 1 ≤ records.length ∧ records.length ≤ 10000
  ordered : (records.map ProviderRecord.key).Pairwise (· ≤ ·)
  unique : (records.map ProviderRecord.key).Nodup
deriving DecidableEq

/-- `ProviderBatch(manifest_checksum=…, records=…)` -/
def ProviderBatch.create (library : Library) (manifestChecksum : String)
    (records : List ProviderRecord) : Except Raised ProviderBatch :=
  if hb : 1 ≤ records.length ∧ records.length ≤ 10000 then
    if ho : (records.map ProviderRecord.key).Pairwise (· ≤ ·) ∧
        (records.map ProviderRecord.key).Nodup then
      if (records.map fun r => r.identity.checksum library).Nodup then
        .ok { manifestChecksum, records, bounded := hb, ordered := ho.1, unique := ho.2 }
      else .error (.validation "batch contains duplicate record identity")
    else .error (.validation "batch record identities must be unique and stably ordered")
  else .error (.validation "records_length")

/-- `tuple(sorted(records, key=lambda record: record.identity.record_key))` -/
def sortRecords (records : List ProviderRecord) : List ProviderRecord :=
  records.insertionSort fun a b => a.key ≤ b.key

lemma ProviderBatch.create_ok {library : Library} {checksum : String}
    {records : List ProviderRecord} {batch : ProviderBatch}
    (h : create library checksum records = .ok batch) : batch.records = records := by
  unfold create at h
  split_ifs at h
  rw [← Except.ok.inj h]

/-- The records of a sorted batch are those that were sorted, and their keys differ. -/
lemma ProviderBatch.create_sortRecords_ok {library : Library} {checksum : String}
    {records : List ProviderRecord} {batch : ProviderBatch}
    (h : create library checksum (sortRecords records) = .ok batch) :
    (∀ r, r ∈ batch.records ↔ r ∈ records) ∧ (records.map ProviderRecord.key).Nodup := by
  have hrecords := create_ok h
  have hperm : (sortRecords records).Perm records := List.perm_insertionSort _ _
  refine ⟨fun r => by rw [hrecords, hperm.mem_iff], ?_⟩
  rw [← (hperm.map ProviderRecord.key).nodup_iff, ← hrecords]
  exact batch.unique

lemma validRevision_one : 1 ≤ 1 ∧ 1 ≤ 1000000 := by decide

lemma validKey_a : 1 ≤ "a".length ∧ "a".length ≤ 256 := by decide

end StockResearch.Providers
