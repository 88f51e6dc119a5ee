import StockResearch.Core.Checked
import StockResearch.Core.Dict
import StockResearch.Core.JsonBytes
import StockResearch.Core.Url
import Mathlib.Data.Finset.Dedup

/-!
# The local blob storage

Bytes are kept under a key of 32 hexadecimal digits, with a sidecar beside them that describes them:
one JSON object in ASCII.  Readers find a blob by its URI, hold the sidecar to a limit of its own,
read it back strictly and compare the bytes with it.

**Validity.**  `BlobMetadata` carries what its constructor checks: the metadata of the caller is a
dictionary of texts within the limits.  A `LocalBlobStorage` has a positive limit, and the length of
`Bytes` is one that a `bytes` object can have.

**Files.**  The directory of the storage is a dictionary of file names; a pair of files is written,
read and deleted together.  Failures of the operating system are left out.

**Libraries.**  Digests, general categories, absolute paths and the encodings other than UTF-8 are
parameters.  Of them it is used that a graphic ASCII character is no control character and that a
digest has 64 hexadecimal digits.
-/

namespace StockResearch.Infrastructure

open PyText PyJson PyUrl Checked

/-- A digit of `hexdigest()`. -/
def isHexDigit (c : Char) : Bool := c.isDigit || ('a' ≤ c && c ≤ 'f')

/-- `re.compile(r"[0-9a-f]{n}").fullmatch(text)` -/
def isHex (n : Nat) (t : Text) : Bool := t.length == n && t.all isHexDigit

/-- What the storage needs of other libraries. -/
structure BlobLibrary where
  /-- `unicodedata.category(c).startswith("C")` -/
  isOther : Char → Bool
  /-- `PurePosixPath(text).is_absolute()` -/
  isPosixAbsolute : Text → Bool
  /-- `PureWindowsPath(text).is_absolute()` -/
  isWindowsAbsolute : Text → Bool
  /-- `hashlib.sha256(data).hexdigest()` -/
  sha256 : List UInt8 → String
  urls : UrlTables
  /-- `raw.decode(encoding)` -/
  decode : Encoding → List UInt8 → Option Text
  graphic : ∀ c : Char, 32 ≤ c.toNat → c.toNat < 127 → isOther c = false
  hexdigest : ∀ data, isHex 64 (sha256 data).toList = true

/-- A `bytes` object; its length is a `Py_ssize_t`. -/
structure Bytes where
  bytes : List UInt8
  length_lt : bytes.length < 2 ^ 63

/-! ## Errors -/

inductive BlobErrorClass where
  | storage | invalidUri | notFound | alreadyExists | sizeLimitExceeded
deriving DecidableEq, Repr

structure BlobError where
  errorClass : BlobErrorClass
  message : String
deriving DecidableEq, Repr

/-- `BlobStorageError` -/
def storageError (message : String) : BlobError := ⟨.storage, message⟩

def invalidUri : BlobError := ⟨.invalidUri, "invalid blob URI"⟩

def invalidKey : BlobError := ⟨.invalidUri, "invalid blob key"⟩

def sizeLimitExceeded : BlobError := ⟨.sizeLimitExceeded, "blob exceeds configured size limit"⟩

def invalidMetadata : BlobError := storageError "blob metadata is invalid"

def failedIntegrity : BlobError := storageError "blob integrity check failed"

/-! ## Limits -/

def maxUriLength : Nat := 256

def maxContentTypeLength : Nat := 255

def maxMetadataEntries : Nat := 32

def maxMetadataKeyLength : Nat := 64

def maxMetadataValueLength : Nat := 1024

def maxMetadataTotalLength : Nat := 8192

def maxSidecarBytes : Nat := 128 * 1024

def sidecarSuffix : Text := ".metadata.json".toList

section Validation

variable (lib : BlobLibrary)

def hasControl (text : Text) : Bool := text.any lib.isOther

def looksLikeAbsolutePath (text : Text) : Bool :=
  lib.isPosixAbsolute text || lib.isWindowsAbsolute text

def validateData (data : Bytes) (maxBlobBytes : Nat) : Except BlobError Unit :=
  check (maxBlobBytes < data.bytes.length) sizeLimitExceeded

def validateContentType : Value → Except BlobError String
  | .str contentType => do
      check (strip contentType.toList = []) (storageError "content type must not be empty")
      check (maxContentTypeLength < contentType.length ∨ hasControl lib contentType.toList = true)
        (storageError "content type is invalid")
      return contentType
  | _ => .error (storageError "content type must be a string")

/-- The checks of one entry of a caller's metadata. -/
def validateEntry : Value × Value → Except BlobError (String × String)
  | (.str key, .str value) => do
      check (strip key.toList = [] ∨ strip value.toList = [])
        (storageError "blob metadata keys and values must not be empty")
      check (maxMetadataKeyLength < key.length ∨ maxMetadataValueLength < value.length)
        (storageError "blob metadata entry exceeds configured bounds")
      check (hasControl lib key.toList = true ∨ hasControl lib value.toList = true)
        (storageError "blob metadata contains invalid characters")
      check (looksLikeAbsolutePath lib key.toList = true ∨ looksLikeAbsolutePath lib value.toList = true)
        (storageError "blob metadata must not contain a local absolute path")
      return (key, value)
  | _ => .error (storageError "blob metadata keys and values must be strings")

/-- `len(key) + len(value)` -/
def entryLength (entry : String × String) : Nat := entry.1.length + entry.2.length

/-- The loop of `_validate_caller_metadata`. -/
def copyEntries : Nat → List (String × String) → List (Value × Value) →
    Except BlobError (List (String × String))
  | _, copied, [] => .ok copied
  | total, copied, entry :: entries => do
      let entry ← validateEntry lib entry
      check (maxMetadataTotalLength < total + entryLength entry)
        (storageError "blob metadata exceeds configured bounds")
      copyEntries (total + entryLength entry) (Dict.put Prod.fst copied entry) entries

/-- `_validate_caller_metadata` on the items of a mapping. -/
def validateCallerMetadata : Option (List (Value × Value)) →
    Except BlobError (List (String × String))
  | none => .ok []
  | some entries => do
      check (maxMetadataEntries < entries.length) (storageError "blob metadata has too many entries")
      copyEntries lib 0 [] entries

/-- The items of a dictionary of texts. -/
def itemsOf (metadata : List (String × String)) : List (Value × Value) :=
  metadata.map fun entry => (.str entry.1, .str entry.2)

/-- The metadata of a caller as it is kept. -/
structure ValidMetadata (metadata : List (String × String)) : Prop where
  distinct : (metadata.map Prod.fst).Nodup
  entries : metadata.length ≤ maxMetadataEntries
  checked : ∀ entry ∈ metadata, validateEntry lib (.str entry.1, .str entry.2) = .ok entry
  total : (metadata.map entryLength).sum ≤ maxMetadataTotalLength

variable {lib}

lemma eq_of_validateEntry {item : Value × Value} {entry : String × String}
    (h : validateEntry lib item = .ok entry) : item = (.str entry.1, .str entry.2) := by
  unfold validateEntry at h
  split at h
  · simp only [check_bind_ok] at h
    obtain ⟨-, -, -, -, heq⟩ := h
    cases heq
    rfl
  · cases h

/-- One round of the loop keeps what was copied valid. -/
lemma validMetadata_put {copied : List (String × String)} {item : Value × Value}
    {entry : String × String} (hcopied : ValidMetadata lib copied)
    (hentry : validateEntry lib item = .ok entry)
    (hentries : copied.length < maxMetadataEntries)
    (htotal : (copied.map entryLength).sum + entryLength entry ≤ maxMetadataTotalLength) :
    ValidMetadata lib (Dict.put Prod.fst copied entry) where
  distinct := Dict.nodup_put hcopied.distinct entry
  entries := (Dict.length_put_le Prod.fst copied entry).trans hentries
  checked := by
    intro other hother
    rcases Dict.mem_of_mem_put hother with rfl | hmem
    · rw [← eq_of_validateEntry hentry]
      exact hentry
    · exact hcopied.checked other hmem
  total := (Dict.sum_put_le entryLength hcopied.distinct entry).trans htotal

lemma validMetadata_of_copyEntries {total : Nat} {copied metadata : List (String × String)}
    {items : List (Value × Value)} (h : copyEntries lib total copied items = .ok metadata)
    (hcopied : ValidMetadata lib copied)
    (hentries : copied.length + items.length ≤ maxMetadataEntries)
    (htotal : (copied.map entryLength).sum ≤ total) : ValidMetadata lib metadata := by
  induction items generalizing total copied with
  | nil =>
      cases h
      exact hcopied
  | cons item items ih =>
      rw [copyEntries, bind_ok] at h
      obtain ⟨entry, hentry, h⟩ := h
      obtain ⟨hlimit, h⟩ := check_bind_ok.mp h
      rw [List.length_cons] at hentries
      have hlength := Dict.length_put_le Prod.fst copied entry
      have hsum := Dict.sum_put_le entryLength hcopied.distinct entry
      refine ih h (validMetadata_put hcopied hentry (by omega) (by omega)) (by omega) (by omega)

/-- What the validation returns is valid. -/
theorem validMetadata_of_validate {items : Option (List (Value × Value))}
    {metadata : List (String × String)} (h : validateCallerMetadata lib items = .ok metadata) :
    ValidMetadata lib metadata := by
  have hempty : ValidMetadata lib [] := ⟨.nil, Nat.zero_le _, by simp, Nat.zero_le _⟩
  cases items with
  | none =>
      cases h
      exact hempty
  | some items =>
      obtain ⟨hlimit, h⟩ := check_bind_ok.mp h
      refine validMetadata_of_copyEntries h hempty ?_ (Nat.zero_le _)
      simpa using hlimit

end Validation

/-! ## Metadata of a blob -/

structure BlobMetadata (lib : BlobLibrary) where
  uri : String
  checksumSha256 : String
  sizeBytes : Nat
  contentType : String
  metadata : List (String × String)
  valid : ValidMetadata lib metadata

/-- `BlobMetadata(...)`, which validates the metadata of the caller once more. -/
def BlobMetadata.make (lib : BlobLibrary) (uri checksumSha256 : String) (sizeBytes : Nat)
    (contentType : String) (metadata : List (String × String)) : Except BlobError (BlobMetadata lib) :=
  match h : validateCallerMetadata lib (some (itemsOf metadata)) with
  | .ok copied => .ok ⟨uri, checksumSha256, sizeBytes, contentType, copied, validMetadata_of_validate h⟩
  | .error e => .error e

section Formats

variable (lib : BlobLibrary)

def validateKey (key : Text) : Except BlobError Text :=
  if isHex 32 key then .ok key else .error invalidKey

/-- `_generate_key`; a factory that raises or returns no text makes nothing. -/
def generateKey (made : Option Text) : Except BlobError Text :=
  require made invalidKey >>= validateKey

/-- `f"blob://{backend}/{key}"` -/
def blobUri (backend key : Text) : String :=
  String.ofList ("blob".toList ++ ':' :: '/' :: '/' :: (backend ++ '/' :: key))

def parseUri (uri : String) (expectedBackend : Text) : Except BlobError Text := do
  check (maxUriLength < uri.length ∨ hasControl lib uri.toList = true ∨ '%' ∈ uri.toList ∨
    '\\' ∈ uri.toList) invalidUri
  let parsed ← require (urlsplit lib.urls uri.toList []) invalidUri
  check (parsed.scheme ≠ "blob".toList ∨ parsed.netloc ≠ expectedBackend ∨
    parsed.hasUserinfo = true ∨ parsed.query ≠ [] ∨ parsed.fragment ≠ [] ∨
    parsed.path.head? ≠ some '/' ∨ parsed.path.count '/' ≠ 1) invalidUri
  validateKey parsed.path.tail

def newMetadata (backend key : Text) (data : Bytes) (contentType : String)
    (metadata : List (String × String)) : Except BlobError (BlobMetadata lib) :=
  BlobMetadata.make lib (blobUri backend key) (lib.sha256 data.bytes) data.bytes.length contentType metadata

variable {lib}

/-- The members of a sidecar. -/
def sidecarFields (m : BlobMetadata lib) : List (String × Value) :=
  [("checksum_sha256", .str m.checksumSha256), ("content_type", .str m.contentType),
    ("metadata", .obj (m.metadata.map fun entry => (entry.1, .str entry.2))),
    ("size_bytes", .int m.sizeBytes), ("uri", .str m.uri)]

def serializeMetadata (m : BlobMetadata lib) : List UInt8 :=
  encodeUtf8 (asciiText (.obj (sidecarFields m)))

def sidecarKeys : List String := ["checksum_sha256", "content_type", "metadata", "size_bytes", "uri"]

/-- A member that is a text. -/
def textOf : Option Value → Option String
  | some (.str s) => some s
  | _ => none

/-- A member that is an integer. -/
def integerOf : Option Value → Option Int
  | some (.int n) => some n
  | _ => none

/-- A member that is an object. -/
def fieldsOf : Option Value → Option (List (String × Value))
  | some (.obj fields) => some fields
  | _ => none

variable (lib)

def deserializeMetadata (raw : List UInt8) (expectedUri : String) (maxBlobBytes : Nat) :
    Except BlobError (BlobMetadata lib) := do
  let value ← require (loadsBytes lib.decode raw) invalidMetadata
  let fields ← require (fieldsOf (some value)) invalidMetadata
  check ((fields.map Prod.fst).toFinset ≠ sidecarKeys.toFinset) invalidMetadata
  check (textOf (value.get? "uri") ≠ some expectedUri) invalidMetadata
  let checksum ← require ((textOf (value.get? "checksum_sha256")).filter fun s => isHex 64 s.toList)
    invalidMetadata
  let sizeBytes ← require ((integerOf (value.get? "size_bytes")).filter fun n =>
    decide (0 ≤ n ∧ n ≤ (maxBlobBytes : Int))) invalidMetadata
  let callerMetadata ← require (fieldsOf (value.get? "metadata")) invalidMetadata
  let contentType ← validateContentType lib ((value.get? "content_type").getD .null)
  let metadata ← validateCallerMetadata lib
    (some (callerMetadata.map fun field => (.str field.1, field.2)))
  BlobMetadata.make lib expectedUri checksum sizeBytes.toNat contentType metadata

end Formats

/-! ## Files -/

/-- The files of a directory. -/
abbrev Directory := List (Text × List UInt8)

/-- `f"{key}{_SIDECAR_SUFFIX}"` -/
def sidecarName (key : Text) : Text := key ++ sidecarSuffix

namespace Directory

variable (directory : Directory) (contentName sidecarName : Text)

def pairExists : Bool × Bool :=
  ((directory.lookup contentName).isSome, (directory.lookup sidecarName).isSome)

/-- `read_pair`; nothing when an entry is missing. -/
def readPair (contentLimit sidecarLimit : Nat) :
    Option (Except BlobError (List UInt8 × List UInt8)) :=
  match directory.lookup contentName, directory.lookup sidecarName with
  | some content, some sidecar => some do
      check (contentLimit < content.length) sizeLimitExceeded
      check (sidecarLimit < sidecar.length) sizeLimitExceeded
      return (content, sidecar)
  | _, _ => none

def writePair (content sidecar : List UInt8) : Except BlobError Directory :=
  if (directory.lookup contentName).isSome ∨ (directory.lookup sidecarName).isSome then
    .error ⟨.alreadyExists, "blob key already exists"⟩
  else .ok ((contentName, content) :: (sidecarName, sidecar) :: directory)

/-- `delete_pair`; nothing when both entries are missing. -/
def deletePair : Option Directory :=
  if (directory.lookup contentName).isNone ∧ (directory.lookup sidecarName).isNone then none
  else some (directory.filter fun file => file.1 ≠ contentName ∧ file.1 ≠ sidecarName)

end Directory

/-! ## Storage -/

structure LocalBlobStorage where
  maxBlobBytes : Nat
  directory : Directory
  positive : 0 < maxBlobBytes

/-- The items of a mapping that a caller passes; a mapping has every key once. -/
structure CallerMapping where
  items : List (Value × Value)
  distinct : (items.map Prod.fst).Nodup

namespace LocalBlobStorage

variable (lib : BlobLibrary) (storage : LocalBlobStorage)

def put (made : Option Text) (data : Bytes) (contentType : Value) (metadata : Option CallerMapping) :
    Except BlobError (BlobMetadata lib × LocalBlobStorage) := do
  validateData data storage.maxBlobBytes
  let contentType ← validateContentType lib contentType
  let metadata ← validateCallerMetadata lib (metadata.map (·.items))
  let key ← generateKey made
  let result ← newMetadata lib "local".toList key data contentType metadata
  let directory ← storage.directory.writePair key (sidecarName key) data.bytes
    (serializeMetadata result)
  return (result, { storage with directory := directory })

def readVerified (uri : String) : Except BlobError (BlobMetadata lib × List UInt8) := do
  let key ← parseUri lib uri "local".toList
  match storage.directory.readPair key (sidecarName key) storage.maxBlobBytes maxSidecarBytes with
  | none =>
      check (storage.directory.pairExists key (sidecarName key) = (false, false))
        ⟨.notFound, "blob not found"⟩
      .error (storageError "blob storage entry is incomplete")
  | some pair =>
      let (data, rawSidecar) ← pair
      let metadata ← deserializeMetadata lib rawSidecar uri storage.maxBlobBytes
      check (data.length ≠ metadata.sizeBytes) failedIntegrity
      check (lib.sha256 data ≠ metadata.checksumSha256) failedIntegrity
      return (metadata, data)

def get (uri : String) : Except BlobError (List UInt8) := (readVerified lib storage uri).map Prod.snd

def checksum (uri : String) : Except BlobError String :=
  (readVerified lib storage uri).map fun read => read.1.checksumSha256

def metadata (uri : String) : Except BlobError (BlobMetadata lib) :=
  (readVerified lib storage uri).map Prod.fst

/-- `exists` -/
def blobExists (uri : String) : Except BlobError Bool := do
  let key ← parseUri lib uri "local".toList
  match storage.directory.pairExists key (sidecarName key) with
  | (false, false) => return false
  | (true, true) => return true
  | _ => .error (storageError "blob storage entry is incomplete")

def delete (uri : String) : Except BlobError LocalBlobStorage := do
  let key ← parseUri lib uri "local".toList
  let directory ← require (storage.directory.deletePair key (sidecarName key))
    ⟨.notFound, "blob not found"⟩
  return { storage with directory := directory }

end LocalBlobStorage

/-- An operation that changes the storage. -/
inductive BlobOperation where
  | put (made : Option Text) (data : Bytes) (contentType : Value) (metadata : Option CallerMapping)
  | delete (uri : String)

/-- The storage after an operation; one that fails changes nothing. -/
def LocalBlobStorage.after (lib : BlobLibrary) (storage : LocalBlobStorage) :
    BlobOperation → LocalBlobStorage
  | .put made data contentType metadata =>
      match storage.put lib made data contentType metadata with
      | .ok (_, storage') => storage'
      | .error _ => storage
  | .delete uri =>
      match storage.delete lib uri with
      | .ok storage' => storage'
      | .error _ => storage

end StockResearch.Infrastructure
