import StockResearch.Infrastructure.BlobLaw

/-!
# A blob that was put is read back

**Steps.**  `after_cases` says all that an operation can do to the storage: nothing, write a fresh
pair of files, or delete a pair.  `Stored` says where a blob and its sidecar stand; an operation that
does not delete the blob keeps it (`stored_after`), and so does a run (`stored_run`).

**Reading.**  What is stored is read back (`readVerified_of_stored`).  **`put_then_read`**: a put that
succeeds is followed by reads that return what was put, until the blob is deleted.
-/

namespace StockResearch.Infrastructure

open PyText PyJson PyUrl Checked

variable {lib : BlobLibrary}

/-! ## Files -/

section Files

variable {directory directory' : Directory} {key other : Text}

lemma ne_sidecarName (hkey : isHex 32 key = true) (hother : isHex 32 other = true) :
    key ≠ sidecarName other := by
  intro heq
  have hlength := congrArg List.length heq
  rw [sidecarName, List.length_append, length_of_isHex hkey, length_of_isHex hother] at hlength
  have hsuffix : sidecarSuffix.length = 14 := by decide
  omega

lemma sidecarName_inj : sidecarName key = sidecarName other ↔ key = other := by
  rw [sidecarName, sidecarName, List.append_left_inj]

/-- The names of one pair are not those of another. -/
lemma pair_ne (hkey : isHex 32 key = true) (hother : isHex 32 other = true) (hne : key ≠ other)
    {name : Text} (hname : name = key ∨ name = sidecarName key) :
    name ≠ other ∧ name ≠ sidecarName other := by
  rcases hname with rfl | rfl
  · exact ⟨hne, ne_sidecarName hkey hother⟩
  · exact ⟨(ne_sidecarName hother hkey).symm, fun h => hne (sidecarName_inj.mp h)⟩

lemma writePair_ok {contentName sidecar : Text} {content metadata : List UInt8}
    (h : directory.writePair contentName sidecar content metadata = .ok directory') :
    directory.lookup contentName = none ∧ directory.lookup sidecar = none ∧
      directory' = (contentName, content) :: (sidecar, metadata) :: directory := by
  unfold Directory.writePair at h
  split at h
  · cases h
  · next hfree =>
    rw [not_or, Option.not_isSome_iff_eq_none, Option.not_isSome_iff_eq_none] at hfree
    cases h
    exact ⟨hfree.1, hfree.2, rfl⟩

lemma deletePair_eq {contentName sidecar : Text}
    (h : directory.deletePair contentName sidecar = some directory') {name : Text}
    (hname : name ≠ contentName ∧ name ≠ sidecar) : directory'.lookup name = directory.lookup name := by
  unfold Directory.deletePair at h
  split at h
  · cases h
  · cases h
    exact Dict.lookup_filter (p := fun l => decide (l ≠ contentName ∧ l ≠ sidecar))
      (decide_eq_true hname) directory

end Files

/-! ## Runs -/

section Runs

variable {storage storage' : LocalBlobStorage} {m : BlobMetadata lib} {key : Text} {data : Bytes}

/-- What a successful put has made, and where it has put it. -/
structure PutResult (storage storage' : LocalBlobStorage) (made : Option Text) (data : Bytes)
    (contentType : Value) (metadata : Option CallerMapping) (m : BlobMetadata lib) (key : Text) :
    Prop where
  made : made = some key
  fits : data.bytes.length ≤ storage.maxBlobBytes
  describes : Describes m key data
  contentType : contentType = .str m.contentType
  metadata : itemsOf m.metadata = (metadata.map (·.items)).getD []
  free : storage.directory.lookup key = none ∧ storage.directory.lookup (sidecarName key) = none
  limit : storage'.maxBlobBytes = storage.maxBlobBytes
  directory : storage'.directory =
    (key, data.bytes) :: (sidecarName key, serializeMetadata m) :: storage.directory

lemma put_ok {made : Option Text} {contentType : Value} {metadata : Option CallerMapping}
    (h : storage.put lib made data contentType metadata = .ok (m, storage')) :
    ∃ key, PutResult storage storage' made data contentType metadata m key := by
  unfold LocalBlobStorage.put at h
  rw [unit_bind_ok] at h
  obtain ⟨hdata, h⟩ := h
  simp only [bind_ok] at h
  obtain ⟨content, hcontent, caller, hcaller, key, hkey, result, hresult, directory, hwrite, h⟩ := h
  cases h
  obtain ⟨made, hmade, hhex⟩ := require_bind_ok.mp hkey
  unfold validateKey at hhex
  split at hhex
  case isFalse => cases hhex
  case isTrue hhex' =>
  cases hhex
  have hvalid := validMetadata_of_validate hcaller
  rw [newMetadata, BlobMetadata.make_ok hvalid] at hresult
  cases hresult
  obtain ⟨hcontentName, hsidecar, rfl⟩ := writePair_ok hwrite
  obtain ⟨rfl, hlength⟩ := validateContentType_ok hcontent
  refine ⟨key, hmade, Nat.not_lt.mp (check_ok.mp hdata), ⟨hhex', rfl, rfl, rfl, hcontent⟩, rfl, ?_,
    ⟨hcontentName, hsidecar⟩, rfl, rfl⟩
  cases metadata with
  | none =>
      cases hcaller
      rfl
  | some mapping => exact itemsOf_of_validate hcaller

/-- The blob and its sidecar stand under their names. -/
structure Stored (storage : LocalBlobStorage) (m : BlobMetadata lib) (key : Text) (data : Bytes) :
    Prop where
  describes : Describes m key data
  fits : data.bytes.length ≤ storage.maxBlobBytes
  content : storage.directory.lookup key = some data.bytes
  sidecar : storage.directory.lookup (sidecarName key) = some (serializeMetadata m)

lemma PutResult.stored {made : Option Text} {contentType : Value} {metadata : Option CallerMapping}
    (h : PutResult storage storage' made data contentType metadata m key) :
    Stored storage' m key data where
  describes := h.describes
  fits := h.limit ▸ h.fits
  content := by rw [h.directory, List.lookup_cons_self]
  sidecar := by
    have hne := (ne_sidecarName h.describes.hexKey h.describes.hexKey).symm
    rw [h.directory, Dict.lookup_cons_ite, if_neg hne, List.lookup_cons_self]

/-- The files of a stored blob are read within the limits. -/
lemma readPair_of_stored (h : Stored storage m key data) :
    storage.directory.readPair key (sidecarName key) storage.maxBlobBytes maxSidecarBytes =
      some (.ok (data.bytes, serializeMetadata m)) := by
  have hsidecar := length_serializeMetadata h.describes
  rw [Directory.readPair, h.content, h.sidecar]
  dsimp only
  rw [check_ok.mpr (Nat.not_lt.mpr h.fits), ok_bind, check_ok.mpr (Nat.not_lt.mpr hsidecar), ok_bind]
  rfl

lemma readVerified_of_stored (h : Stored storage m key data) :
    ∃ read, storage.readVerified lib m.uri = .ok (read, data.bytes) ∧ read.Same m := by
  obtain ⟨read, hread, hsame⟩ := deserialize_serialize h.describes h.fits
  refine ⟨read, ?_, hsame⟩
  have hparse : parseUri lib m.uri "local".toList = .ok key := by
    rw [h.describes.uri]
    exact parseUri_blobUri h.describes.hexKey
  have hsize : ¬ data.bytes.length ≠ read.sizeBytes := by
    rw [hsame.size, h.describes.size]
    exact fun hne => hne rfl
  have hchecksum : ¬ lib.sha256 data.bytes ≠ read.checksumSha256 := by
    rw [hsame.checksum, h.describes.checksum]
    exact fun hne => hne rfl
  rw [LocalBlobStorage.readVerified, hparse, ok_bind, readPair_of_stored h]
  dsimp only
  rw [ok_bind]
  dsimp only
  rw [hread, ok_bind, check_ok.mpr hsize, ok_bind, check_ok.mpr hchecksum, ok_bind]
  rfl

/-- The operation does not delete the blob of the key, under whatever spelling of its URI. -/
def Spares (lib : BlobLibrary) (key : Text) : BlobOperation → Prop
  | .put .. => True
  | .delete uri => parseUri lib uri localBackend ≠ .ok key

/-- What an operation can do: nothing, write a fresh pair, or delete a pair. -/
lemma after_cases (lib : BlobLibrary) (storage : LocalBlobStorage) (operation : BlobOperation) :
    storage.after lib operation = storage ∨
      (∃ made data contentType metadata, ∃ m : BlobMetadata lib, ∃ key,
        operation = .put made data contentType metadata ∧
        PutResult storage (storage.after lib operation) made data contentType metadata m key) ∨
      ∃ uri key directory, operation = .delete uri ∧ parseUri lib uri localBackend = .ok key ∧
        storage.directory.deletePair key (sidecarName key) = some directory ∧
        storage.after lib operation = { storage with directory := directory } := by
  cases operation with
  | put made data contentType metadata =>
      cases hput : storage.put lib made data contentType metadata with
      | error e =>
          left
          rw [LocalBlobStorage.after, hput]
      | ok result =>
          right; left
          obtain ⟨m, storage'⟩ := result
          obtain ⟨key, hresult⟩ := put_ok hput
          refine ⟨made, data, contentType, metadata, m, key, rfl, ?_⟩
          rw [LocalBlobStorage.after, hput]
          exact hresult
  | delete uri =>
      cases hdelete : storage.delete lib uri with
      | error e =>
          left
          rw [LocalBlobStorage.after, hdelete]
      | ok storage' =>
          right; right
          have h := hdelete
          unfold LocalBlobStorage.delete at h
          obtain ⟨key, hkey, h⟩ := bind_ok.mp h
          obtain ⟨directory, hdirectory, h⟩ := require_bind_ok.mp h
          refine ⟨uri, key, directory, rfl, hkey, hdirectory, ?_⟩
          rw [LocalBlobStorage.after, hdelete]
          cases h
          rfl

lemma isHex_of_parseUri {uri : String} {backend : Text} (h : parseUri lib uri backend = .ok key) :
    isHex 32 key = true := by
  unfold parseUri at h
  obtain ⟨-, h⟩ := check_bind_ok.mp h
  obtain ⟨parsed, -, h⟩ := require_bind_ok.mp h
  obtain ⟨-, h⟩ := check_bind_ok.mp h
  unfold validateKey at h
  split at h
  · next hhex =>
    cases h
    exact hhex
  · cases h

/-- **One operation that spares a blob keeps it stored.** -/
theorem stored_after (h : Stored storage m key data) {operation : BlobOperation}
    (hspares : Spares lib key operation) : Stored (storage.after lib operation) m key data := by
  have hhex := h.describes.hexKey
  rcases after_cases lib storage operation with hsame | hput | hdelete
  · rw [hsame]
    exact h
  · obtain ⟨made, data', contentType, metadata, m', key', -, hput⟩ := hput
    have hne : key ≠ key' := by
      rintro rfl
      have hfree := hput.free.1
      rw [h.content] at hfree
      cases hfree
    have hlookup : ∀ name, name = key ∨ name = sidecarName key →
        (storage.after lib operation).directory.lookup name = storage.directory.lookup name := by
      intro name hname
      have hother := pair_ne hhex hput.describes.hexKey hne hname
      rw [hput.directory, Dict.lookup_cons_ite, if_neg hother.1, Dict.lookup_cons_ite,
        if_neg hother.2]
    exact ⟨h.describes, hput.limit ▸ h.fits, (hlookup key (.inl rfl)).trans h.content,
      (hlookup _ (.inr rfl)).trans h.sidecar⟩
  · obtain ⟨uri, key', directory, rfl, hkey', hdeleted, hafter⟩ := hdelete
    have hne : key ≠ key' := by
      rintro rfl
      exact hspares hkey'
    have hlookup : ∀ name, name = key ∨ name = sidecarName key →
        directory.lookup name = storage.directory.lookup name := fun name hname =>
      deletePair_eq hdeleted (pair_ne hhex (isHex_of_parseUri hkey') hne hname)
    rw [hafter]
    exact ⟨h.describes, h.fits, (hlookup key (.inl rfl)).trans h.content,
      (hlookup _ (.inr rfl)).trans h.sidecar⟩

/-- So does a run. -/
theorem stored_run {operations : List BlobOperation} (h : Stored storage m key data)
    (hspares : ∀ operation ∈ operations, Spares lib key operation) :
    Stored (operations.foldl (LocalBlobStorage.after lib) storage) m key data := by
  induction operations generalizing storage with
  | nil => exact h
  | cons operation operations ih =>
      rw [List.forall_mem_cons] at hspares
      rw [List.foldl_cons]
      exact ih (stored_after h hspares.1) hspares.2

/-- **A put that succeeds is followed by reads that succeed.**  The sidecar it writes fits the limit of
the reader and is read back into the metadata that was returned, which holds what was given; and until
the blob is deleted, every read returns the stored bytes, their checksum and that metadata. -/
theorem put_then_read {made : Option Text} {contentType : Value} {metadata : Option CallerMapping}
    (h : storage.put lib made data contentType metadata = .ok (m, storage')) :
    (contentType = .str m.contentType ∧ itemsOf m.metadata = (metadata.map (·.items)).getD [] ∧
      m.checksumSha256 = lib.sha256 data.bytes ∧ m.sizeBytes = data.bytes.length) ∧
    ∃ key sidecar, parseUri lib m.uri localBackend = .ok key ∧
      storage'.directory.lookup (sidecarName key) = some sidecar ∧
      sidecar.length ≤ maxSidecarBytes ∧
      (∃ read, deserializeMetadata lib sidecar m.uri storage.maxBlobBytes = .ok read ∧ read.Same m) ∧
      ∀ operations : List BlobOperation, (∀ operation ∈ operations, Spares lib key operation) →
        let later := operations.foldl (LocalBlobStorage.after lib) storage'
        later.get lib m.uri = .ok data.bytes ∧
        later.checksum lib m.uri = .ok m.checksumSha256 ∧
        ∃ read, later.metadata lib m.uri = .ok read ∧ read.Same m := by
  obtain ⟨key, hput⟩ := put_ok h
  have hstored := hput.stored
  have hdescribes := hput.describes
  have hparse : parseUri lib m.uri localBackend = .ok key :=
    hdescribes.uri ▸ parseUri_blobUri hdescribes.hexKey
  refine ⟨⟨hput.contentType, hput.metadata, hdescribes.checksum, hdescribes.size⟩, key,
    serializeMetadata m, hparse, hstored.sidecar, length_serializeMetadata hdescribes,
    deserialize_serialize hdescribes hput.fits, ?_⟩
  intro operations hspares
  obtain ⟨read, hread, hsame⟩ := readVerified_of_stored (stored_run hstored hspares)
  refine ⟨?_, ?_, read, ?_, hsame⟩
  · rw [LocalBlobStorage.get, hread]
    rfl
  · rw [LocalBlobStorage.checksum, hread, ← hsame.checksum]
    rfl
  · rw [LocalBlobStorage.metadata, hread]
    rfl

/-- A library for texts in ASCII and for the digest of no bytes. -/
def sampleLibrary : BlobLibrary where
  isOther c := c.toNat < 32 || c.toNat == 127
  isPosixAbsolute text := text.head? == some '/'
  isWindowsAbsolute text :=
    match text with
    | drive :: ':' :: root :: _ => drive.isAlpha && (root == '/' || root == '\\')
    | _ => false
  sha256 _ := "e3b0c44298fc1c149afbf4c8996fb92427ae41e4649b934ca495991b7852b855"
  urls := ⟨fun text => text.map Char.toLower, fun text => text, fun _ => false, fun _ => false⟩
  decode _ _ := none
  graphic c hlow hhigh := by
    have hne : ¬ c.toNat = 127 := by omega
    simp [Nat.not_lt.mpr hlow, hne]
  hexdigest _ := by decide

def sampleMapping : CallerMapping where
  items := [(.str "source", .str "annual report"), (.str "language", .str "en")]
  distinct := by simp

/-- A storage that holds nothing yet. -/
def emptyStorage : LocalBlobStorage := ⟨1024, [], by decide⟩

def sampleKey : Text := "0123456789abcdef0123456789abcdef".toList

theorem emptyBlob_read : ∃ (m : BlobMetadata sampleLibrary) (storage : LocalBlobStorage),
    emptyStorage.put sampleLibrary (some sampleKey) ⟨[], by decide⟩ (.str "text/plain")
      (some sampleMapping) = .ok (m, storage) ∧
    storage.get sampleLibrary m.uri = .ok [] := by
  obtain ⟨⟨m, storage⟩, hput⟩ := exists_of_isOk (x := emptyStorage.put sampleLibrary (some sampleKey)
    ⟨[], by decide⟩ (.str "text/plain") (some sampleMapping)) (by decide +kernel)
  obtain ⟨-, key, sidecar, -, -, -, -, hread⟩ := put_then_read hput
  exact ⟨m, storage, hput, (hread [] (by simp)).1⟩

end Runs

end StockResearch.Infrastructure
