import StockResearch.Infrastructure.BlobRuns

/-!
# URIs that name a blob without being its URI

`put` writes one URI for a key, and the reads compare the sidecar with the text they are asked for.
`exists` compares nothing, and finds a blob under every spelling that `_parse_uri` accepts.

**`accepted_iff_literal`**: a text is accepted without being the URI of a key exactly when it is an
alias, and exactly then `exists` finds a blob that cannot be read.
-/

namespace StockResearch.Infrastructure

open PyText PyJson Checked

/-- `_parse_uri` returns a key. -/
def Accepts (lib : BlobLibrary) (backend : Backend) (uri : String) : Prop :=
  ∃ key, parseUri lib uri backend.name = .ok key

/-- The URI of a key, as `put` writes it. -/
def Literal (backend : Backend) (uri : String) : Prop :=
  ∃ key, isHex 32 key = true ∧ uri = blobUri backend.name key

/-- A short enough text that names a key with spaces in front, with a capital in the scheme, or with
the mark of an empty query or fragment at its end. -/
def Alias (backend : Backend) (uri : String) : Prop :=
  uri.length ≤ maxUriLength ∧ ∃ s : Spelling, s ≠ .literal ∧
    ∃ key, isHex 32 key = true ∧ uri.toList = s.text backend.name key

/-- `get`, `metadata` and `checksum` return. -/
def Reads (lib : BlobLibrary) (storage : LocalBlobStorage) (uri : String) : Prop :=
  (∃ data, storage.get lib uri = .ok data) ∧ (∃ m, storage.metadata lib uri = .ok m) ∧
    ∃ digest, storage.checksum lib uri = .ok digest

variable {backend : Backend} {uri : String} {key : Text}

lemma blobUri_inj {name key' : Text} (h : blobUri name key = blobUri name key') : key = key' := by
  have htext := congrArg String.toList h
  rw [Spelling.toList_blobUri_eq, Spelling.toList_blobUri_eq] at htext
  simpa [Spelling.text, Spelling.literal, Spelling.marks] using htext

lemma length_blobUri_le (hkey : isHex 32 key = true) :
    (blobUri backend.name key).length ≤ maxUriLength := by
  rw [← String.length_toList, Spelling.toList_blobUri_eq, Spelling.text]
  simp only [List.length_append, List.length_cons, length_of_isHex hkey]
  cases backend <;> decide

lemma accepts_literal (lib : TextLibrary) (h : Literal backend uri) :
    Accepts lib.toBlobLibrary backend uri := by
  obtain ⟨key, hkey, rfl⟩ := h
  exact ⟨key, (parseUri_ok_iff lib backend).mpr
    ⟨hkey, length_blobUri_le hkey, .literal, Spelling.toList_blobUri_eq⟩⟩

lemma accepts_alias (lib : TextLibrary) (h : Alias backend uri) :
    Accepts lib.toBlobLibrary backend uri := by
  obtain ⟨hlength, s, -, key, hkey, htext⟩ := h
  exact ⟨key, (parseUri_ok_iff lib backend).mpr ⟨hkey, hlength, s, htext⟩⟩

/-- No alias is a URI that the storage writes. -/
lemma not_literal_of_alias (h : Alias backend uri) : ¬ Literal backend uri := by
  obtain ⟨-, s, hs, key, hkey, htext⟩ := h
  rintro ⟨key', hkey', rfl⟩
  rw [Spelling.toList_blobUri_eq] at htext
  exact hs (s.text_literal hkey hkey' htext.symm)

/-- What is accepted for a key is its URI, or an alias. -/
lemma eq_or_alias (lib : TextLibrary) (h : parseUri lib.toBlobLibrary uri backend.name = .ok key) :
    uri = blobUri backend.name key ∨ Alias backend uri := by
  obtain ⟨hkey, hlength, s, htext⟩ := (parseUri_ok_iff lib backend).mp h
  by_cases hs : s = .literal
  · left
    rw [hs, ← Spelling.toList_blobUri_eq] at htext
    exact String.toList_inj.mp htext
  · exact .inr ⟨hlength, s, hs, key, hkey, htext⟩

lemma accepts_iff_literal (lib : TextLibrary) (backend : Backend) (uri : String) :
    (Accepts lib.toBlobLibrary backend uri ↔ Literal backend uri) ↔ ¬ Alias backend uri := by
  constructor
  · intro h halias
    exact not_literal_of_alias halias (h.mp (accepts_alias lib halias))
  · intro halias
    refine ⟨?_, accepts_literal lib⟩
    rintro ⟨key, hkey⟩
    have hliteral := (eq_or_alias lib hkey).resolve_right halias
    exact ⟨key, isHex_of_parseUri hkey, hliteral⟩

/-! ## A stored blob under its spellings -/

section Stored

variable {lib : TextLibrary} {storage : LocalBlobStorage} {m : BlobMetadata lib.toBlobLibrary}
  {data : Bytes}

lemma reads_iff (lib : BlobLibrary) (storage : LocalBlobStorage) (uri : String) :
    Reads lib storage uri ↔ ∃ read, storage.readVerified lib uri = .ok read := by
  unfold Reads LocalBlobStorage.get LocalBlobStorage.metadata LocalBlobStorage.checksum
  simp only [exists_map_ok, and_self]

/-- A stored blob is found under every spelling of its URI, and read under one. -/
lemma stored_spelling (h : Stored storage m key data)
    (hkey : parseUri lib.toBlobLibrary uri localBackend = .ok key) :
    storage.blobExists lib.toBlobLibrary uri = .ok true ∧
      (Reads lib.toBlobLibrary storage uri ↔ uri = m.uri) := by
  constructor
  · rw [LocalBlobStorage.blobExists, hkey, ok_bind, Directory.pairExists, h.content, h.sidecar]
    rfl
  · rw [reads_iff]
    constructor
    · rintro ⟨read, hread⟩
      rw [LocalBlobStorage.readVerified, hkey, ok_bind, readPair_of_stored h] at hread
      obtain ⟨pair, hpair, hread⟩ := bind_ok.mp hread
      cases hpair
      obtain ⟨metadata, hmetadata, -⟩ := bind_ok.mp hread
      exact deserialize_uri hmetadata
    · rintro rfl
      obtain ⟨read, hread, -⟩ := readVerified_of_stored h
      exact ⟨_, hread⟩

/-- Under a text that names no other blob, what `exists` says of a stored blob is what the reads do,
unless the text is an alias. -/
lemma exists_iff_reads (h : Stored storage m key data)
    (hnames : ∀ key', parseUri lib.toBlobLibrary uri localBackend = .ok key' → key' = key) :
    ((storage.blobExists lib.toBlobLibrary uri = .ok true ↔ Reads lib.toBlobLibrary storage uri) ↔
      ¬ Alias .files uri) := by
  cases hparse : parseUri lib.toBlobLibrary uri localBackend with
  | error e =>
      have hexists : ¬ storage.blobExists lib.toBlobLibrary uri = .ok true := by
        rw [LocalBlobStorage.blobExists, hparse]
        rintro ⟨⟩
      have hreads : ¬ Reads lib.toBlobLibrary storage uri := by
        rw [reads_iff, LocalBlobStorage.readVerified, hparse]
        rintro ⟨read, hread⟩
        cases hread
      refine iff_of_true (iff_of_false hexists hreads) fun halias => ?_
      obtain ⟨key', hkey'⟩ := accepts_alias lib halias
      cases hparse.symm.trans hkey'
  | ok key' =>
      obtain rfl := hnames key' hparse
      obtain ⟨hexists, hreads⟩ := stored_spelling h hparse
      rw [hreads, h.describes.uri]
      constructor
      · intro hiff halias
        exact not_literal_of_alias halias ⟨key', h.describes.hexKey, hiff.mp hexists⟩
      · intro halias
        have hliteral := @eq_or_alias .files uri key' lib hparse
        exact iff_of_true hexists (hliteral.resolve_right halias)

end Stored

/-- **A text is accepted without being the URI of a key exactly when it is an alias, and exactly then
`exists` finds a blob that was put and cannot be read.** -/
theorem accepted_iff_literal (lib : TextLibrary) (backend : Backend) (uri : String) :
    ((Accepts lib.toBlobLibrary backend uri ↔ Literal backend uri) ↔ ¬ Alias backend uri) ∧
    ∀ (storage : LocalBlobStorage) (made : Option Text) (data : Bytes) (contentType : Value)
      (metadata : Option CallerMapping) (m : BlobMetadata lib.toBlobLibrary)
      (storage' : LocalBlobStorage) (key : Text),
      storage.put lib.toBlobLibrary made data contentType metadata = .ok (m, storage') →
      m.uri = blobUri localBackend key →
      ∀ operations : List BlobOperation,
        (∀ operation ∈ operations, Spares lib.toBlobLibrary key operation) →
        (∀ key', parseUri lib.toBlobLibrary uri localBackend = .ok key' → key' = key) →
        let later := operations.foldl (LocalBlobStorage.after lib.toBlobLibrary) storage'
        ((later.blobExists lib.toBlobLibrary uri = .ok true ↔ Reads lib.toBlobLibrary later uri) ↔
          ¬ Alias .files uri) := by
  refine ⟨accepts_iff_literal lib backend uri, ?_⟩
  intro storage made data contentType metadata m storage' key hput huri operations hspares hnames
  obtain ⟨key', hput⟩ := put_ok hput
  have hkey : key' = key := blobUri_inj (hput.describes.uri.symm.trans huri)
  subst hkey
  exact exists_iff_reads (stored_run hput.stored hspares) hnames

/-! ## The mark of an empty query -/

/-- The sample library knows the control characters. -/
def sampleTexts : TextLibrary where
  toBlobLibrary := sampleLibrary
  control c hc := by simp [sampleLibrary, hc]

def markedUri : String := "blob://local/0123456789abcdef0123456789abcdef?"

def markedSpelling : Spelling := ⟨0, "blob".toList, true, false, Spelling.literal.folded⟩

lemma alias_markedUri : Alias .files markedUri := by
  refine ⟨by decide +kernel, markedSpelling, fun h => ?_, sampleKey, by decide +kernel,
    by decide +kernel⟩
  cases congrArg Spelling.queryMark h

lemma emptyStorage_put : ∃ (m : BlobMetadata sampleLibrary) (storage : LocalBlobStorage),
    emptyStorage.put sampleLibrary (some sampleKey) ⟨[], by decide⟩ (.str "text/plain")
      (some sampleMapping) = .ok (m, storage) ∧ m.uri = blobUri localBackend sampleKey ∧
      Stored storage m sampleKey ⟨[], by decide⟩ := by
  obtain ⟨⟨m, storage⟩, hput⟩ := exists_of_isOk (x := emptyStorage.put sampleLibrary (some sampleKey)
    ⟨[], by decide⟩ (.str "text/plain") (some sampleMapping)) (by decide +kernel)
  obtain ⟨key, hresult⟩ := put_ok hput
  obtain rfl := Option.some.inj hresult.made
  exact ⟨m, storage, hput, hresult.describes.uri, hresult.stored⟩

/-- The blob that was put is found under the marked URI, and read under its own only. -/
theorem markedUri_found : Accepts sampleLibrary .files markedUri ∧ ¬ Literal .files markedUri ∧
    ∃ (m : BlobMetadata sampleLibrary) (storage : LocalBlobStorage),
      emptyStorage.put sampleLibrary (some sampleKey) ⟨[], by decide⟩ (.str "text/plain")
        (some sampleMapping) = .ok (m, storage) ∧
      storage.blobExists sampleLibrary markedUri = .ok true ∧
      ¬ Reads sampleLibrary storage markedUri := by
  have hliteral := not_literal_of_alias alias_markedUri
  have hparse : parseUri sampleLibrary markedUri localBackend = .ok sampleKey := by decide +kernel
  refine ⟨⟨sampleKey, hparse⟩, hliteral, ?_⟩
  obtain ⟨m, storage, hput, huri, hstored⟩ := emptyStorage_put
  obtain ⟨hexists, hreads⟩ := @stored_spelling markedUri sampleKey sampleTexts storage m _ hstored hparse
  refine ⟨m, storage, hput, hexists, fun h => hliteral ?_⟩
  exact ⟨sampleKey, hstored.describes.hexKey, (hreads.mp h).trans huri⟩

/-- The URI that was returned is no alias, and is read as long as it is found. -/
theorem emptyBlob_found : ∃ (m : BlobMetadata sampleLibrary) (storage : LocalBlobStorage),
    emptyStorage.put sampleLibrary (some sampleKey) ⟨[], by decide⟩ (.str "text/plain")
      (some sampleMapping) = .ok (m, storage) ∧
    ((storage.blobExists sampleLibrary m.uri = .ok true ↔ Reads sampleLibrary storage m.uri) ↔
      ¬ Alias .files m.uri) := by
  obtain ⟨m, storage, hput, huri, -⟩ := emptyStorage_put
  refine ⟨m, storage, hput, ?_⟩
  have hnames : ∀ key', parseUri sampleLibrary m.uri localBackend = .ok key' → key' = sampleKey := by
    intro key' hkey'
    rw [huri, parseUri_blobUri (by decide +kernel)] at hkey'
    exact (Except.ok.inj hkey').symm
  exact (accepted_iff_literal sampleTexts .files m.uri).2 _ _ _ _ _ m storage sampleKey hput huri []
    (by simp) hnames

end StockResearch.Infrastructure
