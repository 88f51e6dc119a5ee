import StockResearch.Infrastructure.BlobUris

/-!
# Sidecars that were written are read back

The machinery, in three groups.

**Validation.**  What a validation returned passes it again and is returned unchanged, in any order
of its entries: `validate_itemsOf`, `ValidMetadata.perm`.

**URIs.**  The URI of a key is read back into the key: `parseUri_blobUri`.

**Sidecars.**  The sidecar that is written fits the limit of the reader (`length_serializeMetadata`)
and is read back into the same metadata (`deserialize_serialize`).
-/

namespace StockResearch.Infrastructure

open PyText PyJson PyUrl Checked

variable {lib : BlobLibrary}

/-! ## Validation -/

lemma copyEntries_itemsOf {metadata copied : List (String × String)} {total : Nat}
    (hchecked : ∀ entry ∈ metadata, validateEntry lib (.str entry.1, .str entry.2) = .ok entry)
    (htotal : total + (metadata.map entryLength).sum ≤ maxMetadataTotalLength) :
    copyEntries lib total copied (itemsOf metadata) =
      .ok (metadata.foldl (Dict.put Prod.fst) copied) := by
  induction metadata generalizing total copied with
  | nil => rfl
  | cons entry metadata ih =>
      rw [List.forall_mem_cons] at hchecked
      rw [List.map_cons, List.sum_cons] at htotal
      have hlimit : ¬ maxMetadataTotalLength < total + entryLength entry := by omega
      rw [itemsOf, List.map_cons, copyEntries, hchecked.1, ok_bind, check_ok.mpr hlimit, ok_bind,
        List.foldl_cons]
      exact ih hchecked.2 (by omega)

/-- **Valid metadata passes the validation unchanged.** -/
theorem validate_itemsOf {metadata : List (String × String)} (h : ValidMetadata lib metadata) :
    validateCallerMetadata lib (some (itemsOf metadata)) = .ok metadata := by
  have hentries : ¬ maxMetadataEntries < (itemsOf metadata).length := by
    rw [itemsOf, List.length_map]
    exact Nat.not_lt.mpr h.entries
  have hcopied : copyEntries lib 0 [] (itemsOf metadata) =
      .ok (metadata.foldl (Dict.put Prod.fst) []) :=
    copyEntries_itemsOf h.checked (by simpa using h.total)
  rw [validateCallerMetadata, check_ok.mpr hentries, ok_bind, hcopied]
  exact congrArg Except.ok (Dict.valuesBy_of_nodup h.distinct)

lemma BlobMetadata.make_ok {uri checksumSha256 contentType : String} {sizeBytes : Nat}
    {metadata : List (String × String)} (h : ValidMetadata lib metadata) :
    BlobMetadata.make lib uri checksumSha256 sizeBytes contentType metadata =
      .ok ⟨uri, checksumSha256, sizeBytes, contentType, metadata, h⟩ := by
  unfold BlobMetadata.make
  split
  · next copied hcopied =>
    rw [validate_itemsOf h, Except.ok.injEq] at hcopied
    subst hcopied
    rfl
  · next e he =>
    rw [validate_itemsOf h] at he
    cases he

/-- Another order of the entries is as valid. -/
lemma ValidMetadata.perm {metadata metadata' : List (String × String)}
    (h : ValidMetadata lib metadata) (hperm : metadata'.Perm metadata) :
    ValidMetadata lib metadata' where
  distinct := (hperm.map Prod.fst).nodup_iff.mpr h.distinct
  entries := hperm.length_eq ▸ h.entries
  checked entry hentry := h.checked entry (hperm.mem_iff.mp hentry)
  total := (hperm.map entryLength).sum_nat ▸ h.total

lemma itemsOf_of_copyEntries {total : Nat} {copied metadata : List (String × String)}
    {items : List (Value × Value)} (h : copyEntries lib total copied items = .ok metadata)
    (hdistinct : ((itemsOf copied ++ items).map Prod.fst).Nodup) :
    itemsOf metadata = itemsOf copied ++ items := by
  induction items generalizing total copied with
  | nil =>
      cases h
      rw [List.append_nil]
  | cons item items ih =>
      rw [copyEntries, bind_ok] at h
      obtain ⟨entry, hentry, h⟩ := h
      obtain ⟨-, h⟩ := check_bind_ok.mp h
      obtain rfl := eq_of_validateEntry hentry
      have hfresh : ¬ (copied.any fun e => e.1 = entry.1) = true := by
        simp only [List.any_eq_true, decide_eq_true_eq, not_exists, not_and]
        intro e he heq
        rw [List.map_append, List.nodup_append] at hdistinct
        refine hdistinct.2.2 (.str e.1) ?_ (.str entry.1) (by simp) (congrArg Value.str heq)
        exact List.mem_map.mpr ⟨_, List.mem_map_of_mem he, rfl⟩
      have hput : Dict.put Prod.fst copied entry = copied ++ [entry] := if_neg hfresh
      have hmoved : itemsOf (copied ++ [entry]) ++ items =
          itemsOf copied ++ (.str entry.1, .str entry.2) :: items := by
        simp [itemsOf]
      rw [hput] at h
      rw [← hmoved] at hdistinct ⊢
      exact ih h hdistinct

lemma itemsOf_of_validate {mapping : CallerMapping} {metadata : List (String × String)}
    (h : validateCallerMetadata lib (some mapping.items) = .ok metadata) :
    itemsOf metadata = mapping.items := by
  obtain ⟨-, h⟩ := check_bind_ok.mp h
  exact itemsOf_of_copyEntries h mapping.distinct

/-- A content type that passes is the text that was given, and passes again. -/
lemma validateContentType_ok {value : Value} {contentType : String}
    (h : validateContentType lib value = .ok contentType) :
    value = .str contentType ∧ contentType.length ≤ maxContentTypeLength := by
  unfold validateContentType at h
  split at h
  · next s =>
    simp only [check_bind_ok, not_or] at h
    obtain ⟨-, ⟨hlength, -⟩, hs⟩ := h
    cases hs
    exact ⟨rfl, Nat.not_lt.mp hlength⟩
  · cases h

/-! ## URIs -/

/-- The backend of the URIs. -/
abbrev localBackend : Text := "local".toList

lemma toList_blobUri (key : Text) : (blobUri localBackend key).toList =
    "blob".toList ++ ':' :: '/' :: '/' :: (localBackend ++ '/' :: key) :=
  String.toList_ofList

section Key

variable {key : Text}

lemma length_blobUri {n : Nat} (hkey : isHex n key = true) :
    (blobUri localBackend key).length = 13 + n := by
  rw [← String.length_toList, toList_blobUri]
  simp only [List.length_append, List.length_cons, length_of_isHex hkey]
  have hblob : "blob".toList.length = 4 := by decide
  have hlocal : localBackend.length = 5 := by decide
  omega

/-- **The URI of a key is read back into the key.** -/
theorem parseUri_blobUri (hkey : isHex 32 key = true) :
    parseUri lib (blobUri localBackend key) localBackend = .ok key := by
  have hlength : (blobUri localBackend key).length ≤ maxUriLength := by
    rw [length_blobUri hkey]
    decide
  exact @parseUri_text lib .files key .literal _ hkey hlength Spelling.toList_blobUri_eq

end Key

/-! ## Sidecars -/

/-- The metadata that a put makes of a key and of what it stores. -/
structure Describes (m : BlobMetadata lib) (key : Text) (data : Bytes) : Prop where
  hexKey : isHex 32 key = true
  uri : m.uri = blobUri localBackend key
  checksum : m.checksumSha256 = lib.sha256 data.bytes
  size : m.sizeBytes = data.bytes.length
  contentType : validateContentType lib (.str m.contentType) = .ok m.contentType

/-- Equal metadata; a dictionary is equal to another order of its entries. -/
structure BlobMetadata.Same (m m' : BlobMetadata lib) : Prop where
  uri : m.uri = m'.uri
  checksum : m.checksumSha256 = m'.checksumSha256
  size : m.sizeBytes = m'.sizeBytes
  contentType : m.contentType = m'.contentType
  metadata : m.metadata.Perm m'.metadata

/-- The metadata of a caller as members of an object. -/
def callerFields (metadata : List (String × String)) : List (String × Value) :=
  metadata.map fun entry => (entry.1, .str entry.2)

lemma plain_callerFields {metadata : List (String × String)}
    (hdistinct : (metadata.map Prod.fst).Nodup) : Plain (.obj (callerFields metadata)) := by
  refine ⟨?_, plainFields_iff.mpr fun f hf => ?_⟩
  · have hkeys : (callerFields metadata).map Prod.fst = metadata.map Prod.fst := by
      simp [callerFields, Function.comp_def]
    rw [hkeys]
    exact hdistinct
  · obtain ⟨entry, -, rfl⟩ := List.mem_map.mp hf
    trivial

lemma plain_sidecar (m : BlobMetadata lib) : Plain (.obj (sidecarFields m)) := by
  refine ⟨?_, trivial, trivial, plain_callerFields m.valid.distinct, trivial, trivial, trivial⟩
  have hkeys : (sidecarFields m).map Prod.fst = sidecarKeys := rfl
  rw [hkeys]
  decide

lemma sortKeys_callerFields (metadata : List (String × String)) :
    ∃ sorted, sorted.Perm metadata ∧
      sortKeys (.obj (callerFields metadata)) = .obj (callerFields sorted) := by
  refine ⟨metadata.insertionSort fun e f => e.1 ≤ f.1, List.perm_insertionSort _ _, ?_⟩
  have hsort := List.map_insertionSort (r := fun e f : String × String => e.1 ≤ f.1) (s := keyLE)
    (fun entry => (entry.1, Value.str entry.2)) metadata fun _ _ _ _ => Iff.rfl
  have hfixed : ((callerFields metadata).map fun f => (f.1, sortKeys f.2)) =
      callerFields metadata := by
    refine map_eq_self fun f hf => ?_
    obtain ⟨entry, -, rfl⟩ := List.mem_map.mp hf
    rfl
  rw [sortKeys_obj, hfixed, callerFields, callerFields, hsort]

lemma length_writeStr_ascii (text : String) :
    (writeStr asciiEscape text).length ≤ 12 * text.length + 2 :=
  length_writeStr length_asciiEscape text

/-- The entries of a caller take twelve bytes a character and six for their punctuation. -/
lemma length_callerFields (metadata : List (String × String)) :
    (write asciiEscape (sortKeys (.obj (callerFields metadata)))).length ≤
      12 * (metadata.map entryLength).sum + 6 * metadata.length + 2 := by
  have hentries : ((callerFields metadata).map fun f =>
      memberLength asciiEscape (f.1, sortKeys f.2)).sum ≤
        12 * (metadata.map entryLength).sum + 6 * metadata.length := by
    induction metadata with
    | nil => rfl
    | cons entry metadata ih =>
        have hkey := length_writeStr_ascii entry.1
        have hvalue := length_writeStr_ascii entry.2
        simp only [callerFields, List.map_cons, List.sum_cons, List.length_cons, memberLength,
          entryLength, sortKeys, write] at ih ⊢
        omega
  have hwrite := length_write_sortKeys asciiEscape (callerFields metadata)
  omega

/-- **The sidecar fits the limit of the reader.** -/
theorem length_serializeMetadata {m : BlobMetadata lib} {key : Text} {data : Bytes}
    (h : Describes m key data) : (serializeMetadata m).length ≤ maxSidecarBytes := by
  have hwrite := length_write_sortKeys asciiEscape (sidecarFields m)
  have hchecksum := length_writeStr_ascii m.checksumSha256
  have hcontent := length_writeStr_ascii m.contentType
  have huri := length_writeStr_ascii m.uri
  have hmetadata := length_callerFields m.metadata
  have hsize : (dumpsInt (m.sizeBytes : Int)).length ≤ 19 := by
    have hlt : m.sizeBytes < 10 ^ 19 := by
      have hdata := data.length_lt
      rw [h.size]
      omega
    exact (Nat.length_toDigits_le_iff (by decide) (by decide)).mpr hlt
  have hchecksumLength : m.checksumSha256.length = 64 := by
    rw [h.checksum, ← String.length_toList]
    exact length_of_isHex (lib.hexdigest data.bytes)
  have hcontentLength := (validateContentType_ok h.contentType).2
  have huriLength : m.uri.length = 45 := by
    rw [h.uri, length_blobUri h.hexKey]
  have htotal := m.valid.total
  have hentries := m.valid.entries
  rw [maxContentTypeLength] at hcontentLength
  rw [maxMetadataTotalLength] at htotal
  rw [maxMetadataEntries] at hentries
  have hkeys : (writeStr asciiEscape "checksum_sha256").length = 17 ∧
      (writeStr asciiEscape "content_type").length = 14 ∧
      (writeStr asciiEscape "metadata").length = 10 ∧
      (writeStr asciiEscape "size_bytes").length = 12 ∧
      (writeStr asciiEscape "uri").length = 5 := by decide
  obtain ⟨hkey₁, hkey₂, hkey₃, hkey₄, hkey₅⟩ := hkeys
  have hlength := length_encodeUtf8_asciiText (plain_sidecar m)
  have hsum : ((sidecarFields m).map fun f => memberLength asciiEscape (f.1, sortKeys f.2)).sum =
      (17 + (writeStr asciiEscape m.checksumSha256).length + 2) +
      ((14 + (writeStr asciiEscape m.contentType).length + 2) +
      ((10 + (write asciiEscape (sortKeys (.obj (callerFields m.metadata)))).length + 2) +
      ((12 + (dumpsInt (m.sizeBytes : Int)).length + 2) +
      ((5 + (writeStr asciiEscape m.uri).length + 2) + 0)))) := by
    rw [← hkey₁, ← hkey₂, ← hkey₃, ← hkey₄, ← hkey₅]
    rfl
  rw [serializeMetadata, maxSidecarBytes]
  omega

/-- A sidecar in key order has its five keys, and under each of them what was written. -/
lemma sortKeys_sidecar (m : BlobMetadata lib) :
    ∃ fields, sortKeys (.obj (sidecarFields m)) = .obj fields ∧
      (fields.map Prod.fst).toFinset = sidecarKeys.toFinset ∧
      ∀ f ∈ sidecarFields m, (Value.obj fields).get? f.1 = some (sortKeys f.2) := by
  refine ⟨_, sortKeys_obj _, ?_, fun f hf => ?_⟩
  · have hperm := (List.perm_insertionSort keyLE
      ((sidecarFields m).map fun f => (f.1, sortKeys f.2))).map Prod.fst
    rw [List.toFinset_eq_of_perm _ _ hperm, keys_sortFields]
    rfl
  · rw [← sortKeys_obj]
    exact get?_sortKeys (plain_sidecar m) hf

/-- What a reader finds in a sidecar. -/
lemma loads_sidecar (m : BlobMetadata lib) :
    ∃ fields, loadsBytes lib.decode (serializeMetadata m) = some (.obj fields) ∧
      (fields.map Prod.fst).toFinset = sidecarKeys.toFinset ∧
      ∀ f ∈ sidecarFields m, (Value.obj fields).get? f.1 = some (sortKeys f.2) := by
  obtain ⟨fields, hfields, hkeys, hget⟩ := sortKeys_sidecar m
  exact ⟨fields, hfields ▸ loadsBytes_asciiText (plain_sidecar m) (List.cons_ne_nil _ _), hkeys, hget⟩

/-- A sidecar is read for the URI it names only. -/
lemma deserialize_uri {m read : BlobMetadata lib} {uri : String} {maxBlobBytes : Nat}
    (h : deserializeMetadata lib (serializeMetadata m) uri maxBlobBytes = .ok read) : uri = m.uri := by
  obtain ⟨fields, hload, -, hget⟩ := loads_sidecar m
  have huri : (Value.obj fields).get? "uri" = some (.str m.uri) :=
    hget ("uri", .str m.uri) (by simp [sidecarFields])
  unfold deserializeMetadata at h
  rw [hload, require, ok_bind, fieldsOf, require, ok_bind, huri] at h
  obtain ⟨-, h⟩ := check_bind_ok.mp h
  obtain ⟨hsame, -⟩ := check_bind_ok.mp h
  exact (Option.some.inj (not_not.mp hsame)).symm

/-- **The sidecar is read back into the same metadata.** -/
theorem deserialize_serialize {m : BlobMetadata lib} {key : Text} {data : Bytes} {maxBlobBytes : Nat}
    (h : Describes m key data) (hmax : data.bytes.length ≤ maxBlobBytes) :
    ∃ read, deserializeMetadata lib (serializeMetadata m) m.uri maxBlobBytes = .ok read ∧
      read.Same m := by
  obtain ⟨fields, hload, hkeys, hget⟩ := loads_sidecar m
  obtain ⟨sorted, hperm, hsorted⟩ := sortKeys_callerFields m.metadata
  have huri : (Value.obj fields).get? "uri" = some (.str m.uri) :=
    hget ("uri", .str m.uri) (by simp [sidecarFields])
  have hchecksum : (Value.obj fields).get? "checksum_sha256" = some (.str m.checksumSha256) :=
    hget ("checksum_sha256", .str m.checksumSha256) (by simp [sidecarFields])
  have hsize : (Value.obj fields).get? "size_bytes" = some (.int m.sizeBytes) :=
    hget ("size_bytes", .int m.sizeBytes) (by simp [sidecarFields])
  have hcontent : (Value.obj fields).get? "content_type" = some (.str m.contentType) :=
    hget ("content_type", .str m.contentType) (by simp [sidecarFields])
  have hmetadata : (Value.obj fields).get? "metadata" = some (.obj (callerFields sorted)) :=
    hsorted ▸ hget ("metadata", .obj (callerFields m.metadata)) (by simp [sidecarFields, callerFields])
  have hvalid := m.valid.perm hperm
  have hhex : isHex 64 m.checksumSha256.toList = true := by
    rw [h.checksum]
    exact lib.hexdigest data.bytes
  have hbounds : decide (0 ≤ (m.sizeBytes : Int) ∧ (m.sizeBytes : Int) ≤ (maxBlobBytes : Int)) =
      true := by
    rw [h.size]
    exact decide_eq_true ⟨by omega, by omega⟩
  have hitems : ((callerFields sorted).map fun f => (Value.str f.1, f.2)) = itemsOf sorted := by
    simp [callerFields, itemsOf]
  have hsame : ¬ textOf (some (.str m.uri)) ≠ some m.uri := fun hne => hne rfl
  refine ⟨⟨m.uri, m.checksumSha256, m.sizeBytes, m.contentType, sorted, hvalid⟩, ?_,
    ⟨rfl, rfl, rfl, rfl, hperm⟩⟩
  rw [deserializeMetadata, hload, require, ok_bind, fieldsOf, require, ok_bind,
    check_ok.mpr (not_not.mpr hkeys), ok_bind, huri, check_ok.mpr hsame, ok_bind, hchecksum, textOf,
    Option.filter_some, if_pos hhex, require, ok_bind, hsize, integerOf, Option.filter_some,
    if_pos hbounds, require, ok_bind, hmetadata, fieldsOf, require, ok_bind, hcontent,
    Option.getD_some, h.contentType, ok_bind, hitems, validate_itemsOf hvalid, ok_bind,
    BlobMetadata.make_ok hvalid]
  rfl

end StockResearch.Infrastructure
