import StockResearch.Core.Table
import StockResearch.Retrieval.Lexical

/-!
# The identity of a lexical index

An index is stored under an identifier made of its fingerprint, and once the identifier is taken the
stored index is served in place of a fresh one.  The fingerprint covers the request and the set of
document versions (`fingerprint_inj`); the postings come from the chunks.

**What the postings say.**  Postings carry positions, so they determine the tokens of every chunk
that has any (`flatMap_wordPostings_inj`), and two builds have the same content exactly when their
chunks have the same tokens.

**What the store does.**  A stored index stays as it is (`keeps_persist`), and it is what every later
build under its identifier gets (`persist_of_keeps`, `served_after_persists`).

`build_identity` puts this together: the identifier determines the content if and only if one request
over the same document versions always meets the same tokens.  It does not when a document is parsed
again, which adds chunks and leaves its version alone (`identity_parsedTwice`).
-/

namespace StockResearch.Retrieval

open PyText PyTime PyDecimal PyJson Checked
open Txn (Schema Table)

variable {library : Library}

/-! ## What a fingerprint determines -/

lemma asciiText_documents_inj {ds es : List (String ×ₗ String)}
    (h : asciiText (.arr (ds.map fun d => .arr [.str (ofLex d).1, .str (ofLex d).2])) =
      asciiText (.arr (es.map fun e => .arr [.str (ofLex e).1, .str (ofLex e).2]))) : ds = es := by
  have hplain : ∀ ds : List (String ×ₗ String),
      Plain (.arr (ds.map fun d => .arr [.str (ofLex d).1, .str (ofLex d).2])) := by
    intro ds
    simp only [Plain, plainItems_iff, List.mem_map]
    rintro v ⟨d, -, rfl⟩
    simp [Plain, PlainItems]
  have hvalues := asciiText_inj (hplain ds) (hplain es) h
  simp only [sortKeys, sortItems_eq_map, List.map_map, Value.arr.injEq] at hvalues
  refine List.map_injective_iff.mpr ?_ hvalues
  intro d e hpair
  simp only [Function.comp_apply, sortKeys, sortItems, Value.arr.injEq, List.cons.injEq,
    Value.str.injEq, and_true] at hpair
  exact ofLex.injective (Prod.ext hpair.1 hpair.2)

lemma plain_modelDump (request : LexicalBuildRequest) : Plain request.modelDump := by
  unfold LexicalBuildRequest.modelDump
  cases request.snapshotId <;> cases request.indexAsOfTime <;> simp [Plain, PlainFields]

/-- An optional text in a JSON object, as `model_dump` writes it, determines what it was made of. -/
lemma optionalText_inj {α : Type} {f : α → String} (hf : Function.Injective f) {x y : Option α}
    (h : sortKeys ((x.map fun a => Value.str (f a)).getD .null) =
      sortKeys ((y.map fun a => Value.str (f a)).getD .null)) : x = y := by
  cases x <;> cases y <;> simp [sortKeys] at h ⊢
  exact hf h

lemma modelDump_inj {request request' : LexicalBuildRequest}
    (h : sortKeys request.modelDump = sortKeys request'.modelDump) : request = request' := by
  unfold LexicalBuildRequest.modelDump at h
  have hfields := fields_eq_of_sortKeys (plain_modelDump request) (by rfl) h
  simp only [List.map_cons, List.map_nil, List.cons.injEq, Prod.mk.injEq, true_and, and_true] at hfields
  obtain ⟨hname, hsecurity, hsnapshot, hasOf⟩ := hfields
  have hsnapshot := optionalText_inj (fun _ _ => Uuid.str_inj.mp) hsnapshot
  have hasOf := optionalText_inj (fun _ _ => Instant.isoformat_inj) hasOf
  cases request
  cases request'
  simp_all [sortKeys, Uuid.str_inj]

/-- **A fingerprint determines the request and the set of documents**, and nothing else. -/
theorem fingerprint_inj {request request' : LexicalBuildRequest} {ds es : List (String ×ₗ String)} :
    fingerprint library request ds = fingerprint library request' es ↔
      request = request' ∧ ds = es := by
  refine ⟨fun h => ?_, fun ⟨hrequest, hdocuments⟩ => by rw [hrequest, hdocuments]⟩
  have hplain : ∀ (request : LexicalBuildRequest) (checksum : String),
      Plain (.obj [("request", request.modelDump), ("document_set_checksum", .str checksum)]) := by
    intro request checksum
    simp [Plain, PlainFields, plain_modelDump]
  have hfields := asciiText_obj_inj (hplain _ _) (hplain _ _) (by rfl) (library.hash.injective h)
  simp only [List.map_cons, List.map_nil, List.cons.injEq, Prod.mk.injEq, true_and, and_true,
    sortKeys, Value.str.injEq] at hfields
  exact ⟨modelDump_inj hfields.1, asciiText_documents_inj (library.hash.injective hfields.2)⟩

/-! ## What an index holds -/

/-- The tokens of a chunk, as texts. -/
def words (library : Library) (chunk : IndexableChunk) : List Text :=
  match tokenize library.folding chunk.text false with
  | .ok tokens => tokens.map (·.value)
  | .error _ => []

/-- The postings of a chunk whose tokens are the given texts in this order. -/
def wordPostings (chunk : Uuid × List Text) : List LexicalPostingDraft :=
  (chunk.2.dedup.insertionSort (· ≤ ·)).map fun token => {
    token := token
    chunkId := chunk.1
    termFrequency := chunk.2.count token
    fieldKind := .body
    positions := (chunk.2.zipIdx.filter (·.1 = token)).map (·.2) }

lemma chunkPostings_eq {tokens : List LexicalToken} (chunkId : Uuid)
    (h : tokens.map (·.position) = List.range tokens.length) :
    chunkPostings chunkId tokens = wordPostings (chunkId, tokens.map (·.value)) := by
  have hzip : tokens.map (fun t => (t.value, t.position)) = (tokens.map (·.value)).zipIdx := by
    rw [List.zipIdx_eq_zip_range', List.length_map, ← List.range_eq_range', ← h, List.zip_map']
  simp only [chunkPostings, wordPostings, ← hzip, List.filter_map, List.map_map]
  rfl

/-- The chunks of an index with their tokens. -/
def tokened (library : Library) (chunks : List IndexableChunk) : List (Uuid × List Text) :=
  chunks.map fun chunk => (chunk.chunkId, words library chunk)

/-- What the build of an index makes of the chunks it is given. -/
structure Holds (library : Library) (request : LexicalBuildRequest) (chunks : List IndexableChunk)
    (index : LexicalIndexResult) : Prop where
  identity : index.indexVersionId =
    some (library.uuid5 (fingerprint library request (documentSet chunks)))
  checksum : index.documentSetChecksum = some (documentSetChecksum library (documentSet chunks))
  count : index.chunkCount = chunks.length
  average : ∃ average, averageLength ((tokened library chunks).map (·.2.length)) = .ok average ∧
    index.averageChunkLength = some average
  postings : index.postings = (tokened library chunks).flatMap wordPostings

lemma raising_ok {α : Type} {x : Except Signal α} {a : α} : raising x = .ok a ↔ x = .ok a := by
  cases x <;> simp [raising]

theorem holds_of_indexOf {request : LexicalBuildRequest} {chunks : List IndexableChunk}
    {index : LexicalIndexResult} (h : indexOf library request chunks = .ok index) :
    Holds library request chunks index := by
  simp only [indexOf, bind_ok, raising_ok] at h
  obtain ⟨tokenized, htokenized, average, haverage, h⟩ := h
  have hrelated := forall₂_mapM
    (R := fun chunk p => p.1 = chunk.chunkId ∧ tokenize library.folding chunk.text false = .ok p.2)
    (fun chunk p hp => by
      simp only [bind_ok] at hp
      obtain ⟨tokens, htokens, hp⟩ := hp
      cases hp
      exact ⟨rfl, htokens⟩) htokenized
  have htokened : tokenized.map (fun p => (p.1, p.2.map (·.value))) = tokened library chunks :=
    (map_eq_of_forall₂ hrelated fun chunk p hp => by simp [words, hp.1, hp.2]).symm
  cases h
  refine ⟨rfl, rfl, rfl, ⟨average, ?_, rfl⟩, ?_⟩
  · rw [← htokened, List.map_map]
    simpa [Function.comp_def] using haverage
  · rw [← htokened, List.flatMap_map]
    refine List.flatMap_congr fun p hp => ?_
    obtain ⟨chunk, -, -, hchunk⟩ := exists_of_forall₂ hrelated.flip hp
    exact chunkPostings_eq p.1 (tokenize_positions hchunk)

/-! ## What the postings determine -/

/-- The postings of a chunk say which token stands where. -/
lemma getElem?_of_wordPostings {chunk : Uuid × List Text} {i : Nat} {token : Text} :
    chunk.2[i]? = some token ↔
      ∃ posting ∈ wordPostings chunk, posting.token = token ∧ i ∈ posting.positions := by
  simp only [wordPostings, List.mem_map, List.mem_insertionSort, List.mem_dedup,
    exists_exists_and_eq_and, List.mem_filter, decide_eq_true_eq]
  constructor
  · intro h
    exact ⟨token, List.mem_of_getElem? h, rfl, (token, i),
      ⟨List.mem_zipIdx_iff_getElem?.mpr h, rfl⟩, rfl⟩
  · rintro ⟨_, -, rfl, ⟨_, _⟩, ⟨hmem, rfl⟩, rfl⟩
    exact List.mem_zipIdx_iff_getElem?.mp hmem

lemma wordPostings_eq_nil {chunk : Uuid × List Text} : wordPostings chunk = [] ↔ chunk.2 = [] := by
  rw [wordPostings, List.map_eq_nil_iff, ← List.length_eq_zero_iff, List.length_insertionSort,
    List.length_eq_zero_iff, List.dedup_eq_nil]

lemma chunkId_of_wordPostings {chunk : Uuid × List Text} {posting : LexicalPostingDraft}
    (h : posting ∈ wordPostings chunk) : posting.chunkId = chunk.1 := by
  simp only [wordPostings, List.mem_map] at h
  obtain ⟨token, -, rfl⟩ := h
  rfl

/-- Under distinct identifiers, the postings of the first chunk are those with its identifier. -/
lemma filter_flatMap_wordPostings {chunk : Uuid × List Text} {chunks : List (Uuid × List Text)}
    (h : chunk.1 ∉ chunks.map Prod.fst) :
    ((chunk :: chunks).flatMap wordPostings).filter (·.chunkId = chunk.1) = wordPostings chunk := by
  rw [List.flatMap_cons, List.filter_append]
  have hown : (wordPostings chunk).filter (·.chunkId = chunk.1) = wordPostings chunk :=
    List.filter_eq_self.mpr fun p hp => by simp [chunkId_of_wordPostings hp]
  have hothers : (chunks.flatMap wordPostings).filter (·.chunkId = chunk.1) = [] := by
    refine List.filter_eq_nil_iff.mpr fun p hp => ?_
    obtain ⟨other, hother, hp⟩ := List.mem_flatMap.mp hp
    simp only [chunkId_of_wordPostings hp, decide_eq_true_eq]
    intro heq
    exact h (heq ▸ List.mem_map_of_mem hother)
  rw [hown, hothers, List.append_nil]

/-- **The postings determine the chunks that have tokens, and their tokens**, when the chunks have
distinct identifiers. -/
theorem flatMap_wordPostings_inj {cs ds : List (Uuid × List Text)}
    (hcs : (cs.map Prod.fst).Nodup) (hds : (ds.map Prod.fst).Nodup)
    (hc : ∀ c ∈ cs, c.2 ≠ []) (hd : ∀ d ∈ ds, d.2 ≠ [])
    (h : cs.flatMap wordPostings = ds.flatMap wordPostings) : cs = ds := by
  induction cs generalizing ds with
  | nil =>
      cases ds with
      | nil => rfl
      | cons d ds =>
          have hnil := wordPostings_eq_nil.mp (List.append_eq_nil_iff.mp h.symm).1
          exact absurd hnil (hd d List.mem_cons_self)
  | cons c cs ih =>
      cases ds with
      | nil =>
          have hnil := wordPostings_eq_nil.mp (List.append_eq_nil_iff.mp h).1
          exact absurd hnil (hc c List.mem_cons_self)
      | cons d ds =>
          rw [List.map_cons, List.nodup_cons] at hcs hds
          have hid : c.1 = d.1 := by
            obtain ⟨p, ps, hp⟩ := List.exists_cons_of_ne_nil
              (mt wordPostings_eq_nil.mp (hc c List.mem_cons_self))
            obtain ⟨q, qs, hq⟩ := List.exists_cons_of_ne_nil
              (mt wordPostings_eq_nil.mp (hd d List.mem_cons_self))
            have hpq : p = q := by
              rw [List.flatMap_cons, List.flatMap_cons, hp, hq] at h
              exact (List.cons.inj h).1
            rw [← chunkId_of_wordPostings (hp ▸ List.mem_cons_self),
              ← chunkId_of_wordPostings (hq ▸ List.mem_cons_self), hpq]
          have hpostings : wordPostings c = wordPostings d := by
            rw [← filter_flatMap_wordPostings hcs.1, h, hid, filter_flatMap_wordPostings hds.1]
          have hwords : c.2 = d.2 := by
            refine List.ext_getElem? fun i => Option.ext fun token => ?_
            rw [getElem?_of_wordPostings, getElem?_of_wordPostings, hpostings]
          rw [List.flatMap_cons, List.flatMap_cons, hpostings] at h
          rw [ih hcs.2 hds.2 (fun c hc' => hc c (List.mem_cons_of_mem _ hc'))
            (fun d hd' => hd d (List.mem_cons_of_mem _ hd')) (List.append_cancel_left h),
            Prod.ext hid hwords]

/-- The chunks that have tokens. -/
def nonempty (chunks : List (Uuid × List Text)) : List (Uuid × List Text) :=
  chunks.filter (·.2 ≠ [])

lemma flatMap_nonempty (chunks : List (Uuid × List Text)) :
    (nonempty chunks).flatMap wordPostings = chunks.flatMap wordPostings := by
  induction chunks with
  | nil => rfl
  | cons c cs ih =>
      by_cases hc : c.2 = []
      · rw [nonempty, List.filter_cons_of_neg (by simpa using hc), ← nonempty, ih, List.flatMap_cons,
          wordPostings_eq_nil.mpr hc, List.nil_append]
      · rw [nonempty, List.filter_cons_of_pos (by simpa using hc), ← nonempty, List.flatMap_cons, ih,
          List.flatMap_cons]

lemma sum_nonempty (chunks : List (Uuid × List Text)) :
    ((nonempty chunks).map (·.2.length)).sum = (chunks.map (·.2.length)).sum := by
  induction chunks with
  | nil => rfl
  | cons c cs ih =>
      by_cases hc : c.2 = []
      · rw [nonempty, List.filter_cons_of_neg (by simpa using hc), ← nonempty, ih, List.map_cons,
          List.sum_cons, hc, List.length_nil, Nat.zero_add]
      · rw [nonempty, List.filter_cons_of_pos (by simpa using hc), ← nonempty, List.map_cons,
          List.sum_cons, ih, List.map_cons, List.sum_cons]

lemma averageLength_congr {ms ns : List Nat} (hlength : ms.length = ns.length)
    (hsum : ms.sum = ns.sum) : averageLength ms = averageLength ns := by
  have hnil : ms = [] ↔ ns = [] := by
    rw [← List.length_eq_zero_iff, hlength, List.length_eq_zero_iff]
  simp only [averageLength, hlength, hsum, hnil]

/-- Two indexes have the same content: count, average length and postings. -/
structure SameContent (a b : LexicalIndexResult) : Prop where
  count : a.chunkCount = b.chunkCount
  average : a.averageChunkLength = b.averageChunkLength
  postings : a.postings = b.postings

/-- The chunks of two indexes have the same tokens: there are equally many, and those that have any
tokens agree in their identifiers and in their tokens, one by one. -/
def SameTokens (library : Library) (cs ds : List IndexableChunk) : Prop :=
  cs.length = ds.length ∧ nonempty (tokened library cs) = nonempty (tokened library ds)

instance (cs ds : List IndexableChunk) : Decidable (SameTokens library cs ds) :=
  inferInstanceAs (Decidable (_ ∧ _))

section

variable {request request' : LexicalBuildRequest} {cs ds : List IndexableChunk}
  {a b : LexicalIndexResult}

lemma sameContent_of_sameTokens (ha : Holds library request cs a) (hb : Holds library request' ds b)
    (h : SameTokens library cs ds) : SameContent a b := by
  obtain ⟨hlength, htokens⟩ := h
  obtain ⟨x, hx, hax⟩ := ha.average
  obtain ⟨y, hy, hby⟩ := hb.average
  refine ⟨by rw [ha.count, hb.count, hlength], ?_, ?_⟩
  · have haverage : averageLength ((tokened library cs).map (·.2.length)) =
        averageLength ((tokened library ds).map (·.2.length)) := by
      refine averageLength_congr ?_ ?_
      · simpa [tokened] using hlength
      · rw [← sum_nonempty, htokens, sum_nonempty]
    have hxy : x = y := by
      rw [hx, hy] at haverage
      exact Except.ok.inj haverage
    rw [hax, hby, hxy]
  · rw [ha.postings, hb.postings, ← flatMap_nonempty, htokens, flatMap_nonempty]

lemma nodup_nonempty (hcs : (cs.map (·.chunkId)).Nodup) :
    ((nonempty (tokened library cs)).map Prod.fst).Nodup := by
  have hsublist : ((nonempty (tokened library cs)).map Prod.fst).Sublist (cs.map (·.chunkId)) := by
    have htokened : (tokened library cs).map Prod.fst = cs.map (·.chunkId) := by
      simp [tokened]
    rw [← htokened]
    exact List.filter_sublist.map _
  exact hcs.sublist hsublist

/-- The same content comes from the same tokens only, when no identifier is repeated. -/
lemma sameTokens_of_sameContent (ha : Holds library request cs a) (hb : Holds library request' ds b)
    (hcs : (cs.map (·.chunkId)).Nodup) (hds : (ds.map (·.chunkId)).Nodup) (h : SameContent a b) :
    SameTokens library cs ds := by
  refine ⟨by rw [← ha.count, h.count, hb.count], ?_⟩
  refine flatMap_wordPostings_inj (nodup_nonempty hcs) (nodup_nonempty hds) ?_ ?_ ?_
  · exact fun c hc => by simpa using (List.mem_filter.mp hc).2
  · exact fun d hd => by simpa using (List.mem_filter.mp hd).2
  · rw [flatMap_nonempty, flatMap_nonempty, ← ha.postings, h.postings, hb.postings]

end

/-! ## The cache of a service -/

/-- A service that some builds have left behind. -/
inductive Reached (library : Library) : LexicalIndexService → Prop
  | new (chunks : List IndexableChunk) : Reached library (.new chunks)
  | build {service service' : LexicalIndexService} {request : LexicalBuildRequest}
      {index : LexicalIndexResult} (hservice : Reached library service)
      (hbuild : service.build library request = .ok (index, service')) : Reached library service'

/-- What the cache has under a fingerprint was built for a request with this fingerprint. -/
lemma Reached.cached {service : LexicalIndexService} (h : Reached library service) {print : String}
    {index : LexicalIndexResult} (hmem : (print, index) ∈ service.cache) :
    ∃ request, print = fingerprint library request (documentSet (eligibleChunks service.chunks request)) ∧
      indexOf library request (eligibleChunks service.chunks request) = .ok index := by
  induction h with
  | new chunks => simp [LexicalIndexService.new] at hmem
  | @build service service' request built _ hbuild ih =>
      unfold LexicalIndexService.build at hbuild
      dsimp only at hbuild
      split at hbuild
      · cases hbuild
        exact ih hmem
      · rw [bind_ok] at hbuild
        obtain ⟨result, hresult, hbuild⟩ := hbuild
        cases hbuild
        rcases List.mem_cons.mp hmem with heq | hmem
        · cases heq
          exact ⟨request, rfl, hresult⟩
        · exact ih hmem

/-- **A build of a service holds what its own chunks and the request give**, whether it was cached
or not. -/
theorem holds_of_build {service service' : LexicalIndexService} (hservice : Reached library service)
    {request : LexicalBuildRequest} {index : LexicalIndexResult}
    (h : service.build library request = .ok (index, service')) :
    Holds library request (eligibleChunks service.chunks request) index := by
  unfold LexicalIndexService.build at h
  dsimp only at h
  split at h
  case h_1 cached hlookup =>
    cases h
    obtain ⟨before, after, hcache, -⟩ := List.lookup_eq_some_iff.mp hlookup
    obtain ⟨request', hprint, hindex⟩ := hservice.cached (hcache ▸ List.mem_append_cons_self)
    obtain ⟨rfl, -⟩ := fingerprint_inj.mp hprint
    obtain ⟨hidentity, hchecksum, hcount, haverage, hpostings⟩ := holds_of_indexOf hindex
    exact ⟨hidentity, hchecksum, hcount, haverage, hpostings⟩
  case h_2 =>
    rw [bind_ok] at h
    obtain ⟨result, hresult, h⟩ := h
    cases h
    exact holds_of_indexOf hresult

/-! ## Stored indexes -/

structure LexicalIndexVersion where
  id : Uuid
  snapshotId : Option Uuid
  indexAsOfTime : Option Instant
  documentSetChecksum : String
  fingerprint : String
  documentCount : Nat
  chunkCount : Nat
  averageLength : Decimal
  status : IndexStatus
deriving DecidableEq

structure LexicalPosting where
  indexVersionId : Uuid
  draft : LexicalPostingDraft
deriving DecidableEq

instance : Schema LexicalIndexVersion where
  clash r s := r.id = s.id ∨ r.fingerprint = s.fingerprint
  check r := r.snapshotId.isNone ≠ r.indexAsOfTime.isNone
  clash_symm _ _ := Or.imp Eq.symm Eq.symm
  decClash _ _ := inferInstance
  decCheck _ := inferInstance

instance : Schema LexicalPosting where
  clash r s := r.indexVersionId = s.indexVersionId ∧ r.draft.token = s.draft.token ∧
    r.draft.chunkId = s.draft.chunkId ∧ r.draft.fieldKind = s.draft.fieldKind
  check r := 0 < r.draft.termFrequency
  clash_symm _ _ h := ⟨h.1.symm, h.2.1.symm, h.2.2.1.symm, h.2.2.2.symm⟩
  decClash _ _ := inferInstance
  decCheck _ := inferInstance

/-- The tables of the lexical indexes, with the foreign key between them. -/
structure IndexStore where
  versions : Table LexicalIndexVersion
  postings : Table LexicalPosting
  posting_version : ∀ posting ∈ postings.rows, ∃ version ∈ versions.rows,
    version.id = posting.indexVersionId

/-- The insertions of one savepoint: an index with all its postings, or nothing. -/
def IndexStore.insert (store : IndexStore) (version : LexicalIndexVersion)
    (drafts : List LexicalPostingDraft) : Option IndexStore :=
  match hversions : store.versions.insert version,
      hpostings : store.postings.insertAll (drafts.map fun draft => ⟨version.id, draft⟩) with
  | some versions, some postings => some ⟨versions, postings, by
      intro posting hposting
      rw [Table.rows_insertAll hpostings] at hposting
      rw [Table.rows_insert hversions]
      rcases List.mem_append.mp hposting with hold | hnew
      · obtain ⟨old, hmem, hid⟩ := store.posting_version posting hold
        exact ⟨old, List.mem_append_left _ hmem, hid⟩
      · obtain ⟨draft, -, rfl⟩ := List.mem_map.mp hnew
        exact ⟨version, by simp, rfl⟩⟩
  | _, _ => none

/-- The order of `ORDER BY token, chunk_id, field_kind`, under a collation of texts. -/
def postingBefore (collation : Text → Text → Bool) (r s : LexicalPosting) : Bool :=
  if r.draft.token = s.draft.token then
    toLex (r.draft.chunkId.str, r.draft.fieldKind.value) ≤
      toLex (s.draft.chunkId.str, s.draft.fieldKind.value)
  else collation r.draft.token s.draft.token

def loadLexicalIndex (collation : Text → Text → Bool) (store : IndexStore) (indexVersionId : Uuid) :
    Except Raised LexicalIndexResult :=
  match store.versions.selectOne (·.id = indexVersionId) with
  | none => .error (.value "lexical index not found")
  | some row => .ok {
      status := row.status
      indexVersionId := some row.id
      documentSetChecksum := some row.documentSetChecksum
      documentCount := row.documentCount
      chunkCount := row.chunkCount
      averageChunkLength := some row.averageLength
      postings := ((store.postings.select (·.indexVersionId = indexVersionId)).insertionSort
        fun r s => postingBefore collation r s).map (·.draft)
      reused := true }

/-- `NUMERIC(38, 12)` -/
def numeric (average : Option Decimal) : Decimal := (average.getD 0).rescale quantum

/-- The row that `persist_lexical_index` writes. -/
def indexRow (library : Library) (request : LexicalBuildRequest) (result : LexicalIndexResult)
    (id : Uuid) (checksum : String) : LexicalIndexVersion where
  id := id
  snapshotId := request.snapshotId
  indexAsOfTime := request.indexAsOfTime
  documentSetChecksum := checksum
  fingerprint := library.hash.digest (id.chars ++ ':' :: checksum.toList)
  documentCount := result.documentCount
  chunkCount := result.chunkCount
  averageLength := numeric result.averageChunkLength
  status := result.status

def persistLexicalIndex (library : Library) (collation : Text → Text → Bool) (store : IndexStore)
    (request : LexicalBuildRequest) (result : LexicalIndexResult) :
    Except Raised (LexicalIndexResult × IndexStore) :=
  match result.indexVersionId, result.documentSetChecksum with
  | some id, some checksum =>
      match store.versions.selectOne (·.id = id) with
      | some _ => (loadLexicalIndex collation store id).map fun index => (index, store)
      | none =>
          match store.insert (indexRow library request result id checksum) result.postings with
          | some store' => .ok (result, store')
          | none => (loadLexicalIndex collation store id).map fun index => (index, store)
  | _, _ => .error (.value "complete lexical index metadata is required")

/-- The store has an index under its identifier. -/
structure IndexStore.Keeps (store : IndexStore) (index : LexicalIndexResult) : Prop where
  version : ∃ row ∈ store.versions.rows, some row.id = index.indexVersionId ∧
    row.chunkCount = index.chunkCount ∧ row.averageLength = numeric index.averageChunkLength
  postings : (store.postings.select fun posting =>
    some posting.indexVersionId = index.indexVersionId).map (·.draft) = index.postings

section

variable {collation : Text → Text → Bool} {store store' : IndexStore}
  {version : LexicalIndexVersion} {drafts : List LexicalPostingDraft}
  {request : LexicalBuildRequest} {result served index : LexicalIndexResult}

lemma IndexStore.rows_insert (h : store.insert version drafts = some store') :
    store'.versions.rows = store.versions.rows ++ [version] ∧
      store'.postings.rows = store.postings.rows ++ drafts.map fun draft => ⟨version.id, draft⟩ := by
  unfold IndexStore.insert at h
  split at h
  case h_1 versions postings hversions hpostings =>
    cases h
    exact ⟨Table.rows_insert hversions, Table.rows_insertAll hpostings⟩
  case h_2 => cases h

/-- What `persist_lexical_index` can do: it finds the index stored, or stores it, or fails to. -/
lemma persist_cases (h : persistLexicalIndex library collation store request result =
      .ok (served, store')) :
    ∃ id checksum, result.indexVersionId = some id ∧ result.documentSetChecksum = some checksum ∧
      (loadLexicalIndex collation store id = .ok served ∧ store' = store ∨
        store.versions.selectOne (·.id = id) = none ∧ served = result ∧
          store.insert (indexRow library request result id checksum) result.postings =
            some store') := by
  unfold persistLexicalIndex at h
  split at h
  case h_2 => cases h
  case h_1 id checksum hid hchecksum =>
    refine ⟨id, checksum, hid, hchecksum, ?_⟩
    split at h
    case h_1 =>
      obtain ⟨index, hindex, heq⟩ := map_ok.mp h
      cases heq
      exact .inl ⟨hindex, rfl⟩
    case h_2 hnone =>
      split at h
      case h_1 hinsert =>
        cases h
        exact .inr ⟨hnone, rfl, hinsert⟩
      case h_2 =>
        obtain ⟨index, hindex, heq⟩ := map_ok.mp h
        cases heq
        exact .inl ⟨hindex, rfl⟩

/-- An index that was not stored is, once it is persisted. -/
theorem keeps_of_persist (hnew : ∀ row ∈ store.versions.rows, some row.id ≠ result.indexVersionId)
    (h : persistLexicalIndex library collation store request result = .ok (served, store')) :
    store'.Keeps result := by
  obtain ⟨id, checksum, hid, -, ⟨hload, -⟩ | ⟨-, -, hinsert⟩⟩ := persist_cases h
  · unfold loadLexicalIndex at hload
    split at hload
    case h_1 => cases hload
    case h_2 row hrow =>
      obtain ⟨hmem, hrow⟩ := Table.mem_of_selectOne hrow
      exact absurd (by simpa [hid] using hrow) (hnew row hmem)
  · obtain ⟨hversions, hpostings⟩ := IndexStore.rows_insert hinsert
    refine ⟨⟨indexRow library request result id checksum, ?_, hid.symm, rfl, rfl⟩, ?_⟩
    · rw [hversions]
      exact List.mem_append_right _ List.mem_cons_self
    · -- By the foreign key, no posting of the identifier was there before its index.
      have hold : store.postings.rows.filter
          (fun posting => some posting.indexVersionId = result.indexVersionId) = [] := by
        refine List.filter_eq_nil_iff.mpr fun posting hposting => ?_
        obtain ⟨row, hrow, hrowid⟩ := store.posting_version posting hposting
        simpa [← hrowid] using hnew row hrow
      rw [Table.select, hpostings, List.filter_append, hold, List.nil_append, List.filter_map,
        List.filter_eq_self.mpr fun draft _ => by simp [hid, indexRow], List.map_map]
      exact List.map_id _

/-- A stored index stays as it is, whatever is persisted after it. -/
theorem keeps_persist (hkeeps : store.Keeps index)
    (h : persistLexicalIndex library collation store request result = .ok (served, store')) :
    store'.Keeps index := by
  obtain ⟨id, checksum, -, -, ⟨-, rfl⟩ | ⟨hnone, -, hinsert⟩⟩ := persist_cases h
  · exact hkeeps
  · obtain ⟨hversions, hpostings⟩ := IndexStore.rows_insert hinsert
    obtain ⟨row, hrow, hrowid, hcontent⟩ := hkeeps.version
    refine ⟨⟨row, ?_, hrowid, hcontent⟩, ?_⟩
    · rw [hversions]
      exact List.mem_append_left _ hrow
    · have hne : row.id ≠ id := by simpa using Table.selectOne_eq_none.mp hnone row hrow
      have hothers : (result.postings.map fun draft => (⟨id, draft⟩ : LexicalPosting)).filter
          (fun posting => some posting.indexVersionId = index.indexVersionId) = [] := by
        refine List.filter_eq_nil_iff.mpr fun posting hposting => ?_
        obtain ⟨draft, -, rfl⟩ := List.mem_map.mp hposting
        simpa [← hrowid] using hne.symm
      rw [← hkeeps.postings, Table.select, hpostings, List.filter_append]
      simp only [indexRow]
      rw [hothers, List.append_nil, Table.select]

/-- **An index with the identifier of a stored one is not stored**: the stored one is served. -/
theorem persist_of_keeps (hkeeps : store.Keeps index)
    (hid : result.indexVersionId = index.indexVersionId) (hchecksum : result.documentSetChecksum.isSome) :
    ∃ served, persistLexicalIndex library collation store request result = .ok (served, store) ∧
      served.chunkCount = index.chunkCount ∧
      served.averageChunkLength = some (numeric index.averageChunkLength) ∧
      served.postings.Perm index.postings := by
  obtain ⟨row, hrow, hrowid, hcount, haverage⟩ := hkeeps.version
  obtain ⟨checksum, hchecksum⟩ := Option.isSome_iff_exists.mp hchecksum
  have hselect : store.versions.selectOne (·.id = row.id) = some row :=
    Table.selectOne_of_mem hrow (by simp) fun r hr => .inl (by simpa using hr)
  have hpostings : (store.postings.select (·.indexVersionId = row.id)).map (·.draft) =
      index.postings := by
    rw [← hkeeps.postings, ← hrowid]
    simp
  simp only [persistLexicalIndex, hid, ← hrowid, hchecksum, hselect, loadLexicalIndex, Except.map]
  refine ⟨_, rfl, hcount, by rw [haverage], ?_⟩
  rw [← hpostings]
  exact (List.perm_insertionSort _ _).map _

/-- The store after one persist.  One that fails leaves the store as it is. -/
def persistStep (library : Library) (collation : Text → Text → Bool) (store : IndexStore)
    (build : LexicalBuildRequest × LexicalIndexResult) : IndexStore :=
  match persistLexicalIndex library collation store build.1 build.2 with
  | .ok persisted => persisted.2
  | .error _ => store

lemma keeps_persistStep {build : LexicalBuildRequest × LexicalIndexResult}
    (hkeeps : store.Keeps index) : (persistStep library collation store build).Keeps index := by
  unfold persistStep
  split
  · next persisted hpersisted => exact keeps_persist hkeeps hpersisted
  · exact hkeeps

/-- A run of persists keeps what is stored. -/
lemma keeps_foldl {builds : List (LexicalBuildRequest × LexicalIndexResult)}
    (hkeeps : store.Keeps index) :
    (builds.foldl (persistStep library collation) store).Keeps index := by
  induction builds generalizing store with
  | nil => exact hkeeps
  | cons build builds ih =>
      rw [List.foldl_cons]
      exact ih (keeps_persistStep hkeeps)

/-- **A stored index is immutable.**  Once an index is stored under a new identifier, whatever is
persisted then, a build with its identifier is served what was stored, and stores nothing. -/
theorem served_after_persists
    (hnew : ∀ row ∈ store.versions.rows, some row.id ≠ index.indexVersionId)
    (h : persistLexicalIndex library collation store request index = .ok (served, store'))
    (builds : List (LexicalBuildRequest × LexicalIndexResult)) (request' : LexicalBuildRequest)
    (hid : result.indexVersionId = index.indexVersionId)
    (hchecksum : result.documentSetChecksum.isSome) :
    ∃ again, persistLexicalIndex library collation
        (builds.foldl (persistStep library collation) store') request' result =
          .ok (again, builds.foldl (persistStep library collation) store') ∧
      again.chunkCount = index.chunkCount ∧
      again.averageChunkLength = some (numeric index.averageChunkLength) ∧
      again.postings.Perm index.postings := by
  have hkeeps : store'.Keeps index := keeps_of_persist hnew h
  exact persist_of_keeps (keeps_foldl hkeeps) hid hchecksum

end

/-- The stored average is the average as a number. -/
lemma toRat_numeric {lengths : List Nat} {average : Decimal}
    (h : averageLength lengths = .ok average) : (numeric (some average)).toRat = average.toRat := by
  refine Decimal.toRat_rescale ?_
  unfold averageLength at h
  split_ifs at h
  · cases h
    decide
  · obtain ⟨quotient, -, hquantize⟩ := bind_ok.mp h
    exact (Decimal.exponent_quantize hquantize).ge

/-! ## The law -/

/-- The fingerprint under which a service with these chunks builds an index. -/
def printOf (library : Library) (chunks : List IndexableChunk) (request : LexicalBuildRequest) :
    String :=
  fingerprint library request (documentSet (eligibleChunks chunks request))

/-- The stored index that is served in place of a fresh one says the same. -/
structure Serves (served fresh : LexicalIndexResult) : Prop where
  count : served.chunkCount = fresh.chunkCount
  average : served.averageChunkLength.map Decimal.toRat = fresh.averageChunkLength.map Decimal.toRat
  postings : served.postings.Perm fresh.postings

/-- Under one identifier there is one content, and what is stored can stand for what is built. -/
def Identified (library : Library) (request : LexicalBuildRequest) (a b : LexicalIndexResult) :
    Prop :=
  a.indexVersionId = b.indexVersionId → SameContent a b ∧
    ∀ (collation : Text → Text → Bool) (store : IndexStore), store.Keeps a →
      ∃ served, persistLexicalIndex library collation store request b = .ok (served, store) ∧
        Serves served b

/-- What the fingerprint leaves open does not matter: one request over the same document versions
meets the same tokens. -/
def Determined (library : Library) (cs : List IndexableChunk) (request : LexicalBuildRequest)
    (ds : List IndexableChunk) (request' : LexicalBuildRequest) : Prop :=
  request = request' →
    documentSet (eligibleChunks cs request) = documentSet (eligibleChunks ds request') →
    SameTokens library (eligibleChunks cs request) (eligibleChunks ds request')

lemma nodup_eligibleChunks {chunks : List IndexableChunk} (h : (chunks.map (·.chunkId)).Nodup)
    (request : LexicalBuildRequest) : ((eligibleChunks chunks request).map (·.chunkId)).Nodup := by
  have hperm := (List.perm_insertionSort (fun a b : IndexableChunk => a.key ≤ b.key)
    (chunks.filter (eligible · request))).map (·.chunkId)
  exact hperm.nodup_iff.mpr (h.sublist (List.filter_sublist.map _))

/-- **When the identity of an index determines its content.**  Any two builds under one identifier
have the same content, and the stored index can stand for the fresh one, if the chunks are determined
by what the fingerprint covers; and only then, when no chunk is listed twice. -/
theorem build_identity {s t s' t' : LexicalIndexService} (hs : Reached library s)
    (ht : Reached library t) {request request' : LexicalBuildRequest} {a b : LexicalIndexResult}
    (ha : s.build library request = .ok (a, s')) (hb : t.build library request' = .ok (b, t'))
    (huuid : library.uuid5 (printOf library s.chunks request) =
        library.uuid5 (printOf library t.chunks request') →
      printOf library s.chunks request = printOf library t.chunks request') :
    (Determined library s.chunks request t.chunks request' → Identified library request' a b) ∧
      ((s.chunks.map (·.chunkId)).Nodup → (t.chunks.map (·.chunkId)).Nodup →
        Identified library request' a b →
        Determined library s.chunks request t.chunks request') := by
  have hholds := holds_of_build hs ha
  have hholds' := holds_of_build ht hb
  constructor
  · intro hdetermined hid
    have hprint : printOf library s.chunks request = printOf library t.chunks request' := by
      rw [hholds.identity, hholds'.identity, Option.some.injEq] at hid
      exact huuid hid
    obtain ⟨hrequest, hdocuments⟩ := fingerprint_inj.mp hprint
    have hsame := sameContent_of_sameTokens hholds hholds' (hdetermined hrequest hdocuments)
    refine ⟨hsame, fun collation store hkeeps => ?_⟩
    obtain ⟨served, hpersist, hcount, haverage, hpostings⟩ :
        ∃ served, persistLexicalIndex library collation store request' b = .ok (served, store) ∧
          served.chunkCount = a.chunkCount ∧
          served.averageChunkLength = some (numeric a.averageChunkLength) ∧
          served.postings.Perm a.postings :=
      persist_of_keeps hkeeps hid.symm (by simp [hholds'.checksum])
    refine ⟨served, hpersist, by rw [hcount, hsame.count], ?_, hsame.postings ▸ hpostings⟩
    obtain ⟨average, haverage', hb⟩ := hholds'.average
    rw [haverage, hsame.average, hb, Option.map_some, Option.map_some, toRat_numeric haverage']
  · intro hcs hds hidentified hrequest hdocuments
    have hid : a.indexVersionId = b.indexVersionId := by
      rw [hholds.identity, hholds'.identity, hdocuments, hrequest]
    exact sameTokens_of_sameContent hholds hholds' (nodup_eligibleChunks hcs request)
      (nodup_eligibleChunks hds request') (hidentified hid).1

/-! ## A document that was parsed again -/

/-- Foldings of ASCII texts, and names that are added up. -/
def sampleLibrary : Library where
  folding := asciiFolding
  hash := default
  uuid5 name := ⟨BitVec.ofNat 128 ((name.toList.map Char.toNat).foldl (fun n c => 31 * n + c) 7)⟩
  ln _ a := .ok a

def sampleTime : Instant where
  date := ⟨2026, 7, 20, validYear_2026, validMonth_7, by decide⟩
  hour := 8
  minute := 0
  second := 0
  microsecond := 0
  validHour := validHour_8
  validMinute := validMinute_0
  validSecond := validMinute_0
  validMicrosecond := validMicrosecond_0

lemma untitled_bound : ∀ t ∈ (none : Option Text), t.length ≤ 1000 := by simp

/-- The one chunk of a document, as a parse run of the given number made it. -/
def parsedChunk (run : Nat) (text : Text) (h : 1 ≤ text.length ∧ text.length ≤ 1600) :
    IndexableChunk where
  chunkId := ⟨BitVec.ofNat 128 run⟩
  documentVersionId := 7
  documentChecksum := "c"
  securityId := 1
  publishedAt := some sampleTime
  snapshotIds := []
  chunkIndex := 0
  locatorChecksum := "l"
  text := text
  sectionTitle := none
  documentType := .sec10K
  language := .enUs
  trustLevel := .officialRegulatory
  supersededAt := none
  supersessionTimeUnknown := false
  text_bounds := h
  title_bound := untitled_bound

lemma asOf_scope : (none : Option Uuid).isNone ≠ (some sampleTime).isNone := by decide

lemma oneLetter_bounds : 1 ≤ ['x'].length ∧ ['x'].length ≤ 1600 := by decide

def asOfRequest : LexicalBuildRequest where
  indexName := "n"
  securityId := 1
  snapshotId := none
  indexAsOfTime := some sampleTime
  one_scope := asOf_scope

def parsedOnce : List IndexableChunk := [parsedChunk 1 ['x'] oneLetter_bounds]

def parsedTwice : List IndexableChunk := parsedOnce ++ [parsedChunk 2 ['y'] (by decide)]

def emptyStore : IndexStore := ⟨∅, ∅, by simp [EmptyCollection.emptyCollection]⟩

/-- **Parsing a document again changes the postings under an unchanged identifier**, and the store
serves the old ones. -/
theorem identity_parsedTwice :
    ∃ a b s s' store served,
      (LexicalIndexService.new parsedOnce).build sampleLibrary asOfRequest = .ok (a, s) ∧
      (LexicalIndexService.new parsedTwice).build sampleLibrary asOfRequest = .ok (b, s') ∧
      a.indexVersionId = b.indexVersionId ∧ a.chunkCount ≠ b.chunkCount ∧
      a.postings ≠ b.postings ∧
      persistLexicalIndex sampleLibrary (· ≤ ·) emptyStore asOfRequest a = .ok (a, store) ∧
      persistLexicalIndex sampleLibrary (· ≤ ·) store asOfRequest b = .ok (served, store) ∧
      ¬ served.postings.Perm b.postings := by
  obtain ⟨a, b, s, s', store, ha, hb, hid, hcount, hpostings, hlength, hchecksum, hpersist⟩ :
      ∃ a b s s' store,
        (LexicalIndexService.new parsedOnce).build sampleLibrary asOfRequest = .ok (a, s) ∧
        (LexicalIndexService.new parsedTwice).build sampleLibrary asOfRequest = .ok (b, s') ∧
        b.indexVersionId = a.indexVersionId ∧ a.chunkCount ≠ b.chunkCount ∧
        a.postings ≠ b.postings ∧ a.postings.length ≠ b.postings.length ∧
        b.documentSetChecksum.isSome ∧
        persistLexicalIndex sampleLibrary (· ≤ ·) emptyStore asOfRequest a = .ok (a, store) :=
    ⟨_, _, _, _, _, rfl, rfl, rfl, by decide, by decide +kernel, by decide +kernel, rfl, rfl⟩
  have hkeeps : store.Keeps a :=
    keeps_of_persist (by simp [emptyStore, EmptyCollection.emptyCollection]) hpersist
  obtain ⟨served, hserved, -, -, hperm⟩ := persist_of_keeps hkeeps hid hchecksum
  exact ⟨a, b, s, s', store, served, ha, hb, hid.symm, hcount, hpostings, hpersist, hserved,
    fun h => hlength (hperm.symm.trans h).length_eq⟩

/-- `build_identity` on a document that was parsed once. -/
theorem build_identity_parsedOnce :
    ∃ a s, (LexicalIndexService.new parsedOnce).build sampleLibrary asOfRequest = .ok (a, s) ∧
      Identified sampleLibrary asOfRequest a a := by
  refine ⟨_, _, rfl, ?_⟩
  exact (build_identity (.new parsedOnce) (.new parsedOnce) rfl rfl fun _ => rfl).1
    fun _ _ => by decide +kernel

/-- The index of the document that was parsed once is served after the document was parsed twice. -/
theorem parsedOnce_served : ∃ a b s s' store served later,
    (LexicalIndexService.new parsedOnce).build sampleLibrary asOfRequest = .ok (a, s) ∧
    (LexicalIndexService.new parsedTwice).build sampleLibrary asOfRequest = .ok (b, s') ∧
    persistLexicalIndex sampleLibrary (· ≤ ·) emptyStore asOfRequest a = .ok (a, store) ∧
    later = persistStep sampleLibrary (· ≤ ·) store (asOfRequest, b) ∧
    persistLexicalIndex sampleLibrary (· ≤ ·) later asOfRequest b = .ok (served, later) ∧
    served.postings.Perm a.postings := by
  obtain ⟨a, b, s, s', store, ha, hb, hid, hchecksum, hpersist⟩ : ∃ a b s s' store,
      (LexicalIndexService.new parsedOnce).build sampleLibrary asOfRequest = .ok (a, s) ∧
      (LexicalIndexService.new parsedTwice).build sampleLibrary asOfRequest = .ok (b, s') ∧
      b.indexVersionId = a.indexVersionId ∧ b.documentSetChecksum.isSome ∧
      persistLexicalIndex sampleLibrary (· ≤ ·) emptyStore asOfRequest a = .ok (a, store) :=
    ⟨_, _, _, _, _, rfl, rfl, rfl, rfl, rfl⟩
  obtain ⟨served, hserved, -, -, hperm⟩ := served_after_persists
    (by simp [emptyStore, EmptyCollection.emptyCollection]) hpersist [(asOfRequest, b)] asOfRequest
    hid hchecksum
  exact ⟨a, b, s, s', store, served, _, ha, hb, hpersist, rfl, hserved, hperm⟩

end StockResearch.Retrieval
