import StockResearch.Documents.Identity
import Mathlib.Logic.Relation

/-!
# Document versions along every run

Another session may write between any two accesses of `register` to the table.  `Phase.advance` is
the call cut at every access, and a run is any interleaving of the phases of any number of calls,
with other surroundings at every step.  Rows are seen by every session once they are inserted.

* `advance_register`: six phases in a row are `register`.
* **`registered_versions`**: along every run, the versions of a logical document differ in checksum
  and number, a version supersedes only an older one of its own document, no row changes, and a
  version is reused only for a request that would have written the same row.

A link to a superseded version is validated before the row is inserted, and stands because rows are
only ever added (`LinksBack.mono`).
-/

namespace StockResearch.Documents

open PyTime Txn

/-! ## Calls in phases -/

/-- Where a call of `register` stands between two accesses to the table. -/
inductive Phase where
  | looking
  | numbering (logicalDocumentId : Uuid)
  | relating (logicalDocumentId : Uuid) (versionNumber : Nat)
  | acquiring (value : DocumentVersionWrite)
  | inserting (value : DocumentVersionWrite)
  | refused (value : DocumentVersionWrite)
  | returned (result : Except String DocumentVersionResult)

/-- A call up to its next access to the table, and that access. -/
def Phase.advance (env : Surroundings) (request : RegisterDocumentVersionRequest)
    (versions : Table DocumentVersionRecord) : Phase → Phase × Table DocumentVersionRecord
  | .looking =>
      match lookUp env versions request with
      | .error e => (.returned (.error e), versions)
      | .ok (.inl result) => (.returned (.ok result), versions)
      | .ok (.inr logicalDocumentId) => (.numbering logicalDocumentId, versions)
  | .numbering logicalDocumentId =>
      (.relating logicalDocumentId (chosenNumber versions request logicalDocumentId), versions)
  | .relating logicalDocumentId versionNumber =>
      match validateSupersedesRelation versions logicalDocumentId versionNumber
          request.supersedesDocumentVersionId with
      | some warning => (.returned (.ok (.blocked warning)), versions)
      | none => (.acquiring (request.write logicalDocumentId versionNumber), versions)
  | .acquiring value =>
      match findVersion versions value.logicalDocumentId value.checksum with
      | some existing => (.returned (.ok (acquiredResult request existing false)), versions)
      | none => (.inserting value, versions)
  | .inserting value =>
      match flushVersion env versions value with
      | .stored row versions' => (.returned (.ok (acquiredResult request row true)), versions')
      | .dataError => (.returned (.error "DataError"), versions)
      | .integrityError => (.refused value, versions)
  | .refused value =>
      match findVersion versions value.logicalDocumentId value.checksum with
      | some winner => (.returned (.ok (acquiredResult request winner false)), versions)
      | none => (.returned (.error "IntegrityError"), versions)
  | .returned result => (.returned result, versions)

/-- A call that nobody interrupts, phase by phase. -/
def Phase.advances (env : Surroundings) (request : RegisterDocumentVersionRequest) :
    Nat → Phase × Table DocumentVersionRecord → Phase × Table DocumentVersionRecord
  | 0, s => s
  | n + 1, s => Phase.advances env request n (s.1.advance env request s.2)

lemma advances_returned (env : Surroundings) (request : RegisterDocumentVersionRequest)
    (result : Except String DocumentVersionResult) (versions : Table DocumentVersionRecord)
    (n : Nat) : Phase.advances env request n (.returned result, versions) =
      (.returned result, versions) := by
  induction n with
  | zero => rfl
  | succ n ih => exact ih

/-- **The phases are the call.** -/
theorem advance_register (env : Surroundings) (versions : Table DocumentVersionRecord)
    (request : RegisterDocumentVersionRequest) :
    Phase.advances env request 6 (.looking, versions) =
      (.returned (register env versions request).1, (register env versions request).2) := by
  unfold register
  rw [Phase.advances, Phase.advance]
  cases lookUp env versions request with
  | error e => exact advances_returned ..
  | ok found =>
      rcases found with result | logicalDocumentId
      · exact advances_returned ..
      · rw [Phase.advances, Phase.advance, Phase.advances, Phase.advance]
        dsimp only
        cases validateSupersedesRelation versions logicalDocumentId
            (chosenNumber versions request logicalDocumentId)
            request.supersedesDocumentVersionId with
        | some warning => exact advances_returned ..
        | none =>
            dsimp only
            generalize request.write logicalDocumentId
              (chosenNumber versions request logicalDocumentId) = value
            rw [Phase.advances, Phase.advance, acquireVersion]
            cases hfind : findVersion versions value.logicalDocumentId value.checksum with
            | some existing => exact advances_returned ..
            | none =>
                dsimp only
                rw [Phase.advances, Phase.advance]
                cases flushVersion env versions value with
                | stored row versions' => exact advances_returned ..
                | dataError => exact advances_returned ..
                | integrityError =>
                    dsimp only
                    rw [Phase.advances, Phase.advance, hfind]
                    exact advances_returned ..

/-! ## Runs -/

structure Call where
  request : RegisterDocumentVersionRequest
  phase : Phase

/-- The table, and the calls begun so far. -/
structure Registry where
  versions : Table DocumentVersionRecord
  calls : List Call

inductive RegistryEvent where
  | start (request : RegisterDocumentVersionRequest)
  | advance (call : Nat) (env : Surroundings)

/-- One event: a new call, or the next phase of a call. -/
def Registry.step (s : Registry) : RegistryEvent → Unit × Registry
  | .start request => ((), { s with calls := s.calls ++ [⟨request, .looking⟩] })
  | .advance i env =>
      match s.calls[i]? with
      | none => ((), s)
      | some call =>
          let next := call.phase.advance env call.request s.versions
          ((), ⟨next.2, s.calls.set i ⟨call.request, next.1⟩⟩)

/-- No version and no call. -/
def Registry.empty : Registry := ⟨∅, []⟩

/-! ## What a phase has established -/

/-- What a version supersedes is an older version of its logical document. -/
def LinksBack (versions : Table DocumentVersionRecord) (value : DocumentVersionWrite) : Prop :=
  ∀ id ∈ value.supersedesDocumentVersionId, ∃ row ∈ versions.rows, row.id = id ∧
    row.logicalDocumentId = value.logicalDocumentId ∧ row.versionNumber < value.versionNumber

/-- A row has the content and the policy of a request, under whatever number. -/
def WrittenFor (request : RegisterDocumentVersionRequest) (value : DocumentVersionWrite) : Prop :=
  request.logicalDocumentId = some value.logicalDocumentId ∧
    value = request.write value.logicalDocumentId value.versionNumber

/-- The phase of a call is one that the call can be in, over this table. -/
def Call.Sound (versions : Table DocumentVersionRecord) (call : Call) : Prop :=
  match call.phase with
  | .looking => True
  | .numbering logicalDocumentId => call.request.logicalDocumentId = some logicalDocumentId
  | .relating logicalDocumentId _ => call.request.logicalDocumentId = some logicalDocumentId
  | .acquiring value => WrittenFor call.request value ∧ LinksBack versions value
  | .inserting value => WrittenFor call.request value ∧ LinksBack versions value
  | .refused value => WrittenFor call.request value
  | .returned result => ∀ answer, result = .ok answer → answer.status = .reused →
      ∃ record ∈ versions.rows, answer.version = some record ∧
        WrittenFor call.request record.toDocumentVersionWrite

structure Registry.Sound (s : Registry) : Prop where
  links : ∀ row ∈ s.versions.rows, LinksBack s.versions row.toDocumentVersionWrite
  calls : ∀ call ∈ s.calls, call.Sound s.versions

/-- One table goes on from another. -/
def Extends (versions versions' : Table DocumentVersionRecord) : Prop :=
  versions.rows <+: versions'.rows

lemma LinksBack.mono {versions versions' : Table DocumentVersionRecord}
    {value : DocumentVersionWrite} (hext : Extends versions versions')
    (h : LinksBack versions value) : LinksBack versions' value := by
  intro id hid
  obtain ⟨row, hmem, hrow⟩ := h id hid
  exact ⟨row, hext.subset hmem, hrow⟩

lemma Call.Sound.mono {versions versions' : Table DocumentVersionRecord} {call : Call}
    (hext : Extends versions versions') (h : call.Sound versions) : call.Sound versions' := by
  obtain ⟨request, phase⟩ := call
  cases phase with
  | acquiring value => exact ⟨h.1, h.2.mono hext⟩
  | inserting value => exact ⟨h.1, h.2.mono hext⟩
  | returned result =>
      intro answer hanswer hreused
      obtain ⟨record, hmem, hrecord⟩ := h answer hanswer hreused
      exact ⟨record, hext.subset hmem, hrecord⟩
  | looking | numbering | relating | refused => exact h

/-! ## One phase -/

lemma findVersion_some {versions : Table DocumentVersionRecord} {logicalDocumentId : Uuid}
    {checksum : String} {record : DocumentVersionRecord}
    (h : findVersion versions logicalDocumentId checksum = some record) :
    record ∈ versions.rows ∧ record.logicalDocumentId = logicalDocumentId := by
  obtain ⟨hmem, hrow⟩ := Table.mem_of_selectOne h
  exact ⟨hmem, (decide_eq_true_eq.mp hrow).1⟩

/-- The two comparisons of `register` leave only the number open. -/
lemma writtenFor_of_same {versions : Table DocumentVersionRecord}
    {request : RegisterDocumentVersionRequest} {record : DocumentVersionRecord}
    (hmem : record ∈ versions.rows)
    (hlogical : request.logicalDocumentId = some record.logicalDocumentId)
    (hcontent : sameContentMetadata record request.sourceBody) (hpolicy : samePolicy record request) :
    WrittenFor request record.toDocumentVersionWrite := by
  have halgorithm : record.checksumAlgorithm = "sha256" := (versions.checked record hmem).2.2
  obtain ⟨⟨⟩, id, createdAt⟩ := record
  simp only [sameContentMetadata, samePolicy] at hcontent hpolicy halgorithm
  simp only [WrittenFor, RegisterDocumentVersionRequest.write]
  simp_all

lemma validateSupersedesRelation_none {versions : Table DocumentVersionRecord}
    {logicalDocumentId : Uuid} {versionNumber : Nat} {request : RegisterDocumentVersionRequest}
    (h : validateSupersedesRelation versions logicalDocumentId versionNumber
      request.supersedesDocumentVersionId = none) :
    LinksBack versions (request.write logicalDocumentId versionNumber) := by
  intro id hid
  have hid : request.supersedesDocumentVersionId = some id := hid
  rw [hid, validateSupersedesRelation] at h
  cases hget : getDocumentVersion versions id with
  | none => simp [hget] at h
  | some superseded =>
      obtain ⟨hmem, hrow⟩ := Table.mem_of_selectOne hget
      have horder : superseded.logicalDocumentId = logicalDocumentId ∧
          superseded.versionNumber < versionNumber := by
        simpa [hget, ite_eq_iff, not_le] using h
      exact ⟨superseded, hmem, decide_eq_true_eq.mp hrow, horder.1, horder.2⟩

/-- A stored version answers a request only when it would have been written for it. -/
lemma acquiredResult_sound {versions : Table DocumentVersionRecord}
    {request : RegisterDocumentVersionRequest} {record : DocumentVersionRecord} {acquired : Bool}
    (hmem : record ∈ versions.rows)
    (hlogical : request.logicalDocumentId = some record.logicalDocumentId) :
    Call.Sound versions
      ⟨request, .returned (.ok (acquiredResult request record acquired))⟩ := by
  intro answer hanswer hreused
  obtain rfl := Except.ok.inj hanswer
  by_cases hcontent : sameContentMetadata record request.sourceBody
  · by_cases hpolicy : samePolicy record request
    · refine ⟨record, hmem, ?_, writtenFor_of_same hmem hlogical hcontent hpolicy⟩
      simp [acquiredResult, hcontent, hpolicy]
    · simp [acquiredResult, hcontent, hpolicy, DocumentVersionResult.blocked] at hreused
  · simp [acquiredResult, hcontent, DocumentVersionResult.blocked] at hreused

lemma blocked_sound (versions : Table DocumentVersionRecord)
    (request : RegisterDocumentVersionRequest) (warning : String) :
    Call.Sound versions ⟨request, .returned (.ok (.blocked warning))⟩ := by
  intro answer hanswer hreused
  obtain rfl := Except.ok.inj hanswer
  simp [DocumentVersionResult.blocked] at hreused

lemma error_sound (versions : Table DocumentVersionRecord)
    (request : RegisterDocumentVersionRequest) (e : String) :
    Call.Sound versions ⟨request, .returned (.error e)⟩ := by
  intro answer hanswer _
  cases hanswer

/-- What the lookup has established. -/
def FoundSound (versions : Table DocumentVersionRecord)
    (request : RegisterDocumentVersionRequest) : DocumentVersionResult ⊕ Uuid → Prop
  | .inl result => Call.Sound versions ⟨request, .returned (.ok result)⟩
  | .inr logicalDocumentId => request.logicalDocumentId = some logicalDocumentId

lemma foundSound_of_blocked {versions : Table DocumentVersionRecord}
    {request : RegisterDocumentVersionRequest} {warning : String}
    {found : DocumentVersionResult ⊕ Uuid}
    (h : (Except.ok (.inl (.blocked warning)) : Except String _) = .ok found) :
    FoundSound versions request found := by
  obtain rfl := Except.ok.inj h
  exact blocked_sound versions request warning

/-- The lookup answers with a stored version, or goes on under the requested document. -/
lemma lookUp_sound {env : Surroundings} {versions : Table DocumentVersionRecord}
    {request : RegisterDocumentVersionRequest} {found : DocumentVersionResult ⊕ Uuid}
    (h : lookUp env versions request = .ok found) : FoundSound versions request found := by
  unfold lookUp at h
  split at h
  · exact foundSound_of_blocked h
  next logicalDocumentId hlogical =>
  dsimp only at h
  split at h
  · exact foundSound_of_blocked h
  split at h
  · exact foundSound_of_blocked h
  split at h
  · exact foundSound_of_blocked h
  split at h
  · exact foundSound_of_blocked h
  next hcontent =>
  obtain ⟨blobs, -, h⟩ := Checked.bind_ok.mp h
  split at h
  · exact foundSound_of_blocked h
  split at h
  next version hfind =>
    obtain ⟨hmem, hversion⟩ := findVersion_some hfind
    split at h
    · exact foundSound_of_blocked h
    next hpolicy =>
      obtain rfl := Except.ok.inj h
      have hsame : sameContentMetadata version request.sourceBody := by
        by_contra hdiffers
        exact hcontent ⟨version, hfind, hdiffers⟩
      rw [← hversion] at hlogical
      intro answer hanswer _
      obtain rfl := Except.ok.inj hanswer
      exact ⟨version, hmem, rfl, writtenFor_of_same hmem hlogical hsame (not_not.mp hpolicy)⟩
  next hfind =>
    obtain rfl := Except.ok.inj h
    exact hlogical

/-- A refused row leaves the table as it was, a stored one is appended to it. -/
lemma flushVersion_stored {env : Surroundings} {versions versions' : Table DocumentVersionRecord}
    {value : DocumentVersionWrite} {row : DocumentVersionRecord}
    (h : flushVersion env versions value = .stored row versions') :
    row.toDocumentVersionWrite = value ∧ versions'.rows = versions.rows ++ [row] := by
  unfold flushVersion at h
  split at h
  · cases h
  split at h
  next hinsert =>
    cases h
    exact ⟨rfl, Table.rows_insert hinsert⟩
  · cases h

/-- One phase of a sound call: the call stays sound, and the table either stays or gets one row
that links back. -/
lemma advance_sound {env : Surroundings} {versions : Table DocumentVersionRecord} {call : Call}
    (h : call.Sound versions) :
    Call.Sound (call.phase.advance env call.request versions).2
        ⟨call.request, (call.phase.advance env call.request versions).1⟩ ∧
      ((call.phase.advance env call.request versions).2 = versions ∨
        ∃ row, (call.phase.advance env call.request versions).2.rows = versions.rows ++ [row] ∧
          LinksBack versions row.toDocumentVersionWrite) := by
  obtain ⟨request, phase⟩ := call
  cases phase with
  | looking =>
      simp only [Phase.advance]
      cases hfound : lookUp env versions request with
      | error e => exact ⟨error_sound versions request e, .inl rfl⟩
      | ok found =>
          have hsound := lookUp_sound hfound
          cases found with
          | inl result => exact ⟨hsound, .inl rfl⟩
          | inr logicalDocumentId => exact ⟨hsound, .inl rfl⟩
  | numbering logicalDocumentId => exact ⟨h, .inl rfl⟩
  | relating logicalDocumentId versionNumber =>
      simp only [Phase.advance]
      cases hvalid : validateSupersedesRelation versions logicalDocumentId versionNumber
          request.supersedesDocumentVersionId with
      | some warning => exact ⟨blocked_sound versions request warning, .inl rfl⟩
      | none => exact ⟨⟨⟨h, rfl⟩, validateSupersedesRelation_none hvalid⟩, .inl rfl⟩
  | acquiring value =>
      obtain ⟨hwritten, hlinks⟩ := h
      simp only [Phase.advance]
      cases hfind : findVersion versions value.logicalDocumentId value.checksum with
      | none => exact ⟨⟨hwritten, hlinks⟩, .inl rfl⟩
      | some existing =>
          obtain ⟨hmem, hlogical⟩ := findVersion_some hfind
          exact ⟨acquiredResult_sound hmem (by rw [hlogical]; exact hwritten.1), .inl rfl⟩
  | inserting value =>
      obtain ⟨hwritten, hlinks⟩ := h
      simp only [Phase.advance]
      cases hflush : flushVersion env versions value with
      | dataError => exact ⟨error_sound versions request _, .inl rfl⟩
      | integrityError => exact ⟨hwritten, .inl rfl⟩
      | stored row versions' =>
          obtain ⟨rfl, hrows⟩ := flushVersion_stored hflush
          have hmem : row ∈ versions'.rows := by simp [hrows]
          exact ⟨acquiredResult_sound hmem hwritten.1, .inr ⟨row, hrows, hlinks⟩⟩
  | refused value =>
      simp only [Phase.advance]
      cases hfind : findVersion versions value.logicalDocumentId value.checksum with
      | none => exact ⟨error_sound versions request _, .inl rfl⟩
      | some winner =>
          obtain ⟨hmem, hlogical⟩ := findVersion_some hfind
          exact ⟨acquiredResult_sound hmem (by rw [hlogical]; exact h.1), .inl rfl⟩
  | returned result => exact ⟨h, .inl rfl⟩

/-! ## Every run -/

/-- One event keeps the registry sound and its table a continuation of the one before. -/
lemma Registry.step_sound {s : Registry} (hs : s.Sound) (e : RegistryEvent) :
    (s.step e).2.Sound ∧ Extends s.versions (s.step e).2.versions := by
  cases e with
  | start request =>
      refine ⟨⟨hs.links, ?_⟩, List.prefix_rfl⟩
      intro call hcall
      rcases List.mem_append.mp hcall with hcall | hcall
      · exact hs.calls call hcall
      · obtain rfl := List.mem_singleton.mp hcall
        trivial
  | advance i env =>
      simp only [Registry.step]
      cases hcall : s.calls[i]? with
      | none => exact ⟨hs, List.prefix_rfl⟩
      | some call =>
          have hmem : call ∈ s.calls := List.mem_of_getElem? hcall
          obtain ⟨hsound, htable⟩ := @advance_sound env s.versions call (hs.calls call hmem)
          have hext : Extends s.versions (call.phase.advance env call.request s.versions).2 := by
            rcases htable with heq | ⟨row, hrows, -⟩
            · rw [heq]
              exact List.prefix_rfl
            · exact ⟨[row], hrows.symm⟩
          refine ⟨⟨?_, ?_⟩, hext⟩
          · intro row hrow
            rcases htable with heq | ⟨new, hrows, hlinks⟩
            · simp only [heq] at hrow ⊢
              exact hs.links row hrow
            · simp only [hrows, List.mem_append, List.mem_singleton] at hrow
              rcases hrow with hrow | rfl
              · exact (hs.links row hrow).mono hext
              · exact hlinks.mono hext
          · intro other hother
            rcases List.mem_or_eq_of_mem_set hother with hother | rfl
            · exact (hs.calls other hother).mono hext
            · exact hsound

lemma Registry.empty_sound : Registry.empty.Sound :=
  ⟨fun _ h => absurd h List.not_mem_nil, fun _ h => absurd h List.not_mem_nil⟩

lemma Registry.finish_sound {s : Registry} (hs : s.Sound) (events : List RegistryEvent) :
    (finish Registry.step s events).Sound ∧
      Extends s.versions (finish Registry.step s events).versions := by
  induction events generalizing s with
  | nil => exact ⟨hs, List.prefix_rfl⟩
  | cons e events ih =>
      obtain ⟨hstep, hext⟩ := s.step_sound hs e
      obtain ⟨hrun, hext'⟩ := ih hstep
      exact ⟨hrun, hext.trans hext'⟩

/-- One version supersedes another. -/
def Supersedes (versions : Table DocumentVersionRecord) (a b : DocumentVersionRecord) : Prop :=
  a ∈ versions.rows ∧ b ∈ versions.rows ∧ a.supersedesDocumentVersionId = some b.id

/-- Links go to smaller numbers. -/
lemma Registry.Sound.supersedes {s : Registry} (hs : s.Sound) {a b : DocumentVersionRecord}
    (h : Supersedes s.versions a b) :
    b.logicalDocumentId = a.logicalDocumentId ∧ b.versionNumber < a.versionNumber := by
  obtain ⟨ha, hb, hlink⟩ := h
  obtain ⟨row, hrow, hid, hrest⟩ := hs.links a ha b.id hlink
  obtain rfl := Table.eq_of_clash hrow hb (.inl hid)
  exact hrest

lemma Registry.Sound.transGen {s : Registry} (hs : s.Sound) {a b : DocumentVersionRecord}
    (h : Relation.TransGen (Supersedes s.versions) a b) : b.versionNumber < a.versionNumber := by
  induction h with
  | single h => exact (hs.supersedes h).2
  | tail _ h ih => exact (hs.supersedes h).2.trans ih

/-- **Document versions are immutable, distinct and ordered.**  After any events, and along any
further ones: the versions of a logical document differ in number and checksum; what a version
supersedes is stored, belongs to the same document and has a smaller number, so that no version
supersedes itself through others; the rows stay as they are, with new ones after them; and a call
that reused a version was asked for exactly the content and the policy of that stored row. -/
theorem registered_versions (events later : List RegistryEvent) :
    let s := finish Registry.step Registry.empty events
    let s' := finish Registry.step s later
    s.versions.rows.Pairwise (fun a b => a.logicalDocumentId = b.logicalDocumentId →
        a.checksum ≠ b.checksum ∧ a.versionNumber ≠ b.versionNumber) ∧
      (∀ a ∈ s.versions.rows, ∀ id ∈ a.supersedesDocumentVersionId, ∃ b ∈ s.versions.rows,
        b.id = id ∧ b.logicalDocumentId = a.logicalDocumentId ∧
          b.versionNumber < a.versionNumber) ∧
      (∀ a, ¬ Relation.TransGen (Supersedes s.versions) a a) ∧
      s.versions.rows <+: s'.versions.rows ∧
      ∀ call ∈ s.calls, ∀ answer, call.phase = .returned (.ok answer) →
        answer.status = .reused → ∃ record ∈ s.versions.rows, answer.version = some record ∧
          call.request.logicalDocumentId = some record.logicalDocumentId ∧
          record.toDocumentVersionWrite =
            call.request.write record.logicalDocumentId record.versionNumber := by
  intro s s'
  obtain ⟨hs, -⟩ := Registry.finish_sound Registry.empty_sound events
  obtain ⟨-, hext⟩ := Registry.finish_sound hs later
  refine ⟨?_, hs.links, ?_, hext, ?_⟩
  · refine s.versions.keyed.imp ?_
    intro a b hclash hlogical
    exact ⟨fun h => hclash (.inr ⟨hlogical, .inr h⟩), fun h => hclash (.inr ⟨hlogical, .inl h⟩)⟩
  · intro a hcycle
    exact absurd (hs.transGen hcycle) (lt_irrefl _)
  · intro call hcall answer hphase hreused
    have hsound := hs.calls call hcall
    obtain ⟨request, phase⟩ := call
    cases hphase
    exact hsound answer rfl hreused

end StockResearch.Documents
