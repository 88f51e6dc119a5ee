import StockResearch.ResearchAgent.CanonicalJson
import StockResearch.ResearchAgent.Evidence

/-!
# Observations

`ResearchObservationBuilder` records the output of a tool: the payload as it will be read back from
the store, and the checksum of the payload as it was handed over.  The evidence adapter computes the
checksum of what the store returns and compares the two.

The store keeps JSON.  What it returns has the members that were stored, in an order of its own.

**`canonical_json_stable`**: the two checksums agree.
-/

namespace StockResearch.ResearchAgent

open PyObject PyJson PyTime Checked

inductive ObservationType where
  | securityIdentity
  | structuredMetric
  | financialFact
  | documentEvidence
  | corporateAction
  | dataQuality
  | toolError
  | blockedCapability
deriving DecidableEq, Repr

/-- `^[a-z0-9][a-z0-9._:-]{2,127}$` -/
def isVersion (s : String) : Bool :=
  match s.toList with
  | [] => false
  | c :: rest => (c.isLower || c.isDigit) && (2 ≤ rest.length && rest.length ≤ 127) &&
      rest.all fun d => d.isLower || d.isDigit || d == '.' || d == '_' || d == ':' || d == '-'

/-- A `ResearchObservationWrite`. -/
structure ResearchObservationWrite extends ResearchObservationRecord where
  id : Uuid
  researchStepId : Uuid
  invocationId : Option Uuid
  observationType : ObservationType
  status : ObservationStatus
  schemaVersion : String
  payload : Payload
  outputChecksum : String
  syntheticStatus : SyntheticStatus
  warnings : List String
  createdAt : Instant

/-- The arguments of `build`. -/
structure ObservationArguments where
  observationId : Uuid
  context : ControlledRunContext
  researchStepId : Uuid
  invocationId : Uuid
  observationType : ObservationType
  status : ObservationStatus
  schemaVersion : String
  payload : List (Key × Object)
  syntheticStatus : SyntheticStatus
  warnings : List String
  createdAt : Instant

/-- What `build` raises: a `ResearchObservationError`, or what the encoder raises beside `TypeError`
and `ValueError`. -/
inductive ObservationFailure where
  | rejected (code : String)
  | raised (error : CanonicalError)
deriving DecidableEq, Repr

def invalidOutput : ObservationFailure := .rejected "INVALID_OBSERVATION_OUTPUT"

/-- `canonical_json(payload)`, with its errors as the builder reports them. -/
def serialize (payload : Object) : Except ObservationFailure (List Char) :=
  (canonicalJson payload).mapError fun
    | .overflowError => .raised .overflowError
    | _ => invalidOutput

/-- The largest size of a payload, in bytes. -/
def payloadLimit : Nat := 262144

section Builder

variable (hash : IdealHash) (toFloat : List Char → ℚ ⊕ Special)

def Payload.object (payload : Payload) : Object := ofJson toFloat (.obj payload)

/-- What the contract of an observation checks, `limit_payload` included. -/
def ResearchObservationWrite.accepted (o : ResearchObservationWrite) :
    Except ObservationFailure Unit := do
  check (¬ (isVersion o.schemaVersion = true ∧ o.warnings.length ≤ 100 ∧
    ∀ w ∈ o.warnings, isCode w = true)) invalidOutput
  let text ← serialize (o.payload.object toFloat)
  check (payloadLimit < Date.byteLength text) invalidOutput

/-- `ResearchObservationBuilder.build` -/
def build (arguments : ObservationArguments) : Except ObservationFailure ResearchObservationWrite := do
  check (arguments.observationType = .toolError ∧ arguments.status ≠ .fail)
    (.rejected "INVALID_TOOL_ERROR_OBSERVATION")
  check (arguments.observationType = .blockedCapability ∧ (arguments.status ≠ .blocked ∨
      .str "capability_code" ∉ arguments.payload.map Prod.fst))
    (.rejected "INVALID_BLOCKED_OBSERVATION")
  let serialized ← serialize (.mapping arguments.payload)
  check (payloadLimit < Date.byteLength serialized) (.rejected "OBSERVATION_OUTPUT_TOO_LARGE")
  match loads serialized with
  | some (.obj normalized) => do
      let observation : ResearchObservationWrite :=
        { id := arguments.observationId
          runId := arguments.context.researchAgentRunId
          researchStepId := arguments.researchStepId
          invocationId := some arguments.invocationId
          observationType := arguments.observationType
          status := arguments.status
          schemaVersion := arguments.schemaVersion
          payload := normalized
          -- `stable_checksum(payload)` encodes the payload a second time.
          outputChecksum := hash.digest serialized
          securityId := arguments.context.securityId
          snapshotId := arguments.context.snapshotId
          researchAsOfTime := arguments.context.researchAsOfTime
          syntheticStatus := arguments.syntheticStatus
          warnings := arguments.warnings
          createdAt := arguments.createdAt }
      observation.accepted toFloat
      return observation
  | _ => .error invalidOutput

def observationSource (observation : ResearchObservationWrite) (payload : Payload) :
    Except CanonicalError EvidenceSource := do
  let expectedChecksum ← stableChecksum hash (observation.payload.object toFloat)
  return {
    checksum := observation.outputChecksum
    expectedChecksum := expectedChecksum
    found := true
    securityId := observation.securityId
    snapshotId := observation.snapshotId
    publishedAt := none
    citationId := none
    citationValid := none
    calculationRunId := none
    calculationInputIds := []
    formulaVersion := none
    metricLineageValid := none
    payload := payload }

end Builder

/-! ## Stored payloads -/

variable {hash : IdealHash} {toFloat : List Char → ℚ ⊕ Special}

/-- What the text of an accepted object reads as, and what of it comes back from a store. -/
lemma loads_canonicalJson {value : Object} {text : List Char} (h : canonicalJson value = .ok text) :
    ∃ loaded, loads text = some loaded ∧ ∀ stored, Alike Eq loaded stored →
      canonicalJson (ofJson toFloat stored) = .ok text := by
  obtain ⟨a, ha, rfl⟩ := map_ok.mp h
  have hplain := plain_normalize value ha
  have hsorted := plain_sortKeys a hplain
  refine ⟨sortKeys a, loads_canonicalText hplain, ?_⟩
  intro stored halike
  have hstored : sortKeys (sortKeys a) = sortKeys stored := (sortKeys_eq_iff hsorted).mpr halike
  rw [canonicalJson, normalize_ofJson toFloat stored (plain_of_alike halike hsorted)]
  refine congrArg Except.ok ?_
  rw [canonicalText, canonicalText, ← hstored, sortKeys_sortKeys]

/-- What was written, read and written again is the same text. -/
theorem canonicalJson_again {value : Object} {text : List Char} (h : canonicalJson value = .ok text) :
    ∃ loaded, loads text = some loaded ∧ canonicalJson (ofJson toFloat loaded) = .ok text := by
  obtain ⟨loaded, hloaded, hstored⟩ := @loads_canonicalJson toFloat value text h
  obtain ⟨a, ha, rfl⟩ := map_ok.mp h
  refine ⟨loaded, hloaded, hstored loaded ?_⟩
  rw [loads_canonicalText (plain_normalize value ha)] at hloaded
  obtain rfl := Option.some.inj hloaded
  exact (sortKeys_eq_iff (plain_sortKeys a (plain_normalize value ha))).mp rfl

/-- The insertion order of keys plays no part. -/
theorem canonicalJson_reordered {value other : Object} {text : List Char}
    (h : canonicalJson value = .ok text) (hother : Reordered value other) :
    canonicalJson other = .ok text := by
  obtain ⟨a, ha, rfl⟩ := map_ok.mp h
  obtain ⟨b, hb, halike⟩ := normalize_reordered hother ha
  rw [canonicalJson, hb]
  refine congrArg Except.ok ?_
  rw [canonicalText, canonicalText, (sortKeys_eq_iff (plain_normalize value ha)).mpr halike]

/-- What was built holds the payload as it is read back, and the checksum of what was handed over. -/
lemma build_ok {arguments : ObservationArguments} {o : ResearchObservationWrite}
    (h : build hash toFloat arguments = .ok o) : ∃ text,
      canonicalJson (.mapping arguments.payload) = .ok text ∧ loads text = some (.obj o.payload) ∧
        o.outputChecksum = hash.digest text := by
  obtain ⟨-, h⟩ := check_bind_ok.mp h
  obtain ⟨-, h⟩ := check_bind_ok.mp h
  obtain ⟨text, htext, h⟩ := bind_ok.mp h
  obtain ⟨-, h⟩ := check_bind_ok.mp h
  refine ⟨text, ?_, ?_⟩
  · cases hcanonical : canonicalJson (.mapping arguments.payload) with
    | ok t =>
        rw [serialize, hcanonical] at htext
        cases htext
        rfl
    | error e =>
        rw [serialize, hcanonical] at htext
        cases htext
  · split at h
    · next normalized hloads =>
      obtain ⟨-, h⟩ := unit_bind_ok.mp h
      cases h
      exact ⟨hloads, rfl⟩
    · cases h

/-- **An encoded value can be read and encoded again, in any insertion order, and the checksum that
was recorded for a payload is the checksum of what the store returns.** -/
theorem canonical_json_stable (hash : IdealHash) (toFloat : List Char → ℚ ⊕ Special)
    (value : Object) (text : List Char) (h : canonicalJson value = .ok text) :
    (∃ loaded, loads text = some loaded ∧ canonicalJson (ofJson toFloat loaded) = .ok text ∧
      ∀ stored, Alike Eq loaded stored →
        stableChecksum hash (ofJson toFloat stored) = stableChecksum hash value) ∧
    (∀ other, Reordered value other → canonicalJson other = .ok text) ∧
    ∀ arguments o, .mapping arguments.payload = value → build hash toFloat arguments = .ok o →
      ∀ stored : Payload, Alike Eq (.obj o.payload) (.obj stored) → ∀ payload, ∃ source,
        observationSource hash toFloat { o with payload := stored } payload = .ok source ∧
          source.checksum = source.expectedChecksum := by
  obtain ⟨loaded, hloaded, hstored⟩ := @loads_canonicalJson toFloat value text h
  refine ⟨⟨loaded, hloaded, ?_, ?_⟩, fun other => canonicalJson_reordered h, ?_⟩
  · obtain ⟨again, hagain, htext⟩ := @canonicalJson_again toFloat value text h
    rw [hloaded] at hagain
    obtain rfl := Option.some.inj hagain
    exact htext
  · intro stored halike
    rw [stableChecksum, stableChecksum, hstored stored halike, h]
  · rintro arguments o rfl hbuild stored halike payload
    obtain ⟨text', htext', hloads, hchecksum⟩ := build_ok hbuild
    rw [h] at htext'
    obtain rfl := Except.ok.inj htext'
    rw [hloaded] at hloads
    obtain rfl := Option.some.inj hloads
    have hsum : stableChecksum hash (stored.object toFloat) = .ok o.outputChecksum := by
      rw [stableChecksum, Payload.object, hstored _ halike, hchecksum]
      rfl
    refine ⟨_, bind_ok.mpr ⟨_, hsum, rfl⟩, rfl⟩

/-- An output with keys out of order, an exact number, a time and a tuple. -/
def sampleOutput : Object :=
  .mapping [
    (.str "value", .decimal ⟨false, 150, -2⟩),
    (.str "as_of", .datetime ⟨yearEnd, some 0⟩),
    (.str "rows", .sequence .tuple [.bool true, .mapping [(.str "n", .int 1), (.str "id", .uuid 1)]])]

theorem sampleOutput_stable : ∃ text, canonicalJson sampleOutput = .ok text ∧
    ∃ loaded, loads text = some loaded ∧
      canonicalJson (ofJson (fun _ => .inr .nan) loaded) = .ok text := by
  obtain ⟨a, ha⟩ : ∃ a, normalize sampleOutput = .ok a := exists_of_isOk (by decide +kernel)
  have htext : canonicalJson sampleOutput = .ok (canonicalText a) := map_ok.mpr ⟨a, ha, rfl⟩
  obtain ⟨⟨loaded, hloaded, hagain, -⟩, -⟩ :=
    canonical_json_stable default (fun _ => .inr .nan) sampleOutput _ htext
  exact ⟨_, htext, loaded, hloaded, hagain⟩

end StockResearch.ResearchAgent
