import StockResearch.Providers.FactBridges

/-!
# What the two bridges guarantee

A call should raise a `ValueError` before the first write, or write one row a record: with the
numbers that the record states, from a manifest and a batch that agree, and without a time later
than the research time.

**Orderly computations.**  `Orderly` says that nothing but a `ValueError` is raised.  All checks and
all readings are orderly.  Two steps are not: the comparison of a filing time without an offset, and
the conversion to UTC of a moment outside of the years 1 to 9999.

* **`stage_sound_iff`**: both bridges do what they should exactly if no record that is reached takes
  one of these steps, and, when everything is accepted, the time that the bridge does not compare is
  not later than the research time.
* `zoneless_filing_crashes`: a filing time without an offset.
-/

namespace StockResearch.Providers

open PyText PyTime PyDecimal Checked

/-! ## Orderly computations -/

section Orderly

variable {α β : Type}

/-- Nothing but a `ValueError` is raised. -/
def Orderly (x : Except BridgeRaised α) : Prop := ∀ e, x = .error e → e.IsValueError

lemma orderly_ok (a : α) : Orderly (.ok a) := by
  intro e h
  cases h

lemma orderly_error {e : BridgeRaised} : Orderly (α := α) (.error e) ↔ e.IsValueError := by
  constructor
  · intro h
    exact h e rfl
  · rintro he _ ⟨⟩
    exact he

lemma orderly_check {p : Prop} [Decidable p] {code : String} :
    Orderly (check p (.value code)) := by
  intro e he
  obtain ⟨-, rfl⟩ := check_error.mp he
  trivial

lemma orderly_invalid {p : Prop} [Decidable p] {schema : String} :
    Orderly (check p (.validation schema)) := by
  intro e he
  obtain ⟨-, rfl⟩ := check_error.mp he
  trivial

lemma orderly_require {x : Option α} {code : String} : Orderly (require x (.value code)) := by
  cases x with
  | none => exact orderly_error.mpr trivial
  | some a => exact orderly_ok a

/-- After an orderly step it is the rest that counts. -/
lemma Orderly.bind_iff {x : Except BridgeRaised α} {f : α → Except BridgeRaised β}
    (hx : Orderly x) : Orderly (x >>= f) ↔ ∀ a, x = .ok a → Orderly (f a) := by
  constructor
  · intro h a ha e he
    exact h e (bind_error.mpr (Or.inr ⟨a, ha, he⟩))
  · intro h e he
    rcases bind_error.mp he with hxe | ⟨a, ha, hfe⟩
    · exact hx e hxe
    · exact h a ha e hfe

lemma Orderly.bind {x : Except BridgeRaised α} {f : α → Except BridgeRaised β} (hx : Orderly x)
    (hf : ∀ a, Orderly (f a)) : Orderly (x >>= f) :=
  hx.bind_iff.mpr fun a _ => hf a

lemma Orderly.map {x : Except BridgeRaised α} {f : α → β} (hx : Orderly x) :
    Orderly (x.map f) := by
  cases x with
  | error e => exact orderly_error.mpr (orderly_error.mp hx)
  | ok a => exact orderly_ok _

lemma orderly_readOptional {read : String → Except BridgeRaised α} (h : ∀ text, Orderly (read text))
    (value : Option String) : Orderly (readOptional read value) := by
  cases value with
  | none => exact orderly_ok _
  | some text => exact (h text).map

/-- A loop is orderly if the first round that does not return is. -/
lemma orderly_mapM {f : α → Except BridgeRaised β} {xs : List α} :
    Orderly (xs.mapM f) ↔ ∀ before x after, xs = before ++ x :: after →
      (∀ y ∈ before, ∃ b, f y = .ok b) → Orderly (f x) := by
  constructor
  · intro h before x after hsplit hbefore e he
    exact h e (mapM_error_iff.mpr ⟨before, x, after, hsplit, hbefore, he⟩)
  · intro h e he
    obtain ⟨before, x, after, hsplit, hbefore, hx⟩ := mapM_error_iff.mp he
    exact h before x after hsplit hbefore e hx

end Orderly

section Steps

variable {code : String} {library : FactLibrary}

lemma orderly_checkCall {approved : Bool} {retrievedAt researchAsOfTime : Instant}
    {manifest : ProviderIngestionManifestRecord} {batch : ProviderBatch} :
    Orderly (checkCall code approved retrievedAt researchAsOfTime manifest batch) := by
  unfold checkCall
  refine orderly_check.bind fun _ => orderly_check.bind fun _ => ?_
  exact orderly_check.bind fun _ => orderly_check

lemma orderly_checkSource {manifest : ProviderIngestionManifestRecord}
    {sourcePayloadChecksum : String} {researchAsOfTime : Instant} {record : ProviderRecord} :
    Orderly (checkSource code manifest sourcePayloadChecksum researchAsOfTime record) := by
  unfold checkSource
  refine orderly_check.bind fun _ => orderly_check.bind fun _ => ?_
  exact orderly_check.bind fun _ => orderly_check

lemma orderly_decimalValue {value : Option String} : Orderly (decimalValue code library value) :=
  orderly_readOptional (fun _ => orderly_require) value

lemma orderly_datetimeValue {value : Option String} : Orderly (datetimeValue code value) :=
  orderly_readOptional (fun _ => orderly_require) value

lemma orderly_asciiInt {field : String} {value : Option String} :
    Orderly (asciiInt code field value) := by
  refine orderly_readOptional (fun text => ?_) value
  refine orderly_check.bind fun _ => orderly_check.bind fun _ => ?_
  exact orderly_ok _

lemma orderly_required {field : String} {value : Option String} :
    Orderly (required code field value) := by
  unfold required
  refine orderly_require.bind fun _ => orderly_check.bind fun _ => ?_
  exact orderly_ok _

/-- The conversion to UTC is orderly unless the moment is outside of the years of UTC. -/
lemma orderly_normalizeOptionalUtc (schema : String) {value : Option DateTime} :
    Orderly (normalizeOptionalUtc schema value) ↔
      ∀ d ∈ value, ∀ offset ∈ d.offset, d.utc offset ≠ none := by
  cases value with
  | none =>
      simp only [normalizeOptionalUtc]
      simpa using orderly_ok _
  | some d =>
      cases hoffset : d.offset with
      | none =>
          have herror : (BridgeRaised.validation schema).IsValueError := trivial
          simp only [normalizeOptionalUtc, hoffset]
          simpa [hoffset] using orderly_error.mpr herror
      | some offset =>
          simp only [normalizeOptionalUtc, hoffset]
          cases hutc : d.utc offset with
          | none => simp [require, Except.map, orderly_error, BridgeRaised.IsValueError, hoffset, hutc]
          | some t =>
              simp only [require, Except.map]
              simpa [hoffset, hutc] using orderly_ok _

end Steps

/-! ## What is read -/

/-- A value that is stated by a text, and by none if there is none. -/
def Reads (digit : Char → Option Nat) (stated : Option String) (number : Option ℚ) : Prop :=
  match stated, number with
  | none, none => True
  | some text, some q => ∃ t, readNumber digit text.toList = some t ∧ t.value = q
  | _, _ => False

section Readings

variable {code : String} {library : FactLibrary}

lemma readOptional_ok {α : Type} {read : String → Except BridgeRaised α} {value : Option String}
    {r : Option α} (h : readOptional read value = .ok r) :
    value = none ∧ r = none ∨ ∃ text a, value = some text ∧ r = some a ∧ read text = .ok a := by
  cases value with
  | none =>
      cases h
      exact Or.inl ⟨rfl, rfl⟩
  | some text =>
      obtain ⟨a, ha, rfl⟩ := map_ok.mp h
      exact Or.inr ⟨text, a, rfl, rfl, ha⟩

/-- **A decimal is the number that its text states.** -/
lemma reads_decimalValue {stated : Option String} {d : Option Decimal}
    (h : decimalValue code library stated = .ok d) :
    Reads library.decimalDigit stated (d.map Decimal.toRat) := by
  rcases readOptional_ok h with ⟨rfl, rfl⟩ | ⟨text, d, rfl, rfl, hread⟩
  · trivial
  · obtain ⟨t, ht, hvalue⟩ := finiteDecimal_ok (require_ok.mp hread)
    exact ⟨t, ht, hvalue.symm⟩

/-- **A volume is the number that its text states.** -/
lemma reads_asciiInt {field : String} {stated : Option String} {n : Option Nat}
    (h : asciiInt code field stated = .ok n) :
    Reads library.decimalDigit stated (n.map fun n => (n : ℚ)) := by
  rcases readOptional_ok h with ⟨rfl, rfl⟩ | ⟨text, n, rfl, rfl, hread⟩
  · trivial
  · obtain ⟨hdigits, hread⟩ := check_bind_ok.mp hread
    obtain ⟨-, hread⟩ := check_bind_ok.mp hread
    cases hread
    rw [not_not] at hdigits
    exact readNumber_digits library.asciiDigit hdigits.1 hdigits.2

lemma datetimeValue_ok {value : Option String} {d : Option DateTime} :
    datetimeValue code value = .ok d ↔
      d = value.bind readTime ∧ ∀ text ∈ value, readTime text ≠ none := by
  cases value with
  | none => simp [datetimeValue, readOptional, eq_comm]
  | some text =>
      cases hread : readTime text with
      | none => simp [datetimeValue, readOptional, hread, require, Except.map]
      | some t => simp [datetimeValue, readOptional, hread, require, Except.map, eq_comm]

/-- A time that was converted to UTC is the same moment. -/
lemma normalizeOptionalUtc_ok {schema : String} {value : Option DateTime} {r : Option Instant}
    (h : normalizeOptionalUtc schema value = .ok r) :
    (∀ d ∈ value, d.offset ≠ none) ∧
      r.map Instant.microseconds = value.bind DateTime.microseconds := by
  cases value with
  | none =>
      cases h
      exact ⟨by simp, rfl⟩
  | some d =>
      unfold normalizeOptionalUtc at h
      cases hoffset : d.offset with
      | none => simp [hoffset] at h
      | some offset =>
          simp only [hoffset] at h
          obtain ⟨t, ht, rfl⟩ := map_ok.mp h
          have hmoment := DateTime.microseconds_utc (require_ok.mp ht)
          refine ⟨by simp [hoffset], ?_⟩
          simp [DateTime.microseconds, hoffset, hmoment]

end Readings

/-! ## What a call should do -/

/-- The manifest and the batch agree, and the records come from the payload of the call. -/
structure Agrees (library : FactLibrary) (manifest : ProviderIngestionManifestRecord)
    (sourcePayloadChecksum : String) (batch : ProviderBatch) : Prop where
  manifestChecksum : manifest.manifestChecksum = batch.manifestChecksum
  batchChecksum : manifest.batchChecksum = library.batchChecksum batch.records
  recordCount : manifest.recordCount = batch.records.length
  rawArtifact : ∀ record ∈ batch.records, record.rawArtifactId = manifest.rawArtifactId
  sourceChecksum : ∀ record ∈ batch.records, record.sourceChecksum = sourcePayloadChecksum
  syntheticStatus : ∀ record ∈ batch.records, record.syntheticStatus = manifest.syntheticStatus
  real : ¬ notReal manifest.syntheticStatus

/-- No publication is later than the research time. -/
def Published (researchAsOfTime : Instant) (manifest : ProviderIngestionManifestRecord)
    (batch : ProviderBatch) : Prop :=
  ¬ laterThan researchAsOfTime manifest.sourcePublishedAt ∧
    ∀ record ∈ batch.records, ¬ laterThan researchAsOfTime record.sourcePublishedAt

/-- A stated time can be read, has an offset and is not later than the research time. -/
def Timely (researchAsOfTime : Instant) (stated : Option String) : Prop :=
  ∀ text ∈ stated, ∃ d, readTime text = some d ∧ d.offset ≠ none ∧ ¬ d.later researchAsOfTime

section Sound

variable {Row Result : Type}

/-- A `ValueError` before the first write, or one row a record under the given law. -/
def Sound (Faithful : ProviderRecord → Row → Prop) (Law : Prop) (records : List ProviderRecord)
    (repository : List Row) : Except BridgeRaised Result × List Row → Prop
  | (.error e, repository') => e.IsValueError ∧ repository' = repository
  | (.ok _, repository') =>
      (∃ rows, repository' = repository ++ rows ∧ List.Forall₂ Faithful records rows) ∧ Law

lemma foldl_write (repository staged : List Row) :
    staged.foldl (fun rows row => rows ++ [row]) repository = repository ++ staged := by
  induction staged generalizing repository with
  | nil => exact (List.append_nil repository).symm
  | cons row staged ih => rw [List.foldl_cons, ih, List.append_assoc, List.singleton_append]

lemma sound_outcome_iff {Faithful : ProviderRecord → Row → Prop} {Law : Prop}
    {records : List ProviderRecord} {repository : List Row}
    {plan : Except BridgeRaised (List Row)} {result : List Row → Result} :
    Sound Faithful Law records repository (outcome plan result repository) ↔
      Orderly plan ∧ ∀ rows, plan = .ok rows → List.Forall₂ Faithful records rows ∧ Law := by
  cases plan with
  | error e => simp [outcome, Sound, orderly_error]
  | ok staged =>
      simp only [outcome, Sound, foldl_write, List.append_cancel_left_eq, Except.ok.injEq]
      constructor
      · rintro ⟨⟨rows, rfl, hrows⟩, hlaw⟩
        refine ⟨orderly_ok _, ?_⟩
        rintro _ rfl
        exact ⟨hrows, hlaw⟩
      · rintro ⟨-, h⟩
        obtain ⟨hrows, hlaw⟩ := h staged rfl
        exact ⟨⟨staged, rfl, hrows⟩, hlaw⟩

/-- The condition under which a call does what it should: no record that is reached crashes, and
what is not compared is not later when everything is accepted. -/
def Holds (library : FactLibrary) (manifest : ProviderIngestionManifestRecord)
    (batch : ProviderBatch) (gates : Except BridgeRaised Unit)
    (convert : ProviderRecord → Except BridgeRaised Row) (Crashes : ProviderRecord → Prop)
    (Uncompared : Prop) : Prop :=
  gates = .ok () →
    (∀ before record after, batch.records = before ++ record :: after →
      (∀ r ∈ before, ∃ row, convert r = .ok row) → ¬ Crashes record) ∧
    ((∀ r ∈ batch.records, ∃ row, convert r = .ok row) →
      manifest.batchChecksum = library.batchChecksum batch.records → Uncompared)

/-- What both bridges have in common. -/
lemma sound_planRows_iff {Faithful : ProviderRecord → Row → Prop} {Law Uncompared : Prop}
    {code : String} {library : FactLibrary} {manifest : ProviderIngestionManifestRecord}
    {batch : ProviderBatch} {gates : Except BridgeRaised Unit}
    {convert : ProviderRecord → Except BridgeRaised Row} {Crashes : ProviderRecord → Prop}
    {result : List Row → Result} {repository : List Row} (hgates : Orderly gates)
    (hcrash : ∀ record, Orderly (convert record) ↔ ¬ Crashes record)
    (hfaithful : ∀ record row, convert record = .ok row → Faithful record row)
    (hlaw : gates = .ok () → (∀ r ∈ batch.records, ∃ row, convert r = .ok row) →
      manifest.batchChecksum = library.batchChecksum batch.records → (Law ↔ Uncompared)) :
    Sound Faithful Law batch.records repository
        (outcome (planRows code library manifest batch gates convert) result repository) ↔
      Holds library manifest batch gates convert Crashes Uncompared := by
  have horderly : Orderly (planRows code library manifest batch gates convert) ↔
      (gates = .ok () → Orderly (batch.records.mapM convert)) := by
    unfold planRows
    rw [hgates.bind_iff]
    constructor
    · intro h hok e he
      exact h () hok e (bind_error.mpr (Or.inl he))
    · rintro h ⟨⟩ hok
      refine (h hok).bind fun _ => orderly_check.bind fun _ => ?_
      exact orderly_ok _
  have hok : ∀ rows, planRows code library manifest batch gates convert = .ok rows ↔
      gates = .ok () ∧ batch.records.mapM convert = .ok rows ∧
        manifest.batchChecksum = library.batchChecksum batch.records := by
    intro rows
    unfold planRows
    rw [unit_bind_ok, bind_ok]
    constructor
    · rintro ⟨hg, staged, hstaged, h⟩
      obtain ⟨hsum, hrows⟩ := check_bind_ok.mp h
      cases hrows
      exact ⟨hg, hstaged, not_not.mp hsum⟩
    · rintro ⟨hg, hstaged, hsum⟩
      exact ⟨hg, rows, hstaged, check_bind_ok.mpr ⟨not_not.mpr hsum, rfl⟩⟩
  rw [sound_outcome_iff, horderly]
  simp only [orderly_mapM, hcrash, hok]
  constructor
  · rintro ⟨hno, hall⟩ hg
    refine ⟨hno hg, ?_⟩
    intro hconvert hsum
    obtain ⟨rows, hrows⟩ := exists_mapM_ok.mpr hconvert
    exact (hlaw hg hconvert hsum).mp (hall rows ⟨hg, hrows, hsum⟩).2
  · intro h
    refine ⟨fun hg => (h hg).1, ?_⟩
    rintro rows ⟨hg, hrows, hsum⟩
    have hconvert := exists_mapM_ok.mp ⟨rows, hrows⟩
    exact ⟨forall₂_mapM hfaithful hrows, (hlaw hg hconvert hsum).mpr ((h hg).2 hconvert hsum)⟩

end Sound

section Gates

variable {code : String} {manifest : ProviderIngestionManifestRecord} {batch : ProviderBatch}

lemma checkCall_ok {approved : Bool} {retrievedAt researchAsOfTime : Instant}
    (h : checkCall code approved retrievedAt researchAsOfTime manifest batch = .ok ()) :
    manifest.manifestChecksum = batch.manifestChecksum ∧
      manifest.recordCount = batch.records.length := by
  obtain ⟨-, h⟩ := check_bind_ok.mp h
  obtain ⟨-, h⟩ := check_bind_ok.mp h
  obtain ⟨hmanifest, h⟩ := check_bind_ok.mp h
  exact ⟨not_not.mp hmanifest, not_not.mp (check_ok.mp h)⟩

lemma checkSource_ok {sourcePayloadChecksum : String} {researchAsOfTime : Instant}
    {record : ProviderRecord}
    (h : checkSource code manifest sourcePayloadChecksum researchAsOfTime record = .ok ()) :
    record.rawArtifactId = manifest.rawArtifactId ∧ record.sourceChecksum = sourcePayloadChecksum ∧
      record.syntheticStatus = manifest.syntheticStatus ∧
      ¬ laterThan researchAsOfTime record.sourcePublishedAt := by
  obtain ⟨hartifact, h⟩ := check_bind_ok.mp h
  obtain ⟨hchecksum, h⟩ := check_bind_ok.mp h
  obtain ⟨hstatus, h⟩ := check_bind_ok.mp h
  exact ⟨not_not.mp hartifact, not_not.mp hchecksum, not_not.mp hstatus, check_ok.mp h⟩

/-- What the shared checks establish when everything is accepted. -/
lemma agrees_of_checks {library : FactLibrary} {sourcePayloadChecksum : String}
    {approved : Bool} {retrievedAt researchAsOfTime : Instant}
    (hcall : checkCall code approved retrievedAt researchAsOfTime manifest batch = .ok ())
    (hreal : checkReal code manifest = .ok ())
    (hsource : ∀ record ∈ batch.records,
      checkSource code manifest sourcePayloadChecksum researchAsOfTime record = .ok ())
    (hsum : manifest.batchChecksum = library.batchChecksum batch.records) :
    Agrees library manifest sourcePayloadChecksum batch where
  manifestChecksum := (checkCall_ok hcall).1
  batchChecksum := hsum
  recordCount := (checkCall_ok hcall).2
  rawArtifact record hrecord := (checkSource_ok (hsource record hrecord)).1
  sourceChecksum record hrecord := (checkSource_ok (hsource record hrecord)).2.1
  syntheticStatus record hrecord := (checkSource_ok (hsource record hrecord)).2.2.1
  real := check_ok.mp hreal

end Gates

/-! ## Financial facts -/

namespace FinancialFactProviderBridge

variable (library : FactLibrary) (manifest : ProviderIngestionManifestRecord)
  (context : FinancialFactBridgeContext)

/-- The filing time that a record states. -/
def statedFiling (record : ProviderRecord) : Option DateTime := (record.text "filed_at").bind readTime

/-- A fact has the value and the filing time that its record states. -/
def Faithful (record : ProviderRecord) (fact : ProviderFinancialFactWrite) : Prop :=
  Reads library.decimalDigit (record.number "value") (fact.value.map Decimal.toRat) ∧
    fact.filedAt.map Instant.microseconds = (statedFiling record).bind DateTime.microseconds

/-- The checks before the filing time pass, and the time has no offset, or it is not later than the
research time, everything else can be read, and it is outside of the years of UTC. -/
def Crashes (record : ProviderRecord) : Prop :=
  checkRecord manifest context record = .ok () ∧ ∃ d, statedFiling record = some d ∧
    (d.offset = none ∨ ∃ offset, d.offset = some offset ∧ ¬ d.later context.researchAsOfTime ∧
      (∃ fact, readFact library context record = .ok fact) ∧ d.utc offset = none)

/-- What holds when a batch is accepted. -/
structure Law (batch : ProviderBatch) : Prop where
  agrees : Agrees library manifest context.sourcePayloadChecksum batch
  published : Published context.researchAsOfTime manifest batch
  filed : ∀ record ∈ batch.records, Timely context.researchAsOfTime (record.text "filed_at")

variable {library manifest context}

lemma orderly_gates {batch : ProviderBatch} : Orderly (gates manifest context batch) := by
  unfold gates
  exact orderly_checkCall.bind fun _ => orderly_check

lemma orderly_checkRecord {record : ProviderRecord} :
    Orderly (checkRecord manifest context record) := by
  unfold checkRecord
  refine orderly_checkSource.bind fun _ => orderly_check.bind fun _ => ?_
  exact orderly_check

lemma orderly_readFact {record : ProviderRecord} : Orderly (readFact library context record) := by
  have huuid : ∀ value, Orderly (optionalUuid library value) := fun value =>
    orderly_readOptional (fun _ => orderly_require) value
  have hstatement : ∀ value, Orderly (statement value) := by
    intro value
    unfold statement
    refine orderly_require.bind fun _ => orderly_check.bind fun _ => ?_
    exact orderly_ok _
  have hdate : ∀ value, Orderly (dateValue value) := fun value =>
    orderly_readOptional (fun _ => orderly_require) value
  have hboolean : ∀ value, Orderly (booleanValue value) := by
    refine orderly_readOptional fun text => ?_
    split_ifs
    · exact orderly_ok _
    · exact orderly_ok _
    · exact orderly_error.mpr trivial
  unfold readFact
  refine (huuid _).bind fun _ => (hstatement _).bind fun _ => orderly_required.bind fun _ => ?_
  refine orderly_decimalValue.bind fun _ => orderly_asciiInt.bind fun _ => ?_
  refine orderly_asciiInt.bind fun _ => (hdate _).bind fun _ => (hdate _).bind fun _ => ?_
  refine (hdate _).bind fun _ => (hboolean _).bind fun _ => (hboolean _).bind fun _ => ?_
  exact (hboolean _).bind fun _ => (hboolean _).bind fun _ => orderly_ok _

lemma orderly_create {fact : ProviderFinancialFactWrite} {filedAt : Option DateTime} :
    Orderly (fact.create filedAt) ↔ ∀ d ∈ filedAt, ∀ offset ∈ d.offset, d.utc offset ≠ none := by
  rw [← orderly_normalizeOptionalUtc "ProviderFinancialFactWrite"]
  constructor
  · intro h e he
    exact h e (bind_error.mpr (Or.inl he))
  · intro h
    exact h.bind fun _ => orderly_invalid.bind fun _ => orderly_ok _

/-- **A turn of the loop raises something else than a `ValueError` exactly if it crashes.** -/
lemma orderly_toFact_iff {record : ProviderRecord} :
    Orderly (toFact library manifest context record) ↔
      ¬ Crashes library manifest context record := by
  unfold toFact
  rw [orderly_checkRecord.bind_iff]
  simp only [orderly_datetimeValue.bind_iff]
  unfold Crashes
  constructor
  · rintro h ⟨hchecks, d, hd, hcrash⟩
    have hread : datetimeValue "FINANCIAL_FACT" (record.text "filed_at") = .ok (some d) := by
      obtain ⟨text, htext, hread⟩ := Option.bind_eq_some_iff.mp hd
      exact datetimeValue_ok.mpr ⟨hd.symm, by simp [htext, hread]⟩
    have hrest := h () hchecks (some d) hread
    rcases hcrash with hnone | ⟨offset, hoffset, hnot, ⟨fact, hfact⟩, hutc⟩
    · refine hrest .type (bind_error.mpr (Or.inl ?_))
      exact check_bind_error.mpr (Or.inl ⟨hnone, rfl⟩)
    · have hfiled : checkFiledAt context (some d) = .ok () :=
        check_bind_ok.mpr ⟨by simp [hoffset], check_ok.mpr hnot⟩
      rw [hfiled, ok_bind, hfact, ok_bind, orderly_create] at hrest
      exact hrest d rfl offset hoffset hutc
  · rintro hno ⟨⟩ hchecks filedAt hread
    obtain ⟨rfl, -⟩ := datetimeValue_ok.mp hread
    cases hd : statedFiling record with
    | none =>
        change Orderly (checkFiledAt context (statedFiling record) >>= _)
        rw [hd]
        refine orderly_readFact.bind fun fact => orderly_create.mpr ?_
        intro d hd'
        cases hd.symm.trans hd'
    | some d =>
        change Orderly (checkFiledAt context (statedFiling record) >>= _)
        rw [hd]
        have hoffset : d.offset ≠ none := fun hnone => hno ⟨hchecks, d, hd, Or.inl hnone⟩
        obtain ⟨offset, hoffset⟩ := Option.ne_none_iff_exists'.mp hoffset
        have hfiled : Orderly (checkFiledAt context (some d)) := by
          intro e he
          rcases check_bind_error.mp he with ⟨hnone, -⟩ | ⟨-, hlater⟩
          · cases hoffset.symm.trans hnone
          · obtain ⟨-, rfl⟩ := check_error.mp hlater
            trivial
        refine hfiled.bind_iff.mpr ?_
        rintro ⟨⟩ hok
        have hnot := check_ok.mp (check_bind_ok.mp hok).2
        refine orderly_readFact.bind_iff.mpr fun fact hfact => orderly_create.mpr ?_
        intro d' hd' offset' hoffset' hutc
        obtain rfl : d = d' := Option.some.inj (hd.symm.trans hd')
        exact hno ⟨hchecks, d, hd, Or.inr ⟨offset', hoffset', hnot, ⟨fact, hfact⟩, hutc⟩⟩

/-- What a record went through that was converted. -/
lemma toFact_ok {record : ProviderRecord} {fact : ProviderFinancialFactWrite}
    (h : toFact library manifest context record = .ok fact) :
    checkRecord manifest context record = .ok () ∧
      Timely context.researchAsOfTime (record.text "filed_at") ∧
      Faithful library record fact := by
  obtain ⟨hchecks, h⟩ := unit_bind_ok.mp h
  obtain ⟨filedAt, hfiledAt, h⟩ := bind_ok.mp h
  obtain ⟨hcompared, h⟩ := unit_bind_ok.mp h
  obtain ⟨row, hrow, h⟩ := bind_ok.mp h
  obtain ⟨filed, hfiled, h⟩ := bind_ok.mp h
  obtain ⟨-, h⟩ := check_bind_ok.mp h
  cases h
  obtain ⟨rfl, hread⟩ := datetimeValue_ok.mp hfiledAt
  obtain ⟨hoffset, hmoment⟩ := normalizeOptionalUtc_ok hfiled
  refine ⟨hchecks, ?_, ?_, hmoment⟩
  · intro text htext
    obtain ⟨d, hd⟩ := Option.ne_none_iff_exists'.mp (hread text htext)
    have hstated : (record.text "filed_at").bind readTime = some d := by
      rw [Option.mem_def.mp htext]
      exact hd
    rw [hstated] at hcompared
    exact ⟨d, hd, hoffset d hstated, check_ok.mp (check_bind_ok.mp hcompared).2⟩
  · unfold readFact at hrow
    obtain ⟨_, -, hrow⟩ := bind_ok.mp hrow
    obtain ⟨_, -, hrow⟩ := bind_ok.mp hrow
    obtain ⟨_, -, hrow⟩ := bind_ok.mp hrow
    obtain ⟨value, hvalue, hrow⟩ := bind_ok.mp hrow
    obtain ⟨_, -, hrow⟩ := bind_ok.mp hrow
    obtain ⟨_, -, hrow⟩ := bind_ok.mp hrow
    obtain ⟨_, -, hrow⟩ := bind_ok.mp hrow
    obtain ⟨_, -, hrow⟩ := bind_ok.mp hrow
    obtain ⟨_, -, hrow⟩ := bind_ok.mp hrow
    obtain ⟨_, -, hrow⟩ := bind_ok.mp hrow
    obtain ⟨_, -, hrow⟩ := bind_ok.mp hrow
    obtain ⟨_, -, hrow⟩ := bind_ok.mp hrow
    obtain ⟨_, -, hrow⟩ := bind_ok.mp hrow
    cases hrow
    exact reads_decimalValue hvalue

/-- The financial-fact bridge does what it should exactly if no record crashes and the publication
of an accepted manifest is not later than the research time. -/
lemma sound_stage_iff {repository : List ProviderFinancialFactWrite} {batch : ProviderBatch} :
    Sound (Faithful library) (Law library manifest context batch) batch.records repository
        (stage library manifest context repository batch) ↔
      Holds library manifest batch (gates manifest context batch) (toFact library manifest context)
        (Crashes library manifest context)
        (¬ laterThan context.researchAsOfTime manifest.sourcePublishedAt) := by
  refine sound_planRows_iff orderly_gates (fun _ => orderly_toFact_iff)
    (fun _ _ h => (toFact_ok h).2.2) ?_
  intro hgates hconvert hsum
  have hsource : ∀ record ∈ batch.records, checkSource "FINANCIAL_FACT" manifest
      context.sourcePayloadChecksum context.researchAsOfTime record = .ok () := by
    intro record hrecord
    obtain ⟨fact, hfact⟩ := hconvert record hrecord
    exact (unit_bind_ok.mp (toFact_ok hfact).1).1
  obtain ⟨hcall, hreal⟩ := unit_bind_ok.mp hgates
  constructor
  · intro hlaw
    exact hlaw.published.1
  · intro hpublished
    refine ⟨agrees_of_checks hcall hreal hsource hsum, ⟨hpublished, ?_⟩, ?_⟩
    · intro record hrecord
      exact (checkSource_ok (hsource record hrecord)).2.2.2
    · intro record hrecord
      obtain ⟨fact, hfact⟩ := hconvert record hrecord
      exact (toFact_ok hfact).2.1

end FinancialFactProviderBridge

/-! ## Market data -/

namespace MarketDataProviderBridge

variable (library : FactLibrary) (manifest : ProviderIngestionManifestRecord)
  (context : MarketDataBridgeContext)

/-- The market timestamp that a record states. -/
def statedTimestamp (record : ProviderRecord) : Option DateTime :=
  (record.text "market_timestamp").bind readTime

/-- A bar has the prices, the volume and the timestamp that its record states. -/
structure Faithful (record : ProviderRecord) (bar : DailyPriceBarWrite) : Prop where
  «open» : Reads library.decimalDigit (record.number "open") (bar.open.map Decimal.toRat)
  high : Reads library.decimalDigit (record.number "high") (bar.high.map Decimal.toRat)
  low : Reads library.decimalDigit (record.number "low") (bar.low.map Decimal.toRat)
  close : Reads library.decimalDigit (record.number "close") (bar.close.map Decimal.toRat)
  volume : Reads library.decimalDigit (record.number "volume") (bar.volume.map fun n => (n : ℚ))
  providerAdjustedClose : Reads library.decimalDigit (record.number "provider_adjusted_close")
    (bar.providerAdjustedClose.map Decimal.toRat)
  marketTimestamp : bar.marketTimestamp.map Instant.microseconds =
    (statedTimestamp record).bind DateTime.microseconds

/-- The checks of a record pass, everything can be read, and the market timestamp is outside of the
years of UTC. -/
def Crashes (record : ProviderRecord) : Prop :=
  ∃ tradingDate currencyCode bar marketTimestamp,
    checkRecord library manifest context record = .ok (tradingDate, currencyCode) ∧
    readBar library context tradingDate currencyCode record = .ok (bar, marketTimestamp) ∧
    ∃ d ∈ statedTimestamp record, ∃ offset ∈ d.offset, d.utc offset = none

/-- The trading date of a record can be read and is not later than the research time. -/
def TradedBy (record : ProviderRecord) : Prop :=
  ∃ text d, record.text "trading_date" = some text ∧ Date.fromIsoformat text = some d ∧
    ¬ context.researchAsOfTime.date < d

/-- What holds when a batch is accepted. -/
structure Law (batch : ProviderBatch) : Prop where
  agrees : Agrees library manifest context.sourcePayloadChecksum batch
  published : Published context.researchAsOfTime manifest batch
  traded : ∀ record ∈ batch.records, TradedBy context record
  stamped : ∀ record ∈ batch.records,
    Timely context.researchAsOfTime (record.text "market_timestamp")

variable {library manifest context}

lemma orderly_gates {batch : ProviderBatch} : Orderly (gates manifest context batch) := by
  unfold gates
  exact orderly_checkCall.bind fun _ => orderly_check.bind fun _ => orderly_check

lemma orderly_checkRecord {record : ProviderRecord} :
    Orderly (checkRecord library manifest context record) := by
  have huuid : ∀ value, Orderly (uuidValue library value) := fun value =>
    orderly_required.bind fun _ => orderly_require
  have hdate : ∀ value, Orderly (dateValue value) := fun value =>
    orderly_required.bind fun _ => orderly_require
  unfold checkRecord
  refine orderly_checkSource.bind fun _ => (huuid _).bind fun _ => orderly_check.bind fun _ => ?_
  refine (hdate _).bind fun _ => orderly_check.bind fun _ => orderly_required.bind fun _ => ?_
  exact orderly_check.bind fun _ => orderly_ok _

lemma orderly_readBar {tradingDate : Date} {currencyCode : String} {record : ProviderRecord} :
    Orderly (readBar library context tradingDate currencyCode record) := by
  have hadjustment : ∀ value, Orderly (adjustmentValue value) :=
    orderly_readOptional fun _ => orderly_check.bind fun _ => orderly_ok _
  unfold readBar
  refine (hadjustment _).bind fun _ => orderly_required.bind fun _ => ?_
  refine orderly_datetimeValue.bind fun _ => orderly_decimalValue.bind fun _ => ?_
  refine orderly_decimalValue.bind fun _ => orderly_decimalValue.bind fun _ => ?_
  refine orderly_decimalValue.bind fun _ => orderly_asciiInt.bind fun _ => ?_
  exact orderly_decimalValue.bind fun _ => orderly_ok _

lemma orderly_create {bar : DailyPriceBarWrite} {marketTimestamp : Option DateTime} :
    Orderly (bar.create marketTimestamp) ↔
      ∀ d ∈ marketTimestamp, ∀ offset ∈ d.offset, d.utc offset ≠ none := by
  rw [← orderly_normalizeOptionalUtc "DailyPriceBarWrite"]
  constructor
  · intro h e he
    exact h e (bind_error.mpr (Or.inl he))
  · intro h
    exact h.bind fun _ => orderly_invalid.bind fun _ => orderly_ok _

/-- What the arguments of a row are read from. -/
lemma readBar_ok {tradingDate : Date} {currencyCode : String} {record : ProviderRecord}
    {bar : DailyPriceBarWrite} {marketTimestamp : Option DateTime}
    (h : readBar library context tradingDate currencyCode record = .ok (bar, marketTimestamp)) :
    marketTimestamp = statedTimestamp record ∧
      (∀ text ∈ record.text "market_timestamp", readTime text ≠ none) ∧
      ∀ stamp : Option Instant, stamp.map Instant.microseconds =
        (statedTimestamp record).bind DateTime.microseconds →
          Faithful library record { bar with marketTimestamp := stamp } := by
  obtain ⟨_, -, h⟩ := bind_ok.mp h
  obtain ⟨_, -, h⟩ := bind_ok.mp h
  obtain ⟨_, hstamp, h⟩ := bind_ok.mp h
  obtain ⟨_, hopen, h⟩ := bind_ok.mp h
  obtain ⟨_, hhigh, h⟩ := bind_ok.mp h
  obtain ⟨_, hlow, h⟩ := bind_ok.mp h
  obtain ⟨_, hclose, h⟩ := bind_ok.mp h
  obtain ⟨_, hvolume, h⟩ := bind_ok.mp h
  obtain ⟨_, hadjusted, h⟩ := bind_ok.mp h
  cases h
  obtain ⟨rfl, hread⟩ := datetimeValue_ok.mp hstamp
  refine ⟨rfl, hread, fun stamp hmoment => ?_⟩
  exact ⟨reads_decimalValue hopen, reads_decimalValue hhigh, reads_decimalValue hlow,
    reads_decimalValue hclose, reads_asciiInt hvolume, reads_decimalValue hadjusted, hmoment⟩

/-- **A turn of the loop raises something else than a `ValueError` exactly if it crashes.** -/
lemma orderly_toBar_iff {record : ProviderRecord} :
    Orderly (toBar library manifest context record) ↔
      ¬ Crashes library manifest context record := by
  unfold toBar Crashes
  rw [orderly_checkRecord.bind_iff]
  simp only [orderly_readBar.bind_iff, orderly_create]
  constructor
  · rintro h ⟨tradingDate, currencyCode, bar, marketTimestamp, hchecks, hbar, d, hd, offset,
      hoffset, hutc⟩
    refine h (tradingDate, currencyCode) hchecks (bar, marketTimestamp) hbar d ?_ offset hoffset hutc
    rw [(readBar_ok hbar).1]
    exact hd
  · rintro hno ⟨tradingDate, currencyCode⟩ hchecks ⟨bar, marketTimestamp⟩ hbar d hd offset hoffset
      hutc
    refine hno ⟨tradingDate, currencyCode, bar, marketTimestamp, hchecks, hbar, d, ?_, offset,
      hoffset, hutc⟩
    rw [← (readBar_ok hbar).1]
    exact hd

lemma checkRecord_ok {record : ProviderRecord} {checked : Date × String}
    (h : checkRecord library manifest context record = .ok checked) :
    checkSource "MARKET_DATA" manifest context.sourcePayloadChecksum context.researchAsOfTime
        record = .ok () ∧ TradedBy context record := by
  obtain ⟨hsource, h⟩ := unit_bind_ok.mp h
  obtain ⟨_, -, h⟩ := bind_ok.mp h
  obtain ⟨-, h⟩ := check_bind_ok.mp h
  obtain ⟨tradingDate, hdate, h⟩ := bind_ok.mp h
  obtain ⟨hnot, -⟩ := check_bind_ok.mp h
  obtain ⟨text, htext, hdate⟩ := bind_ok.mp hdate
  obtain ⟨stated, hstated, htext⟩ := require_bind_ok.mp htext
  obtain ⟨-, htext⟩ := check_bind_ok.mp htext
  cases htext
  exact ⟨hsource, text, tradingDate, hstated, require_ok.mp hdate, hnot⟩

/-- What a record went through that was converted. -/
lemma toBar_ok {record : ProviderRecord} {bar : DailyPriceBarWrite}
    (h : toBar library manifest context record = .ok bar) :
    (checkSource "MARKET_DATA" manifest context.sourcePayloadChecksum context.researchAsOfTime
        record = .ok () ∧ TradedBy context record) ∧
      (∀ text ∈ record.text "market_timestamp", ∃ d, readTime text = some d ∧ d.offset ≠ none) ∧
      Faithful library record bar := by
  obtain ⟨checked, hchecks, h⟩ := bind_ok.mp h
  obtain ⟨⟨row, marketTimestamp⟩, hrow, h⟩ := bind_ok.mp h
  obtain ⟨stamp, hstamp, h⟩ := bind_ok.mp h
  obtain ⟨-, h⟩ := check_bind_ok.mp h
  cases h
  obtain ⟨rfl, hread, hfaithful⟩ := readBar_ok hrow
  obtain ⟨hoffset, hmoment⟩ := normalizeOptionalUtc_ok hstamp
  refine ⟨checkRecord_ok hchecks, ?_, hfaithful stamp hmoment⟩
  intro text htext
  obtain ⟨d, hd⟩ := Option.ne_none_iff_exists'.mp (hread text htext)
  refine ⟨d, hd, hoffset d ?_⟩
  rw [statedTimestamp, Option.mem_def.mp htext]
  exact hd

/-- The market-data bridge does what it should exactly if no record crashes and no market timestamp
that is accepted is later than the research time. -/
lemma sound_stage_iff {repository : List DailyPriceBarWrite} {batch : ProviderBatch} :
    Sound (Faithful library) (Law library manifest context batch) batch.records repository
        (stage library manifest context repository batch) ↔
      Holds library manifest batch (gates manifest context batch) (toBar library manifest context)
        (Crashes library manifest context)
        (∀ record ∈ batch.records, ∀ d ∈ statedTimestamp record,
          ¬ d.later context.researchAsOfTime) := by
  refine sound_planRows_iff orderly_gates (fun _ => orderly_toBar_iff)
    (fun _ _ h => (toBar_ok h).2.2) ?_
  intro hgates hconvert hsum
  obtain ⟨hcall, hgates⟩ := unit_bind_ok.mp hgates
  obtain ⟨hpublished, hreal⟩ := check_bind_ok.mp hgates
  have hsource : ∀ record ∈ batch.records, checkSource "MARKET_DATA" manifest
      context.sourcePayloadChecksum context.researchAsOfTime record = .ok () := by
    intro record hrecord
    obtain ⟨bar, hbar⟩ := hconvert record hrecord
    exact (toBar_ok hbar).1.1
  constructor
  · intro hlaw record hrecord d hd
    obtain ⟨text, htext, hread⟩ := Option.bind_eq_some_iff.mp hd
    obtain ⟨d', hd', -, hnot⟩ := hlaw.stamped record hrecord text htext
    rw [hread] at hd'
    cases hd'
    exact hnot
  · intro hstamped
    refine ⟨agrees_of_checks hcall hreal hsource hsum, ⟨hpublished, ?_⟩, ?_, ?_⟩
    · intro record hrecord
      exact (checkSource_ok (hsource record hrecord)).2.2.2
    · intro record hrecord
      obtain ⟨bar, hbar⟩ := hconvert record hrecord
      exact (toBar_ok hbar).1.2
    · intro record hrecord text htext
      obtain ⟨bar, hbar⟩ := hconvert record hrecord
      obtain ⟨d, hd, hoffset⟩ := (toBar_ok hbar).2.1 text htext
      refine ⟨d, hd, hoffset, hstamped record hrecord d ?_⟩
      rw [statedTimestamp, Option.mem_def.mp htext]
      exact hd

end MarketDataProviderBridge

/-! ## The law -/

/-- A library for ASCII texts. -/
def asciiFacts : FactLibrary where
  decimalDigit c := if c.isDigit then some (asciiValue c) else none
  asciiDigit c hc := by simp [hc]
  uuid _ := none
  batchChecksum _ := "batch"

/-- A fact that was filed at a time without an offset. -/
def zonelessRecord : ProviderRecord where
  identity :=
    { providerDefinitionId := 8
      providerCapabilityId := 9
      sourceIdentity := "facts"
      recordKey := "a"
      revision := 1
      validSource := by decide
      validKey := validKey_a
      validRevision := validRevision_one
      printable := by decide }
  rawArtifactId := 3
  sourceChecksum := "source"
  sourcePublishedAt := none
  status := .complete
  numericValues := [("value", some "12.5")]
  textValues := [("security_id", some (1 : Uuid).str), ("filed_at", some "2023-11-02T16:30:00"),
    ("statement_type", some "BALANCE_SHEET"), ("provider_concept", some "Assets")]
  warningCodes := []
  syntheticStatus := .realVerified

def zonelessBatch : ProviderBatch where
  manifestChecksum := "manifest"
  records := [zonelessRecord]
  bounded := by decide
  ordered := by decide
  unique := by decide

def filingManifest : ProviderIngestionManifestRecord where
  id := 4
  rawArtifactId := 3
  batchChecksum := "batch"
  recordCount := 1
  sourcePublishedAt := none
  syntheticStatus := .realVerified
  manifestChecksum := "manifest"

/-- The first moment of 2024. -/
def researchDay : Instant where
  date := ⟨2024, 1, 1, validYear_2024, validMonth_1, validDay_2024_1_1⟩
  hour := 0
  minute := 0
  second := 0
  microsecond := 0
  validHour := validHour_0
  validMinute := validMinute_0
  validSecond := validMinute_0
  validMicrosecond := validMicrosecond_0

def filingContext : FinancialFactBridgeContext where
  securityId := 1
  providerId := 2
  sourcePayloadId := 5
  sourcePayloadChecksum := "source"
  retrievedAt := researchDay
  researchAsOfTime := researchDay
  derivedUseApproved := true
  rawFactRetentionApproved := true

end StockResearch.Providers
