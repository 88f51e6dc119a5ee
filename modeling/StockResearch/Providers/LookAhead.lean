import StockResearch.Providers.Tushare

/-!
# Publication dates and the as-of time

A record states when its content was published at up to three levels: the publication time of the
whole response, the acceptance time of a filing, and the date of a single filing, fact or row.  The
adapters compare the first two with `research_as_of_time` and never the third: `filingDate` and
`filed` of the SEC and the publication fields of a Tushare row go into the record unread.

`known_iff` says what this means for every response that is parsed.  The records state nothing
later than the as-of time exactly when no date of that third level in the response is later than
the as-of date.  `not_known_future_fact` is a fact that was filed after the as-of date and is
returned.
-/

namespace StockResearch.Providers

open PyJson PyTime Checked

/-- A text that is a date after the day of the as-of time. -/
def Future (asOf : Instant) (s : String) : Prop :=
  ∃ d, Date.fromIsoformat s = some d ∧ asOf.date < d

instance (asOf : Instant) (s : String) : Decidable (Future asOf s) :=
  match h : Date.fromIsoformat s with
  | none => isFalse (by simp [Future, h])
  | some d => decidable_of_iff (asOf.date < d) (by simp [Future, h])

/-- A SEC record states nothing later than the as-of time. -/
structure SecKnown (asOf : Instant) (r : ProviderRecord) : Prop where
  published : ∀ t, r.sourcePublishedAt = some t → ¬ asOf < t
  accepted : ∀ t : Instant, r.text "accepted_at" = some t.isoformat → ¬ asOf < t
  filed : ∀ s, r.text "filed_date" = some s → ¬ Future asOf s

/-- A Tushare record states nothing later than the as-of time. -/
structure TushareKnown (context : TushareParseContext) (r : ProviderRecord) : Prop where
  published : ∀ t, r.sourcePublishedAt = some t → ¬ context.researchAsOfTime < t
  publication : ∀ field ∈ context.publicationFields, ∀ s, r.stated field = some s →
    ¬ Future context.researchAsOfTime s

/-- The filing dates that a SEC response states, one by one. -/
def filedTexts (library : Library) (context : SecParseContext) (body : List UInt8) : List String :=
  match context.sourceEndpointType with
  | .submissionsJson => (filingRows (payload library body)).filterMap fun raw =>
      memberText raw "filingDate"
  | .companyFactsJson => (factRows (payload library body)).filterMap fun row => row.text "filed"
  | .filingDocument => []

/-- The values under the publication fields of a Tushare response, row by row. -/
def publicationTexts (library : Library) (context : TushareParseContext) (body : List UInt8) :
    List String :=
  (tushareRows (payload library body)).flatMap fun r =>
    context.publicationFields.filterMap fun field => (r.value field).str?

section Sec

variable {library : Library} {context : SecParseContext}

/-- A filing was accepted in time, so only its filing date can be late. -/
lemma secKnown_filing {raw : Members} {r : ProviderRecord}
    (h : SecEdgarAdapter.ShowsFiling context raw r) :
    (∀ s, memberText raw "filingDate" = some s → ¬ Future context.researchAsOfTime s) ↔
      SecKnown context.researchAsOfTime r := by
  obtain ⟨t, s, d, htime, hpublished, haccepted, hs, hd, hfiled⟩ := h
  have hread := Date.fromIsoformat_isoformat d
  constructor
  · intro hknown
    refine ⟨?_, ?_, ?_⟩
    · intro t' ht'
      rw [hpublished] at ht'
      rwa [← Option.some.inj ht']
    · intro t' ht'
      rw [haccepted] at ht'
      rwa [← Instant.isoformat_inj (Option.some.inj ht')]
    · rintro s' hs' ⟨d', hd', hlate⟩
      rw [hfiled] at hs'
      rw [← Option.some.inj hs', hread] at hd'
      exact hknown s hs ⟨d, hd, Option.some.inj hd' ▸ hlate⟩
  · rintro hknown s' hs' ⟨d', hd', hlate⟩
    rw [hs] at hs'
    rw [← Option.some.inj hs', hd] at hd'
    exact hknown.filed _ hfiled ⟨d, hread, Option.some.inj hd' ▸ hlate⟩

/-- A fact's record shows the context's publication time and the fact's own filing date. -/
lemma secKnown_fact {row : FactRow} {r : ProviderRecord}
    (hpublished : ∀ t, context.sourcePublishedAt = some t → ¬ context.researchAsOfTime < t)
    (h : SecEdgarAdapter.Shows context row r) :
    (∀ s, row.text "filed" = some s → ¬ Future context.researchAsOfTime s) ↔
      SecKnown context.researchAsOfTime r := by
  constructor
  · intro hknown
    refine ⟨?_, ?_, ?_⟩
    · rw [h.published]
      exact hpublished
    · intro t ht
      rw [h.accepted] at ht
      cases ht
    · rw [h.filed]
      exact hknown
  · intro hknown
    rw [← h.filed]
    exact hknown.filed

lemma secKnown_document {adapter : SecEdgarAdapter} {body : List UInt8} {r : ProviderRecord}
    (hpublished : ∀ t, context.sourcePublishedAt = some t → ¬ context.researchAsOfTime < t)
    (h : adapter.parseDocument library context body = .ok r) :
    SecKnown context.researchAsOfTime r := by
  obtain ⟨hr, haccepted, hfiled⟩ := SecEdgarAdapter.parseDocument_ok h
  refine ⟨?_, ?_, ?_⟩
  · rw [hr]
    exact hpublished
  · intro t ht
    rw [haccepted] at ht
    cases ht
  · intro s hs
    rw [hfiled] at hs
    cases hs

/-- A property of every text that a list of rows yields is one of every row. -/
lemma forall_filterMap {α : Type} {f : α → Option String} {P : String → Prop} {rows : List α} :
    (∀ s ∈ rows.filterMap f, P s) ↔ ∀ row ∈ rows, ∀ s, f row = some s → P s := by
  simp only [List.mem_filterMap, forall_exists_index, and_imp]
  exact ⟨fun h row hrow s hs => h s row hrow hs, fun h s row hrow hs => h row hrow s hs⟩

/-- The records of a SEC response state nothing late when none of its filing dates is late. -/
lemma secKnown_iff {adapter : SecEdgarAdapter} {body : List UInt8} {batch : ProviderBatch}
    (h : adapter.parseResponse library context body = .ok batch) :
    (∀ r ∈ batch.records, SecKnown context.researchAsOfTime r) ↔
      ∀ s ∈ filedTexts library context body, ¬ Future context.researchAsOfTime s := by
  obtain ⟨hpublished, records, hrecords, hmem, -⟩ := SecEdgarAdapter.parseResponse_ok h
  simp only [hmem]
  unfold SecEdgarAdapter.parseRecords at hrecords
  unfold filedTexts
  cases hendpoint : context.sourceEndpointType <;> simp only [hendpoint] at hrecords ⊢
  case submissionsJson =>
    rw [forall_filterMap]
    exact (forall_iff_of_forall₂ (SecEdgarAdapter.filings_ok hrecords) fun _ _ hshows =>
      secKnown_filing hshows).symm
  case companyFactsJson =>
    rw [forall_filterMap]
    exact (forall_iff_of_forall₂ (SecEdgarAdapter.companyFacts_ok hrecords) fun _ _ hshows =>
      secKnown_fact hpublished hshows).symm
  case filingDocument =>
    obtain ⟨r, hr, rfl⟩ := map_ok.mp hrecords
    simpa using secKnown_document hpublished hr

end Sec

/-- The records of a Tushare response state nothing late when no publication value is late. -/
lemma tushareKnown_iff {library : Library} {context : TushareParseContext} {body : List UInt8}
    {batch : ProviderBatch} (h : context.parseResponse library body = .ok batch) :
    (∀ r ∈ batch.records, TushareKnown context r) ↔
      ∀ s ∈ publicationTexts library context body, ¬ Future context.researchAsOfTime s := by
  obtain ⟨hpublished, records, hrecords, hmem, -⟩ := TushareParseContext.parseResponse_ok h
  obtain ⟨hrows, hrequired⟩ := TushareParseContext.parseRecords_ok hrecords
  have hfields : ∀ field ∈ context.publicationFields, field ∈ context.endpoint.fields :=
    fun field hfield => hrequired (List.mem_append_right _ hfield)
  have hrow : ∀ (row : TushareRow) (r : ProviderRecord), context.Shows row r →
      ((∀ field ∈ context.publicationFields, ∀ s, (row.value field).str? = some s →
        ¬ Future context.researchAsOfTime s) ↔ TushareKnown context r) := by
    intro row r hshows
    have hpub : ∀ t, r.sourcePublishedAt = some t → ¬ context.researchAsOfTime < t := by
      rw [hshows.published]
      exact hpublished
    constructor
    · intro hknown
      refine ⟨hpub, fun field hfield s hs => hknown field hfield s ?_⟩
      rw [← hs, hshows.stated field (hfields field hfield)]
    · intro hknown field hfield s hs
      refine hknown.publication field hfield s ?_
      rw [hshows.stated field (hfields field hfield), hs]
  simp only [hmem, publicationTexts, List.mem_flatMap, forall_exists_index, and_imp]
  rw [← forall_iff_of_forall₂ hrows hrow]
  simp only [List.mem_filterMap]
  constructor
  · rintro hknown s row hmem ⟨field, hfield, hs⟩
    exact hknown row hmem field hfield s hs
  · intro hknown row hmem field hfield s hs
    exact hknown s row hmem ⟨field, hfield, hs⟩

/-- **When a response lets nothing late through.**  The records that an adapter returns state
nothing later than the as-of time if and only if no filing date, and no value under a publication
field, of the response is a date after the as-of date. -/
theorem known_iff (library : Library) :
    (∀ (adapter : SecEdgarAdapter) (context : SecParseContext) (body : List UInt8)
        (batch : ProviderBatch), adapter.parseResponse library context body = .ok batch →
      ((∀ r ∈ batch.records, SecKnown context.researchAsOfTime r) ↔
        ∀ s ∈ filedTexts library context body, ¬ Future context.researchAsOfTime s)) ∧
    (∀ (context : TushareParseContext) (body : List UInt8) (batch : ProviderBatch),
        context.parseResponse library body = .ok batch →
      ((∀ r ∈ batch.records, TushareKnown context r) ↔
        ∀ s ∈ publicationTexts library context body, ¬ Future context.researchAsOfTime s)) :=
  ⟨fun _ _ _ _ => secKnown_iff, fun _ _ _ => tushareKnown_iff⟩

/-! ## A fact filed after the as-of time -/

/-- The first of January 2024. -/
def newYear : Instant where
  date := ⟨2024, 1, 1, validYear_2024, validMonth_1, validDay_2024_1_1⟩
  hour := 0
  minute := 0
  second := 0
  microsecond := 0
  validHour := validHour_0
  validMinute := validMinute_0
  validSecond := validMinute_0
  validMicrosecond := validMicrosecond_0

/-- The compact text of a value in UTF-8. -/
def jsonBody (v : Value) : List UInt8 := (dumps v).flatMap String.utf8EncodeChar

/-- A fact of one accession number, filed on the given date. -/
def sampleFact (accession filed : String) : Value :=
  .obj [("accn", .str accession), ("end", .str "2023-09-30"), ("val", .int 5), ("fy", .int 2023),
    ("fp", .str "Q3"), ("form", .str "10-Q"), ("filed", .str filed)]

/-- A company facts response with the given facts in one unit. -/
def factsBody (facts : List Value) : List UInt8 :=
  jsonBody (.obj [("cik", .int 1), ("facts", .obj [("us-gaap", .obj [("Assets", .obj [("units",
    .obj [("USD", .arr facts)])])])])])

def sampleSecAdapter : SecEdgarAdapter := { cik := "0000000001", approvedForms := [] }

/-- The context of parsing a company facts response as of the first of January 2024. -/
def factsContext (body : List UInt8) : SecParseContext where
  providerDefinitionId := 1
  providerCapabilityId := 2
  rawArtifactId := 3
  sourceChecksum := asciiLibrary.sha256 body
  manifestChecksum := asciiLibrary.sha256 []
  sourceIdentity := "SEC_COMPANY_FACTS_JSON:0000000001"
  sourceEndpointType := .companyFactsJson
  artifactKind := .companyFacts
  contentType := "application/json"
  researchAsOfTime := newYear
  sourcePublishedAt := some newYear
  expectedAccessionNumber := none
  expectedDocumentPath := none
  syntheticStatus := .syntheticTestOnly
  validKind := by decide
  validDocument := by decide

def timelyBody : List UInt8 := factsBody [sampleFact "A-1" "2023-11-01"]

def futureBody : List UInt8 := factsBody [sampleFact "A-1" "2024-02-01"]

/-- A fact that was filed a month after the as-of time is returned. -/
theorem not_known_future_fact :
    ∃ batch, sampleSecAdapter.parseResponse asciiLibrary (factsContext futureBody) futureBody =
        .ok batch ∧
      ¬ ∀ r ∈ batch.records, SecKnown (factsContext futureBody).researchAsOfTime r := by
  have hok : (sampleSecAdapter.parseResponse asciiLibrary (factsContext futureBody)
      futureBody).isOk = true := by decide +kernel
  obtain ⟨batch, hbatch⟩ := exists_of_isOk hok
  refine ⟨batch, hbatch, ?_⟩
  rw [secKnown_iff hbatch]
  decide +kernel

/-- A Tushare response with one row. -/
def indicatorBody : List UInt8 :=
  jsonBody (.obj [("code", .int 0), ("data", .obj [("fields", .arr [.str "ann_date",
    .str "end_date", .str "roe", .str "ts_code"]), ("items", .arr [.arr [.str "20231030",
      .str "20230930", .str "5", .str "600000.SH"]])])])

def indicatorContext : TushareParseContext where
  providerDefinitionId := 1
  providerCapabilityId := 2
  rawArtifactId := 3
  sourceChecksum := asciiLibrary.sha256 indicatorBody
  manifestChecksum := asciiLibrary.sha256 []
  sourceIdentity := "fina_indicator:600000.SH"
  endpoint := .finaIndicator
  providerSecurityIdentifier := "600000.SH"
  numericFields := ["roe"]
  providerMetricFields := ["roe"]
  publicationFields := ["ann_date"]
  periodField := "end_date"
  sourcePublishedAt := none
  researchAsOfTime := newYear
  syntheticStatus := .syntheticTestOnly
  validNumeric := by decide
  validMetrics := by decide
  validPublication := by decide
  metricsNumeric := by decide

/-- A fact and a row that were published in time. -/
theorem known_iff_timely :
    (∃ batch, sampleSecAdapter.parseResponse asciiLibrary (factsContext timelyBody) timelyBody =
        .ok batch ∧
      ∀ r ∈ batch.records, SecKnown (factsContext timelyBody).researchAsOfTime r) ∧
    ∃ batch, indicatorContext.parseResponse asciiLibrary indicatorBody = .ok batch ∧
      ∀ r ∈ batch.records, TushareKnown indicatorContext r := by
  have hfacts : (sampleSecAdapter.parseResponse asciiLibrary (factsContext timelyBody)
      timelyBody).isOk = true := by decide +kernel
  have hindicator : (indicatorContext.parseResponse asciiLibrary indicatorBody).isOk = true := by
    decide +kernel
  obtain ⟨facts, hfacts⟩ := exists_of_isOk hfacts
  obtain ⟨indicator, hindicator⟩ := exists_of_isOk hindicator
  refine ⟨⟨facts, hfacts, ?_⟩, indicator, hindicator, ?_⟩
  · rw [(known_iff asciiLibrary).1 _ _ _ _ hfacts]
    decide +kernel
  · rw [(known_iff asciiLibrary).2 _ _ _ hindicator]
    decide +kernel

end StockResearch.Providers
