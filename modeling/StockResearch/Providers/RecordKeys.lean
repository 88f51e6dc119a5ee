import StockResearch.Providers.LookAhead

/-!
# Record keys

A record key ends in the position of its fact or row: `{index:04d}`, counted within the list of the
fact's unit for the SEC and within the whole response for Tushare.  The rest of the key is made of
texts of the fact.

**Within a response** no two records share a key: the batch refuses them, so two facts whose texts
join up to the same key cannot both be returned.

**Across responses** the key of a fact is the same exactly when its position is
(`recordKeys_positional`).  What stands in other units, and what follows in its own, does not
matter; a fact inserted, removed or moved in front of it does.  `not_keysStable` is a fact whose key
changes because another one is reported before it.
-/

namespace StockResearch.Providers

open PyJson PyTime Checked

/-! ## Texts joined by a separator -/

/-- Two texts are split at the last separator in the same way. -/
lemma split_last {α : Type} {a : α} {x₁ x₂ z₁ z₂ : List α} (h₁ : a ∉ z₁) (h₂ : a ∉ z₂)
    (h : x₁ ++ a :: z₁ = x₂ ++ a :: z₂) : x₁ = x₂ ∧ z₁ = z₂ := by
  simp only [List.append_eq_append_iff, List.cons_eq_append_iff, List.cons_eq_cons] at h
  rcases h with ⟨c, rfl, ⟨rfl, -, rfl⟩ | ⟨d, rfl, rfl⟩⟩ | ⟨c, rfl, ⟨rfl, -, rfl⟩ | ⟨d, rfl, rfl⟩⟩ <;>
    simp_all

/-- Two texts are split at the first separator in the same way. -/
lemma split_first {α : Type} {a : α} {x₁ x₂ z₁ z₂ : List α} (h₁ : a ∉ x₁) (h₂ : a ∉ x₂)
    (h : x₁ ++ a :: z₁ = x₂ ++ a :: z₂) : x₁ = x₂ ∧ z₁ = z₂ := by
  simp only [List.append_eq_append_iff, List.cons_eq_append_iff, List.cons_eq_cons] at h
  rcases h with ⟨c, rfl, ⟨rfl, -, rfl⟩ | ⟨d, rfl, rfl⟩⟩ | ⟨c, rfl, ⟨rfl, -, rfl⟩ | ⟨d, rfl, rfl⟩⟩ <;>
    simp_all

lemma colon_notMem_padded (n : Nat) : ':' ∉ padded 4 n := fun h =>
  absurd (isDigit_of_mem_padded h) (by decide)

/-- A key determines its stem and its position. -/
lemma indexed_inj {s t : String} {m n : Nat}
    (h : s ++ ":" ++ String.ofList (padded 4 m) = t ++ ":" ++ String.ofList (padded 4 n)) :
    s = t ∧ m = n := by
  have hchars := congrArg String.toList h
  simp only [String.toList_append, String.toList_ofList, List.append_assoc] at hchars
  obtain ⟨hstem, hindex⟩ := split_last (colon_notMem_padded m) (colon_notMem_padded n) hchars
  exact ⟨String.toList_inj.mp hstem, padded_inj hindex⟩

/-! ## Company facts -/

/-- The same fact: taxonomy, concept, unit, accession number and the start and end of its period. -/
structure FactRow.SameFact (a b : FactRow) : Prop where
  taxonomy : a.taxonomy = b.taxonomy
  concept : a.concept = b.concept
  unit : a.unit = b.unit
  accession : a.text "accn" = b.text "accn"
  start : a.text "start" = b.text "start"
  finish : a.text "end" = b.text "end"

lemma FactRow.SameFact.key_eq_iff {a b : FactRow} (h : a.SameFact b) :
    a.key = b.key ↔ a.index = b.index := by
  have hstem : a.stem = b.stem := by
    simp only [FactRow.stem, h.taxonomy, h.concept, h.unit, h.accession, h.finish]
  constructor
  · intro hkey
    exact (indexed_inj hkey).2
  · intro hindex
    rw [FactRow.key, FactRow.key, hstem, hindex]

/-- A company facts response that is parsed. -/
structure FactsParse (library : Library) where
  adapter : SecEdgarAdapter
  context : SecParseContext
  body : List UInt8
  batch : ProviderBatch
  isFacts : context.sourceEndpointType = .companyFactsJson
  parsed : adapter.parseResponse library context body = .ok batch

namespace FactsParse

variable {library : Library} (p : FactsParse library)

/-- The facts of the response. -/
def rows : List FactRow := factRows (payload library p.body)

/-- A record of the batch that shows a fact of the response. -/
def Records (row : FactRow) (r : ProviderRecord) : Prop :=
  r ∈ p.batch.records ∧ SecEdgarAdapter.Shows p.context row r

/-- Every fact has its record, and no two facts share a key. -/
lemma records_rows :
    (∀ row ∈ p.rows, ∃ r, p.Records row r) ∧
      ∀ a ∈ p.rows, ∀ b ∈ p.rows, a.key = b.key → a = b := by
  obtain ⟨-, records, hrecords, hmem, hnodup⟩ := SecEdgarAdapter.parseResponse_ok p.parsed
  simp only [SecEdgarAdapter.parseRecords, p.isFacts] at hrecords
  have hrows := SecEdgarAdapter.companyFacts_ok hrecords
  have hkeys : p.rows.map FactRow.key = records.map ProviderRecord.key :=
    map_eq_of_forall₂ hrows fun _ _ hshows => hshows.key.symm
  constructor
  · intro row hrow
    obtain ⟨r, hr, hshows⟩ := exists_of_forall₂ hrows hrow
    exact ⟨r, (hmem r).mpr hr, hshows⟩
  · rw [← hkeys] at hnodup
    exact fun a ha b hb => List.inj_on_of_nodup_map hnodup ha hb

end FactsParse

/-! ## Tushare rows -/

lemma TushareEndpoint.value_inj {a b : TushareEndpoint} (h : a.value = b.value) : a = b := by
  cases a <;> cases b <;> first | rfl | exact absurd h (by decide)

lemma TushareEndpoint.colon_notMem_value (e : TushareEndpoint) : ':' ∉ e.value.toList := by
  cases e <;> decide

/-- A Tushare response that is parsed. -/
structure TableParse (library : Library) where
  context : TushareParseContext
  body : List UInt8
  batch : ProviderBatch
  parsed : context.parseResponse library body = .ok batch

namespace TableParse

variable {library : Library} (p q : TableParse library)

/-- The rows of the response. -/
def rows : List TushareRow := tushareRows (payload library p.body)

/-- A record of the batch that shows a row of the response. -/
def Records (row : TushareRow) (r : ProviderRecord) : Prop :=
  r ∈ p.batch.records ∧ p.context.Shows row r

/-- The text of the period of a row. -/
def period (row : TushareRow) : String := (row.value p.context.periodField).formatted

lemma records_rows :
    (∀ row ∈ p.rows, ∃ r, p.Records row r) ∧
      ∀ a ∈ p.rows, ∀ b ∈ p.rows, p.context.key a = p.context.key b → a = b := by
  obtain ⟨-, records, hrecords, hmem, hnodup⟩ := TushareParseContext.parseResponse_ok p.parsed
  obtain ⟨hrows, -⟩ := TushareParseContext.parseRecords_ok hrecords
  have hkeys : p.rows.map p.context.key = records.map ProviderRecord.key :=
    map_eq_of_forall₂ hrows fun _ _ hshows => hshows.key.symm
  constructor
  · intro row hrow
    obtain ⟨r, hr, hshows⟩ := exists_of_forall₂ hrows hrow
    exact ⟨r, (hmem r).mpr hr, hshows⟩
  · rw [← hkeys] at hnodup
    exact fun a ha b hb => List.inj_on_of_nodup_map hnodup ha hb

variable {p q}

/-- The same row has the same key exactly at the same position, endpoint and period. -/
lemma key_eq_iff {a b : TushareRow} {r s : ProviderRecord} (ha : p.Records a r)
    (hb : q.Records b s) (hrow : a.row = b.row) :
    r.key = s.key ↔ a.index = b.index ∧ p.context.endpoint = q.context.endpoint ∧
      p.period a = q.period b := by
  have hvalue : ∀ field, a.value field = b.value field := by
    intro field
    rw [TushareRow.value, TushareRow.value, hrow]
  have hsecurity : p.context.providerSecurityIdentifier = q.context.providerSecurityIdentifier := by
    have hcode := hvalue "ts_code"
    rw [ha.2.security, hb.2.security] at hcode
    exact Scalar.text.inj hcode
  rw [ha.2.key, hb.2.key]
  constructor
  · intro hkey
    obtain ⟨hstem, hindex⟩ := indexed_inj hkey
    have hchars := congrArg String.toList hstem
    have hcolon : ":".toList = [':'] := rfl
    simp only [TushareParseContext.keyStem, hsecurity, hvalue "update_flag", String.toList_append,
      hcolon, List.append_assoc, List.singleton_append] at hchars
    obtain ⟨hendpoint, hrest⟩ := split_first (TushareEndpoint.colon_notMem_value _)
      (TushareEndpoint.colon_notMem_value _) hchars
    have hperiod := List.append_cancel_right
      (List.tail_eq_of_cons_eq (List.append_cancel_left hrest))
    exact ⟨hindex, TushareEndpoint.value_inj (String.toList_inj.mp hendpoint),
      String.toList_inj.mp hperiod⟩
  · rintro ⟨hindex, hendpoint, hperiod⟩
    have hperiod' : (a.value p.context.periodField).formatted =
        (b.value q.context.periodField).formatted := hperiod
    simp only [TushareParseContext.key, TushareParseContext.keyStem, hendpoint, hsecurity, hperiod',
      hvalue "update_flag", hindex]

end TableParse

/-! ## Positions -/

/-- **What a record key says.**  Every fact and every row of a parsed response has its record; two
records of one response never share a key; and the same fact, or the same row, of two responses has
the same key if and only if it stands at the same position (in a Tushare response also of the same
endpoint and with the same period). -/
theorem recordKeys_positional (library : Library) :
    (∀ p q : FactsParse library, ∀ a ∈ p.rows, ∀ b ∈ q.rows,
      (∃ r, p.Records a r) ∧
      (∀ a' ∈ p.rows, ∀ r r', p.Records a r → p.Records a' r' → a ≠ a' → r.key ≠ r'.key) ∧
      (a.SameFact b → ∀ r s, p.Records a r → q.Records b s →
        (r.key = s.key ↔ a.index = b.index))) ∧
    (∀ p q : TableParse library, ∀ a ∈ p.rows, ∀ b ∈ q.rows,
      (∃ r, p.Records a r) ∧
      (∀ a' ∈ p.rows, ∀ r r', p.Records a r → p.Records a' r' → a ≠ a' → r.key ≠ r'.key) ∧
      (a.row = b.row → ∀ r s, p.Records a r → q.Records b s →
        (r.key = s.key ↔ a.index = b.index ∧ p.context.endpoint = q.context.endpoint ∧
          p.period a = q.period b))) := by
  constructor
  · intro p q a ha b hb
    refine ⟨p.records_rows.1 a ha, ?_, ?_⟩
    · intro a' ha' r r' hr hr' hne hkey
      rw [hr.2.key, hr'.2.key] at hkey
      exact hne (p.records_rows.2 a ha a' ha' hkey)
    · intro hsame r s hr hs
      rw [hr.2.key, hs.2.key]
      exact hsame.key_eq_iff
  · intro p q a ha b hb
    refine ⟨p.records_rows.1 a ha, ?_, ?_⟩
    · intro a' ha' r r' hr hr' hne hkey
      rw [hr.2.key, hr'.2.key] at hkey
      exact hne (p.records_rows.2 a ha a' ha' hkey)
    · intro hrow r s hr hs
      exact TableParse.key_eq_iff hr hs hrow

/-! ## A fact reported in front of another -/

/-- The timely fact with another one reported before it. -/
def longerBody : List UInt8 :=
  factsBody [sampleFact "A-0" "2023-10-01", sampleFact "A-1" "2023-11-01"]

/-- The fact stands in both responses, at different positions. -/
lemma shifted_fact :
    ∃ a ∈ factRows (payload asciiLibrary timelyBody), ∃ b ∈ factRows (payload asciiLibrary longerBody),
      a.SameFact b ∧ a.index ≠ b.index := by
  have hrows : ∃ a ∈ factRows (payload asciiLibrary timelyBody),
      ∃ b ∈ factRows (payload asciiLibrary longerBody),
        (a.taxonomy = b.taxonomy ∧ a.concept = b.concept ∧ a.unit = b.unit ∧
          a.text "accn" = b.text "accn" ∧ a.text "start" = b.text "start" ∧
          a.text "end" = b.text "end") ∧ a.index ≠ b.index := by decide +kernel
  obtain ⟨a, ha, b, hb, ⟨h₁, h₂, h₃, h₄, h₅, h₆⟩, hindex⟩ := hrows
  exact ⟨a, ha, b, hb, ⟨h₁, h₂, h₃, h₄, h₅, h₆⟩, hindex⟩

/-- A company facts response of the sample company that is parsed. -/
lemma exists_factsParse {body : List UInt8}
    (h : (sampleSecAdapter.parseResponse asciiLibrary (factsContext body) body).isOk = true) :
    ∃ p : FactsParse asciiLibrary, p.rows = factRows (payload asciiLibrary body) ∧
      p.context.providerDefinitionId = 1 ∧ p.context.providerCapabilityId = 2 ∧
      p.context.sourceIdentity = "SEC_COMPANY_FACTS_JSON:0000000001" := by
  obtain ⟨batch, hbatch⟩ := exists_of_isOk h
  exact ⟨⟨sampleSecAdapter, factsContext body, body, batch, rfl, hbatch⟩, rfl, rfl, rfl, rfl⟩

lemma timely_isOk : (sampleSecAdapter.parseResponse asciiLibrary (factsContext timelyBody)
    timelyBody).isOk = true := by decide +kernel

lemma longer_isOk : (sampleSecAdapter.parseResponse asciiLibrary (factsContext longerBody)
    longerBody).isOk = true := by decide +kernel

/-- The fact's two records, whose keys differ, and a row with its record. -/
theorem recordKeys_positional_shifted :
    (∃ p q : FactsParse asciiLibrary, ∃ a ∈ p.rows, ∃ b ∈ q.rows, a.SameFact b ∧
      ∃ r s, p.Records a r ∧ q.Records b s ∧ r.key ≠ s.key) ∧
    ∃ p : TableParse asciiLibrary, ∃ a ∈ p.rows, ∃ r, p.Records a r := by
  constructor
  · obtain ⟨p, hp, -⟩ := exists_factsParse timely_isOk
    obtain ⟨q, hq, -⟩ := exists_factsParse longer_isOk
    obtain ⟨a, ha, b, hb, hsame, hindex⟩ := shifted_fact
    rw [← hp] at ha
    rw [← hq] at hb
    obtain ⟨⟨r, hr⟩, -, hkeys⟩ := (recordKeys_positional asciiLibrary).1 p q a ha b hb
    obtain ⟨⟨s, hs⟩, -, -⟩ := (recordKeys_positional asciiLibrary).1 q p b hb a ha
    refine ⟨p, q, a, ha, b, hb, hsame, r, s, hr, hs, ?_⟩
    rw [Ne, hkeys hsame r s hr hs]
    exact hindex
  · have hok : (indicatorContext.parseResponse asciiLibrary indicatorBody).isOk = true := by
      decide +kernel
    obtain ⟨batch, hbatch⟩ := exists_of_isOk hok
    have hrows : ∃ a ∈ tushareRows (payload asciiLibrary indicatorBody), a.index = 0 := by
      decide +kernel
    obtain ⟨a, ha, -⟩ := hrows
    let p : TableParse asciiLibrary := ⟨indicatorContext, indicatorBody, batch, hbatch⟩
    exact ⟨p, a, ha, ((recordKeys_positional asciiLibrary).2 p p a ha a ha).1⟩

/-- The same fact has the same key in any two responses of one provider, capability and source. -/
def KeysStable (library : Library) : Prop :=
  ∀ p q : FactsParse library,
    p.context.providerDefinitionId = q.context.providerDefinitionId →
    p.context.providerCapabilityId = q.context.providerCapabilityId →
    p.context.sourceIdentity = q.context.sourceIdentity →
    ∀ a ∈ p.rows, ∀ b ∈ q.rows, a.SameFact b → ∀ r s, p.Records a r → q.Records b s → r.key = s.key

/-- **Keys are not stable**: reporting another fact first changes the key of a fact. -/
theorem not_keysStable : ¬ KeysStable asciiLibrary := by
  intro hstable
  obtain ⟨p, hp, hpdefinition, hpcapability, hpsource⟩ := exists_factsParse timely_isOk
  obtain ⟨q, hq, hqdefinition, hqcapability, hqsource⟩ := exists_factsParse longer_isOk
  obtain ⟨a, ha, b, hb, hsame, hindex⟩ := shifted_fact
  rw [← hp] at ha
  rw [← hq] at hb
  obtain ⟨r, hr⟩ := p.records_rows.1 a ha
  obtain ⟨s, hs⟩ := q.records_rows.1 b hb
  have hkey := hstable p q (hpdefinition.trans hqdefinition.symm)
    (hpcapability.trans hqcapability.symm) (hpsource.trans hqsource.symm) a ha b hb hsame r s hr hs
  rw [hr.2.key, hs.2.key, hsame.key_eq_iff] at hkey
  exact hindex hkey

end StockResearch.Providers
