import StockResearch.ResearchAgent.ClaimLaw

/-!
# When the builder returns

The builder passes over a payload that lacks a field, and reports one whose number or time does not
parse.  The contract of claims checks the texts once more, and what fails there is not caught: one
record of that kind ends the run.

`Expressible` says which records the contract lets through, in terms of their payloads.

* `exists_propose`: one record.
* **`proposeClaims_returns_iff`**: the whole ledger.
-/

namespace StockResearch.ResearchAgent

open PyJson PyTime PyDecimal Checked

/-- The records that the builder looks at. -/
def Considered (mode : ResearchMode) (item : ResearchEvidenceRecord) : Prop :=
  item.evidenceType = .blockedCapability ∨
    item.status = .valid ∧ item.syntheticStatus ≠ .unknown ∧
      (item.syntheticStatus = .syntheticTestOnly → mode = .syntheticTestOnly)

/-- A key that is absent or holds a code. -/
def CodeOrAbsent (payload : Payload) (key : String) : Prop :=
  ∀ v, payload.get key = some v → ∃ code, v = .str code ∧ isCode code = true

/-- A text under the key is a code. -/
def TextIsCode (payload : Payload) (key : String) : Prop :=
  ∀ code, payload.text key = some code → isCode code = true

/-- The texts of a payload that parse as a number. -/
structure NumericPayload.ReadFrom (parsers : Parsers) (payload : Payload) (n : NumericPayload) :
    Prop where
  value : ∃ raw, payload.text "value" = some raw ∧ parsers.decimal raw = some (.finite n.value)
  asOf : ∃ raw, payload.text "as_of_time" = some raw ∧
    parsers.fromisoformat (zuluToOffset raw) = some n.asOf
  unit : payload.text "unit" = some n.unit
  period : payload.text "period" = some n.period
  basis : payload.text "metric_basis" = some n.basis
  code : payload.text "metric_code" = some n.code

/-- What the contract of claims asks of a number. -/
structure NumericPayload.Fits (payload : Payload) (n : NumericPayload) : Prop where
  code : isCode n.code = true
  unit_le : n.unit.length ≤ 32
  currency : ∀ currency, payload.text "currency_code" = some currency →
    isCurrencyCode currency = true
  period_le : n.period.length ≤ 64
  basis_le : n.basis.length ≤ 128
  utc : ∃ time, n.asOf = .aware time true

/-- A record that the builder passes over, or that the contract of claims lets through. -/
def Expressible (parsers : Parsers) (mode : ResearchMode) (item : ResearchEvidenceRecord) : Prop :=
  Considered mode item → match item.evidenceType with
    | .blockedCapability => CodeOrAbsent item.payload "capability_code"
    | .dataQuality => CodeOrAbsent item.payload "quality_code"
    | .derivedMetric | .structuredFact =>
        ∀ n : NumericPayload, n.ReadFrom parsers item.payload → n.Fits item.payload
    | .documentCitation => TextIsCode item.payload "disclosure_code"
    | .corporateAction => TextIsCode item.payload "action_code"
    | _ => True

variable {parsers : Parsers} {supply : Supply} {mode : ResearchMode}
  {item : ResearchEvidenceRecord}

/-! ## The parts of a proposal -/

lemma numericPayload_iff {payload : Payload} {n : NumericPayload} :
    numericPayload parsers payload = some n ↔ n.ReadFrom parsers payload := by
  constructor
  · intro h
    obtain ⟨rawValue, rawAsOf, hvalue, hparsed, hasOf, htime, hunit, hperiod, hbasis, hcode⟩ :=
      numericPayload_eq_some h
    exact ⟨⟨rawValue, hvalue, hparsed⟩, ⟨rawAsOf, hasOf, htime⟩, hunit, hperiod, hbasis, hcode⟩
  · rintro ⟨⟨rawValue, hvalue, hparsed⟩, ⟨rawAsOf, hasOf, htime⟩, hunit, hperiod, hbasis, hcode⟩
    simp [numericPayload, hvalue, hunit, hperiod, hasOf, hbasis, hcode, hparsed, htime]

/-- Building a claim and returning it raises what its contract refuses. -/
lemma exists_make_bind {α : Type} {c : ClaimFields} {f : ResearchClaimRecord → α} :
    (∃ a, (ResearchClaimRecord.make c >>= fun claim => .ok (f claim)) = .ok a) ↔ c.Valid := by
  simp only [bind_ok, ResearchClaimRecord.make_ok]
  constructor
  · rintro ⟨_, claim, rfl, -⟩
    exact claim.valid
  · intro h
    exact ⟨_, ⟨c, h⟩, rfl, rfl⟩

/-- `some <$>` raises what its argument raises. -/
lemma exists_some_map {α : Type} {x : Except String α} :
    (∃ r, some <$> x = .ok r) ↔ ∃ a, x = .ok a := by
  cases x <;> simp [Functor.map, Except.map]

/-- A proposal without a number needs a code. -/
lemma exists_basicProposal {claimType : ClaimType} (hplain : claimType.numeric = false)
    {code : String} :
    (∃ p, basicProposal supply item claimType code = .ok p) ↔ isCode code = true := by
  refine exists_make_bind.trans ⟨fun h => h.code, fun hcode => ?_⟩
  exact {
    code := hcode
    unit_le := by simp
    currency := by simp
    period_le := by simp
    basis_le := by simp
    shape := by simp [hplain]
    candidate := by simp }

lemma exists_awareUtc {time : ParsedTime} :
    (∃ asOf, awareUtc time = .ok asOf) ↔ ∃ asOf, time = .aware asOf true := by
  cases time with
  | naive => simp [awareUtc]
  | aware asOf utc => cases utc <;> simp [awareUtc]

/-- A proposal with a number needs what the contract asks of it. -/
lemma exists_numericProposal {n : NumericPayload} :
    (∃ p, numericProposal supply item n = .ok p) ↔ n.Fits item.payload := by
  cases htime : awareUtc n.asOf with
  | error e =>
      have hutc : ¬ ∃ asOf, n.asOf = .aware asOf true := by simp [← exists_awareUtc, htime]
      simp only [numericProposal, htime, bind, Except.bind, reduceCtorEq, exists_false, false_iff]
      exact fun h => hutc h.utc
  | ok asOf =>
      rw [numericProposal, htime]
      refine exists_make_bind.trans ⟨fun h => ?_, fun h => ?_⟩
      · exact {
          code := h.code
          unit_le := h.unit_le _ rfl
          currency := h.currency
          period_le := h.period_le _ rfl
          basis_le := h.basis_le _ rfl
          utc := exists_awareUtc.mp ⟨asOf, htime⟩ }
      · exact {
          code := h.code
          unit_le := by simpa using h.unit_le
          currency := h.currency
          period_le := by simpa using h.period_le
          basis_le := by simpa using h.basis_le
          shape := by simp
          candidate := by simp }

/-- A code read from a payload, or its default. -/
lemma exists_codeOr {claimType : ClaimType} (hplain : claimType.numeric = false)
    {key fallback : String} (hfallback : isCode fallback = true) :
    (∃ r, (do
      let code ← codeOr item.payload key fallback
      some <$> basicProposal supply item claimType code) = .ok r) ↔
      CodeOrAbsent item.payload key := by
  rw [CodeOrAbsent]
  cases hget : item.payload.get key with
  | none => 
      have hcode : codeOr item.payload key fallback = .ok fallback := by rw [codeOr, hget]
      simp [hcode, ok_bind, exists_some_map, exists_basicProposal hplain, hfallback]
  | some v =>
      cases v with
      | str code =>
          have hcode : codeOr item.payload key fallback = .ok code := by rw [codeOr, hget]
          simp [hcode, ok_bind, exists_some_map, exists_basicProposal hplain]
      | _ => simp [codeOr, hget, bind, Except.bind]

lemma exists_textCode {claimType : ClaimType} (hplain : claimType.numeric = false) {key : String} :
    (∃ r, (match item.payload.text key with
      | some code => some <$> basicProposal supply item claimType code
      | none => return none) = .ok r) ↔ TextIsCode item.payload key := by
  rw [TextIsCode]
  cases item.payload.text key with
  | none => simp [pure, Except.pure]
  | some code => simp [exists_some_map, exists_basicProposal hplain]

/-- A number, or the limitation that stands for a payload that does not parse. -/
lemma exists_number :
    (∃ r, (match numericPayload parsers item.payload with
      | some n => some <$> numericProposal supply item n
      | none => some <$> basicProposal supply item .limitation "METRIC_INPUT_INCOMPLETE") =
        .ok r) ↔ ∀ n : NumericPayload, n.ReadFrom parsers item.payload → n.Fits item.payload := by
  simp only [← numericPayload_iff]
  cases numericPayload parsers item.payload with
  | some n => simp [exists_some_map, exists_numericProposal]
  | none =>
      have hlimitation : ∃ p, basicProposal supply item .limitation "METRIC_INPUT_INCOMPLETE" =
          .ok p := (exists_basicProposal rfl).mpr (by decide +kernel)
      simpa [exists_some_map] using hlimitation

/-! ## The builder -/

/-- **The builder returns from a record exactly when it is expressible.** -/
lemma exists_propose :
    (∃ r, propose parsers supply mode item = .ok r) ↔ Expressible parsers mode item := by
  by_cases hblocked : item.evidenceType = .blockedCapability
  · rw [propose, if_pos hblocked]
    refine (exists_codeOr rfl (by decide +kernel)).trans ?_
    simp [Expressible, Considered, hblocked]
  · rw [propose, if_neg hblocked]
    by_cases hvalid : item.status = .valid
    swap
    · rw [if_pos hvalid]
      simp [Expressible, Considered, hblocked, hvalid, pure, Except.pure]
    rw [if_neg (not_not_intro hvalid)]
    by_cases horigin : item.syntheticStatus = .unknown ∨
        (item.syntheticStatus = .syntheticTestOnly ∧ mode ≠ .syntheticTestOnly)
    · rw [if_pos horigin]
      have hnot : ¬ Considered mode item := by
        rintro (hkind | ⟨-, hknown, htest⟩)
        · exact hblocked hkind
        · rcases horigin with h | ⟨h, hmode⟩
          · exact hknown h
          · exact hmode (htest h)
      simp [Expressible, hnot, pure, Except.pure]
    · have hconsidered : Considered mode item := by
        obtain ⟨hknown, htest⟩ := not_or.mp horigin
        exact .inr ⟨hvalid, hknown, fun h => by_contra fun hmode => htest ⟨h, hmode⟩⟩
      rw [if_neg horigin, Expressible, forall_prop_of_true hconsidered]
      -- One case for each kind of evidence, as the builder dispatches.
      cases hkind : item.evidenceType with
      | blockedCapability => exact absurd hkind hblocked
      | dataQuality => exact exists_codeOr rfl (by decide +kernel)
      | derivedMetric | structuredFact => exact exists_number
      | documentCitation | corporateAction => exact exists_textCode rfl
      | securityMaster =>
          have hidentity : ∃ p, basicProposal supply item .identity "SECURITY_IDENTITY" = .ok p :=
            (exists_basicProposal rfl).mpr (by decide +kernel)
          dsimp only
          split
          case isTrue => simpa [exists_some_map] using hidentity
          case isFalse => simp [pure, Except.pure]
      | snapshot | metricLineage => simp [pure, Except.pure]

/-- **When the builder returns.**  It returns a list of claims exactly when every record of the run
is expressible; any other record ends the run. -/
theorem proposeClaims_returns_iff (parsers : Parsers) (supply : Supply) (mode : ResearchMode)
    (runId : Uuid) (evidence : List ResearchEvidenceRecord) :
    (∃ claims, proposeClaims parsers supply mode runId evidence = .ok claims) ↔
      ∀ item ∈ evidence, item.runId = runId → Expressible parsers mode item := by
  rw [proposeClaims, exists_collect_ok]
  simp only [List.mem_filter, decide_eq_true_eq, and_imp, exists_map_ok, exists_propose]

/-- Parsers that read the texts of the record below. -/
def dateParsers : Parsers where
  decimal s := if s = "12.5" then some (.finite ⟨false, 125, -1⟩) else none
  fromisoformat s := if s = "2024-12-31" then some .naive else none

/-- The reported revenue, with a date for its time. -/
def datedRevenue : ResearchEvidenceRecord :=
  { revenue with
    payload := [("metric_code", .str "REVENUE"), ("value", .str "12.5"), ("unit", .str "USD_M"),
      ("currency_code", .str "USD"), ("period", .str "FY2024"), ("as_of_time", .str "2024-12-31"),
      ("metric_basis", .str "reported")] }

/-- A time without an offset parses, and ends the run. -/
theorem datedRevenue_raises :
    ¬ ∃ claims, proposeClaims dateParsers freshSupply .realResearch 1 [datedRevenue] =
      .ok claims := by
  rintro ⟨claims, h⟩
  have hraised : (proposeClaims dateParsers freshSupply .realResearch 1
      [datedRevenue]).toOption.isSome = false := by decide +kernel
  simp [h, Except.toOption] at hraised

end StockResearch.ResearchAgent
