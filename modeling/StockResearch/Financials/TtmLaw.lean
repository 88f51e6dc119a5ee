import StockResearch.Financials.BalanceLaw

/-!
# Trailing twelve months: service and reference

The service decides by its own checks which facts make up the trailing twelve months, and computes
them with a formula.  `calculate_ttm_four_quarters` and `calculate_ttm_bridge` are the reference:
they repeat the checks on periods and publication, and compute the sum themselves.

**`ttm_reference`**: what the service binds, the reference accepts, and both compute the same, down
to a signal of the decimal arithmetic.

The values of the reference carry what the facts do not: a security, a fact nature, a filing date and
a form.  `Represents` says which of them belong to a fact.
-/

namespace StockResearch.Financials

open PyTime PyDecimal

/-! ## Facts as financial values -/

/-- A financial value `v` of the security `s` that stands for a fact of the concept `c`. -/
structure Represents (s : Uuid) (c : CanonicalConcept) (fact : Fact) (v : FinancialValue) : Prop where
  factId : v.factId = fact.id
  securityId : v.securityId = s
  concept : v.concept = c
  fiscalYear : v.period.fiscalYear = fact.fiscalYear
  fiscalQuarter : v.period.fiscalQuarter = fact.fiscalQuarter
  fiscalPeriod : v.period.fiscalPeriod = fact.fiscalPeriod
  periodType : v.period.periodType = fact.periodType
  factNature : v.period.factNature = (getConcept c).factNature
  periodStart : v.period.periodStart = fact.periodStart
  periodEnd : v.period.periodEnd = fact.periodEnd
  durationDays : v.period.durationDays = fact.durationDays
  isCumulative : v.period.isCumulative = fact.isCumulative
  isSingleQuarter : v.period.isSingleQuarter = fact.isSingleQuarter
  accountingStandard : v.period.accountingStandard = fact.accountingStandard
  value : v.value = fact.normalizedValue
  normalizedUnit : v.normalizedUnit = fact.normalizedUnit
  currencyCode : v.currencyCode = fact.currencyCode
  accountingBasis : v.accountingBasis = fact.accountingStandard
  sourcePublishedAt : v.sourcePublishedAt = some fact.sourcePublishedAt

/-- The reference for a binding: four quarters, or the bridge over its three facts. -/
def referenceTtm (selected : Selected) (values : List FinancialValue) (cutoff : Instant) :
    Except CalculationError DerivedFinancialValue :=
  if (selected.lookup .quarter1).isSome then calculateTtmFourQuarters values cutoff
  else
    match values with
    | [annual, latestYtd, priorYtd] => calculateTtmBridge annual latestYtd priorYtd cutoff
    | _ => .error (.calculationBlocked "TTM bridge requires three facts")

/-! ## Checks that pass -/

lemma blockIf_bind_of_not {α : Type} {p : Prop} [Decidable p] {text : String}
    {f : Unit → Except CalculationError α} (h : ¬ p) : (blockIf p text >>= f) = f () := by
  unfold blockIf Checked.check
  rw [if_neg h]
  rfl

lemma forM_of_ok {α ε : Type} {f : α → Except ε Unit} {xs : List α} (h : ∀ x ∈ xs, f x = .ok ()) :
    xs.forM f = .ok () := by
  induction xs with
  | nil => rfl
  | cons x xs ih =>
      change (f x >>= fun _ => xs.forM f) = _
      rw [h x (List.mem_cons_self ..), Checked.ok_bind]
      exact ih fun y hy => h y (List.mem_cons_of_mem _ hy)

/-- Values that agree in all that the reference compares. -/
structure Compatible (a b : FinancialValue) : Prop where
  securityId : b.securityId = a.securityId
  concept : b.concept = a.concept
  currencyCode : b.currencyCode = a.currencyCode
  normalizedUnit : b.normalizedUnit = a.normalizedUnit
  accountingBasis : b.accountingBasis = a.accountingBasis

lemma requireCompatible_ok {first : FinancialValue} {rest : List FinancialValue}
    (h : ∀ value ∈ rest, Compatible first value) : requireCompatible first rest = .ok () := by
  unfold requireCompatible
  refine forM_of_ok fun value hvalue => ?_
  have hcompatible := h value hvalue
  rw [blockIf_bind_of_not (not_not.mpr hcompatible.securityId),
    blockIf_bind_of_not (not_not.mpr hcompatible.concept),
    blockIf_bind_of_not (not_not.mpr hcompatible.currencyCode),
    blockIf_bind_of_not (not_not.mpr hcompatible.normalizedUnit)]
  exact Checked.check_ok.mpr (not_not.mpr hcompatible.accountingBasis)

lemma requireVisible_ok {value : FinancialValue} {published cutoff : Instant}
    (hpublished : value.sourcePublishedAt = some published) (hcutoff : published ≤ cutoff) :
    requireVisible value cutoff = .ok () := by
  unfold requireVisible
  rw [hpublished]
  exact Checked.check_ok.mpr (not_lt.mpr hcutoff)

/-- The reference sums four quarters that pass its checks. -/
lemma calculateTtmFourQuarters_ok {q₁ q₂ q₃ q₄ : FinancialValue} {cutoff : Instant}
    {indexes : List Int}
    (hsorted : [q₁, q₂, q₃, q₄].Pairwise fun a b => a.period.periodEnd ≤ b.period.periodEnd)
    (hcompatible : ∀ q ∈ [q₂, q₃, q₄], Compatible q₁ q)
    (httm : (getConcept q₁.concept).supportsTtm = true ∧
      (getConcept q₁.concept).supportsDuration = true)
    (hflags : ∀ q ∈ [q₁, q₂, q₃, q₄],
      q.period.isCumulative = false ∧ q.period.isSingleQuarter = true)
    (hvisible : ∀ q ∈ [q₁, q₂, q₃, q₄], requireVisible q cutoff = .ok ())
    (hindexes : [q₁, q₂, q₃, q₄].mapM (quarterIndex ·.period) = .ok indexes)
    (hconsecutive : consecutive indexes) :
    (calculateTtmFourQuarters [q₁, q₂, q₃, q₄] cutoff).map (·.value) =
      exactly (sumDecimals [q₁.value, q₂.value, q₃.value, q₄.value]) := by
  have hnot : ¬ ∃ q ∈ [q₁, q₂, q₃, q₄],
      q.period.isCumulative = true ∨ q.period.isSingleQuarter = false := by
    rintro ⟨q, hq, hflag⟩
    have := hflags q hq
    simp_all
  unfold calculateTtmFourQuarters
  rw [hsorted.insertionSort_eq]
  dsimp only
  rw [requireCompatible_ok hcompatible, Checked.ok_bind,
    blockIf_bind_of_not (by simp [httm]), blockIf_bind_of_not hnot, forM_of_ok hvisible,
    Checked.ok_bind, hindexes, Checked.ok_bind, blockIf_bind_of_not (not_not.mpr hconsecutive)]
  simp only [List.map_cons, List.map_nil]
  cases sumDecimals [q₁.value, q₂.value, q₃.value, q₄.value] <;> rfl

/-- The reference takes lengths to be comparable exactly when the service does. -/
lemma compareDurations_comparable (a b : Fact) :
    (compareDurations a.durationDays b.durationDays).comparable = durationsAreComparable a b := by
  unfold compareDurations durationsAreComparable
  cases a.durationDays with
  | none => cases b.durationDays <;> rfl
  | some m =>
      cases b.durationDays with
      | none => rfl
      | some n =>
          dsimp only
          split_ifs <;> simp <;> omega

/-- The reference bridges a year over two year-to-date facts that pass its checks. -/
lemma calculateTtmBridge_ok {a l p : FinancialValue} {cutoff : Instant}
    (hcompatible : ∀ v ∈ [l, p], Compatible a v)
    (httm : (getConcept a.concept).supportsTtm = true ∧
      (getConcept a.concept).supportsDuration = true)
    (hvisible : ∀ v ∈ [a, l, p], requireVisible v cutoff = .ok ())
    (hannual : a.period.periodType = .annual ∧ a.period.isCumulative = true)
    (hytd : l.period.isCumulative = true ∧ p.period.isCumulative = true)
    (hlatest : l.period.fiscalYear = a.period.fiscalYear + 1)
    (hprior : p.period.fiscalYear = a.period.fiscalYear)
    (hquarter : l.period.fiscalQuarter = p.period.fiscalQuarter)
    (hcomparable : (assessPeriodComparability l.period p.period).comparable = true) :
    (calculateTtmBridge a l p cutoff).map (·.value) =
      exactly (bridgeValue a.value l.value p.value) := by
  unfold calculateTtmBridge
  dsimp only
  rw [requireCompatible_ok hcompatible, Checked.ok_bind, blockIf_bind_of_not (by simp [httm]),
    forM_of_ok hvisible, Checked.ok_bind, blockIf_bind_of_not (by simp [hannual]),
    blockIf_bind_of_not (by simp [hytd]), blockIf_bind_of_not (not_not.mpr hlatest),
    blockIf_bind_of_not (not_not.mpr hprior), blockIf_bind_of_not (not_not.mpr hquarter),
    blockIf_bind_of_not (by simp [hcomparable])]
  cases bridgeValue a.value l.value p.value <;> rfl

/-! ## What the service binds -/

lemma exists_four {α : Type} : ∀ {l : List α}, l.length = 4 → ∃ a b c d, l = [a, b, c, d]
  | [a, b, c, d], _ => ⟨a, b, c, d, rfl⟩

/-- A binding is four quarters, or a year with two year-to-date facts. -/
lemma bindTtmInputs_cases {conceptFacts : List Fact} (h : bindTtmInputs conceptFacts ≠ []) :
    (∃ f₁ f₂ f₃ f₄, bindTtmInputs conceptFacts = quarterRoles.zip [f₁, f₂, f₃, f₄] ∧
      [f₁, f₂, f₃, f₄].Sublist conceptFacts ∧ (∀ f ∈ [f₁, f₂, f₃, f₄], isPlainQuarter f) ∧
      quartersAreComparable [f₁, f₂, f₃, f₄]) ∨
    ∃ annual latestYtd priorYtd,
      bindTtmInputs conceptFacts =
        [(.latestFy, annual), (.latestYtd, latestYtd), (.priorYtd, priorYtd)] ∧
      (∀ f ∈ [annual, latestYtd, priorYtd], f ∈ conceptFacts) ∧ isCumulativeYear annual ∧
      isLatestYtdOf annual latestYtd ∧ isPriorYtdOf annual latestYtd priorYtd ∧
      sameTtmBasis [annual, latestYtd, priorYtd] ∧ durationsAreComparable latestYtd priorYtd := by
  unfold bindTtmInputs at h ⊢
  dsimp only at h ⊢
  split
  next hquarters =>
    left
    obtain ⟨hlength, hcomparable⟩ := hquarters
    have hsub : (lastFour (conceptFacts.filter isPlainQuarter)).Sublist
        (conceptFacts.filter isPlainQuarter) := List.drop_sublist _ _
    obtain ⟨f₁, f₂, f₃, f₄, hlist⟩ := exists_four hlength
    rw [hlist] at hsub hcomparable ⊢
    refine ⟨f₁, f₂, f₃, f₄, rfl, hsub.trans List.filter_sublist, ?_, hcomparable⟩
    intro f hf
    exact (List.mem_filter.mp (hsub.subset hf)).2
  next hquarters =>
    right
    rw [if_neg hquarters] at h
    cases hyear : (conceptFacts.filter isCumulativeYear).reverse.findSome?
        (bridgeFromYear conceptFacts) with
    | none => simp [hyear] at h
    | some selected =>
        obtain ⟨annual, hannual, hbridge⟩ := List.exists_of_findSome?_eq_some hyear
        unfold bridgeFromYear at hbridge
        obtain ⟨latestYtd, hlatest, hbridge⟩ := List.exists_of_findSome?_eq_some hbridge
        obtain ⟨priorYtd, hprior, hbridge⟩ := Option.bind_eq_some_iff.mp hbridge
        unfold bridgeOver at hbridge
        obtain ⟨hannual, hisAnnual⟩ := List.mem_filter.mp (List.mem_reverse.mp hannual)
        obtain ⟨hlatest, hisLatest⟩ := List.mem_filter.mp (List.mem_reverse.mp hlatest)
        obtain ⟨hprior, hisPrior⟩ := List.mem_filter.mp (List.mem_of_getLast? hprior)
        split at hbridge
        next hbasis =>
          refine ⟨annual, latestYtd, priorYtd, (Option.some.inj hbridge).symm, ?_, hisAnnual,
            hisLatest, hisPrior, hbasis⟩
          simp [hannual, hlatest, hprior]
        next => cases hbridge

/-! ## What the formula computes -/

lemma create_ok {value : Option Decimal} {unit : String} {currencyCode : Option String}
    {input : FormulaInput} (h : FormulaInput.create value unit currencyCode = .ok input) :
    input = ⟨value, unit, currencyCode⟩ := by
  unfold FormulaInput.create at h
  rw [Checked.check_bind_ok, Checked.check_bind_ok] at h
  exact (Except.ok.inj h.2.2).symm

/-- The input of a formula from a bound fact. -/
def boundInput (item : Role × Fact) : Role × FormulaInput :=
  (item.1, ⟨some item.2.normalizedValue, item.2.normalizedUnit, item.2.currencyCode⟩)

lemma formulaInputs_ok {selected : Selected} {inputs : FormulaInputs}
    (h : formulaInputs selected = .ok inputs) : inputs = selected.map boundInput := by
  induction selected generalizing inputs with
  | nil =>
      cases h
      rfl
  | cons item selected ih =>
      unfold formulaInputs at h
      rw [List.mapM_cons] at h
      obtain ⟨first, hfirst, h⟩ := Checked.bind_ok.mp h
      obtain ⟨rest, hrest, h⟩ := Checked.bind_ok.mp h
      obtain ⟨input, hinput, hfirst⟩ := Checked.bind_ok.mp hfirst
      cases hfirst
      cases h
      rw [create_ok hinput, ih hrest]
      rfl

/-- A bound fact as the formula requires it. -/
def requiredFact (fact : Fact) : RequiredInput :=
  ⟨fact.normalizedValue, fact.normalizedUnit, fact.currencyCode⟩

lemma sameAmountBasis_ok {first : Fact} {rest : List Fact} (h : sameTtmBasis (first :: rest)) :
    ∃ currency, sameAmountBasis (requiredFact first) (rest.map requiredFact) =
      .ok (currency, first.normalizedUnit) := by
  obtain ⟨hcurrency, hrest⟩ := h
  obtain ⟨currency, hcurrency⟩ := Option.ne_none_iff_exists'.mp hcurrency
  refine ⟨currency, ?_⟩
  have hcurrencies : ¬ ∃ value ∈ rest.map requiredFact, value.currencyCode ≠ some currency := by
    rintro ⟨value, hvalue, hne⟩
    obtain ⟨fact, hfact, rfl⟩ := List.mem_map.mp hvalue
    exact hne ((hrest fact hfact).2.1.trans hcurrency)
  have hunits : ¬ ∃ value ∈ rest.map requiredFact, value.unit ≠ (requiredFact first).unit := by
    rintro ⟨value, hvalue, hne⟩
    obtain ⟨fact, hfact, rfl⟩ := List.mem_map.mp hvalue
    exact hne (hrest fact hfact).1
  unfold sameAmountBasis
  rw [show (requiredFact first).currencyCode = some currency from hcurrency]
  simp only [Checked.require, Checked.ok_bind, Checked.check, if_neg hcurrencies, if_neg hunits]
  rfl

/-- A sum over facts on one basis. -/
lemma signedAmount_ok {code : MetricCode} {roles : List Role} {inputs : FormulaInputs}
    {operation : List Decimal → Except Signal Decimal} {first : Fact} {rest : List Fact}
    (hrequired : required inputs roles = .ok ((first :: rest).map requiredFact))
    (hbasis : sameTtmBasis (first :: rest)) :
    (signedAmount code roles operation inputs).map (·.value) =
      (compute (operation ((first :: rest).map (·.normalizedValue)))).map some := by
  obtain ⟨currency, hsame⟩ := sameAmountBasis_ok hbasis
  unfold signedAmount
  rw [hrequired]
  simp only [Checked.ok_bind, List.map_cons, hsame, List.map_map]
  change Except.map _ (compute (operation ((first :: rest).map (·.normalizedValue))) >>= _) = _
  simp only [List.map_cons]
  cases compute (operation (first.normalizedValue :: rest.map (·.normalizedValue))) <;> rfl

lemma implementation_ttm {code : MetricCode} {concept : String}
    (h : ttmConcept code = some concept) : implementation code = ttmAmount code := by
  cases code <;> first | rfl | cases h

lemma executeFormula_value {code : MetricCode} {inputs : FormulaInputs} {x : Except Signal Decimal}
    (h : (implementation code inputs).map (·.value) = (compute x).map some) :
    (executeFormula code inputs).map (·.value) = x.map some := by
  unfold executeFormula
  rw [metricCode_getFormula]
  cases x with
  | error signal =>
      cases himplementation : implementation code inputs with
      | ok result => simp [himplementation, compute, Except.map, Except.mapError] at h
      | error e =>
          simp only [himplementation, compute, Except.map, Except.mapError, Except.error.injEq] at h
          rw [h]
          rfl
  | ok value =>
      cases himplementation : implementation code inputs with
      | ok result =>
          simp only [himplementation, compute, Except.map, Except.mapError, Except.ok.injEq] at h
          simp [Except.map, h]
      | error e => simp [himplementation, compute, Except.map, Except.mapError] at h

lemma executeFormula_quarters {code : MetricCode} {concept : String}
    (hcode : ttmConcept code = some concept) {f₁ f₂ f₃ f₄ : Fact}
    (hbasis : sameTtmBasis [f₁, f₂, f₃, f₄]) :
    (executeFormula code ((quarterRoles.zip [f₁, f₂, f₃, f₄]).map boundInput)).map (·.value) =
      (sumDecimals [f₁.normalizedValue, f₂.normalizedValue, f₃.normalizedValue,
        f₄.normalizedValue]).map some := by
  refine executeFormula_value ?_
  rw [implementation_ttm hcode, ttmAmount, if_pos]
  · exact signedAmount_ok rfl hbasis
  · simp only [quarterRoles, List.forall_mem_cons]
    exact ⟨rfl, rfl, rfl, rfl, by simp⟩

lemma executeFormula_bridge {code : MetricCode} {concept : String}
    (hcode : ttmConcept code = some concept) {a l p : Fact} (hbasis : sameTtmBasis [a, l, p]) :
    (executeFormula code ([(.latestFy, a), (.latestYtd, l), (.priorYtd, p)].map boundInput)).map
        (·.value) =
      (bridgeValue a.normalizedValue l.normalizedValue p.normalizedValue).map some := by
  refine executeFormula_value ?_
  rw [implementation_ttm hcode, ttmAmount, if_neg, if_pos]
  · exact signedAmount_ok rfl hbasis
  · simp only [bridgeRoles, List.forall_mem_cons]
    exact ⟨rfl, rfl, rfl, by simp⟩
  · intro h
    exact Bool.false_ne_true (h .quarter1 (by simp [quarterRoles]))

/-! ## Agreement -/

/-- The concepts of trailing twelve months are amounts of a duration. -/
lemma getConcept_of_ttm {code : MetricCode} {c : CanonicalConcept}
    (h : ttmConcept code = some c.value) : getConcept c = durationAmount c := by
  have hvalue : c.value = "REVENUE" ∨ c.value = "NET_INCOME_ATTRIBUTABLE_TO_PARENT" ∨
      c.value = "EBITDA" := by
    cases code <;> simp [ttmConcept] at h <;> simp [← h]
  cases c <;> first | rfl | (exfalso; revert hvalue; decide)

/-- Values of one basis agree in all that the reference compares. -/
lemma compatible_of_basis {s : Uuid} {c : CanonicalConcept} {first fact : Fact} {rest : List Fact}
    {v w : FinancialValue} (hbasis : sameTtmBasis (first :: rest)) (hfact : fact ∈ rest)
    (hv : Represents s c first v) (hw : Represents s c fact w) : Compatible v w := by
  obtain ⟨hunit, hcurrency, hstandard⟩ := hbasis.2 fact hfact
  exact {
    securityId := by rw [hw.securityId, hv.securityId]
    concept := by rw [hw.concept, hv.concept]
    currencyCode := by rw [hw.currencyCode, hv.currencyCode, hcurrency]
    normalizedUnit := by rw [hw.normalizedUnit, hv.normalizedUnit, hunit]
    accountingBasis := by rw [hw.accountingBasis, hv.accountingBasis, hstandard] }

/-- The reference counts quarters as the service does. -/
lemma quarterIndex_of_represents {s : Uuid} {c : CanonicalConcept} {facts : List Fact}
    {values : List FinancialValue} {indexes : List Int}
    (hvalues : List.Forall₂ (Represents s c) facts values)
    (h : facts.mapM factQuarterIndex = some indexes) :
    values.mapM (quarterIndex ·.period) = .ok indexes := by
  induction hvalues generalizing indexes with
  | nil =>
      cases h
      rfl
  | @cons fact v facts values hv _ ih =>
      rw [List.mapM_cons] at h
      obtain ⟨index, hindex, h⟩ := Option.bind_eq_some_iff.mp h
      obtain ⟨rest, hrest, h⟩ := Option.bind_eq_some_iff.mp h
      cases h
      obtain ⟨quarter, hquarter, rfl⟩ := Option.map_eq_some_iff.mp hindex
      have hv : quarterIndex v.period = .ok (fact.fiscalYear * 4 + quarter - 1) := by
        unfold quarterIndex
        rw [hv.fiscalQuarter, hv.fiscalYear, hquarter]
        rfl
      rw [List.mapM_cons, hv, Checked.ok_bind, ih hrest]
      rfl

/-- Four quarters that the service binds. -/
lemma reference_quarters {code : MetricCode} {c : CanonicalConcept}
    (hcode : ttmConcept code = some c.value) {s : Uuid} {cutoff : Instant} {f₁ f₂ f₃ f₄ : Fact}
    {values : List FinancialValue}
    (hsorted : [f₁, f₂, f₃, f₄].Pairwise fun a b => a.periodEnd ≤ b.periodEnd)
    (hplain : ∀ f ∈ [f₁, f₂, f₃, f₄], isPlainQuarter f)
    (hcomparable : quartersAreComparable [f₁, f₂, f₃, f₄])
    (hvalues : List.Forall₂ (Represents s c) [f₁, f₂, f₃, f₄] values)
    (hcutoff : ∀ f ∈ [f₁, f₂, f₃, f₄], f.sourcePublishedAt ≤ cutoff) :
    (calculateTtmFourQuarters values cutoff).map (·.value) =
      exactly (sumDecimals [f₁.normalizedValue, f₂.normalizedValue, f₃.normalizedValue,
        f₄.normalizedValue]) := by
  obtain ⟨hbasis, indexes, hindexes, hconsecutive⟩ := hcomparable
  have hindex := quarterIndex_of_represents hvalues hindexes
  rcases hvalues with _ | ⟨h₁, _ | ⟨h₂, _ | ⟨h₃, _ | ⟨h₄, ⟨⟩⟩⟩⟩⟩
  rename_i q₁ q₂ q₃ q₄
  have hmem : ∀ q ∈ [q₁, q₂, q₃, q₄], ∃ f ∈ [f₁, f₂, f₃, f₄], Represents s c f q := by
    simp only [List.forall_mem_cons]
    exact ⟨⟨f₁, by simp, h₁⟩, ⟨f₂, by simp, h₂⟩, ⟨f₃, by simp, h₃⟩, ⟨f₄, by simp, h₄⟩, by simp⟩
  rw [← h₁.value, ← h₂.value, ← h₃.value, ← h₄.value]
  refine calculateTtmFourQuarters_ok ?_ ?_ ?_ ?_ ?_ hindex hconsecutive
  · simpa [h₁.periodEnd, h₂.periodEnd, h₃.periodEnd, h₄.periodEnd] using hsorted
  · simp only [List.forall_mem_cons]
    exact ⟨compatible_of_basis hbasis (by simp) h₁ h₂, compatible_of_basis hbasis (by simp) h₁ h₃,
      compatible_of_basis hbasis (by simp) h₁ h₄, by simp⟩
  · rw [h₁.concept, getConcept_of_ttm hcode]
    exact ⟨rfl, rfl⟩
  · intro q hq
    obtain ⟨f, hf, hrepresents⟩ := hmem q hq
    have hflags : f.isSingleQuarter = true ∧ f.isCumulative = false := by
      simpa [isPlainQuarter] using hplain f hf
    exact ⟨hrepresents.isCumulative.trans hflags.2, hrepresents.isSingleQuarter.trans hflags.1⟩
  · intro q hq
    obtain ⟨f, hf, hrepresents⟩ := hmem q hq
    exact requireVisible_ok hrepresents.sourcePublishedAt (hcutoff f hf)

/-- A year and two year-to-date facts that the service binds. -/
lemma reference_bridge {code : MetricCode} {c : CanonicalConcept}
    (hcode : ttmConcept code = some c.value) {s : Uuid} {cutoff : Instant} {a l p : Fact}
    {u v w : FinancialValue} (hannual : isCumulativeYear a) (hlatest : isLatestYtdOf a l)
    (hprior : isPriorYtdOf a l p) (hbasis : sameTtmBasis [a, l, p])
    (hdurations : durationsAreComparable l p) (hu : Represents s c a u) (hv : Represents s c l v)
    (hw : Represents s c p w) (hcutoff : ∀ f ∈ [a, l, p], f.sourcePublishedAt ≤ cutoff) :
    (calculateTtmBridge u v w cutoff).map (·.value) =
      exactly (bridgeValue a.normalizedValue l.normalizedValue p.normalizedValue) := by
  simp only [isCumulativeYear, isLatestYtdOf, isPriorYtdOf, Bool.and_eq_true,
    decide_eq_true_eq] at hannual hlatest hprior
  obtain ⟨hannualType, hannualCumulative⟩ := hannual
  obtain ⟨⟨hlatestYear, hlatestCumulative⟩, -⟩ := hlatest
  obtain ⟨⟨⟨⟨hpriorYear, hquarter⟩, htype⟩, hpriorCumulative⟩, -⟩ := hprior
  obtain ⟨hunitL, hcurrencyL, hstandardL⟩ := hbasis.2 l (by simp)
  obtain ⟨hunitP, hcurrencyP, hstandardP⟩ := hbasis.2 p (by simp)
  rw [← hu.value, ← hv.value, ← hw.value]
  refine calculateTtmBridge_ok ?_ ?_ ?_ ?_ ?_ ?_ ?_ ?_ ?_
  · simp only [List.forall_mem_cons]
    exact ⟨compatible_of_basis hbasis (by simp) hu hv, compatible_of_basis hbasis (by simp) hu hw,
      by simp⟩
  · rw [hu.concept, getConcept_of_ttm hcode]
    exact ⟨rfl, rfl⟩
  · simp only [List.forall_mem_cons] at hcutoff ⊢
    exact ⟨requireVisible_ok hu.sourcePublishedAt hcutoff.1,
      requireVisible_ok hv.sourcePublishedAt hcutoff.2.1,
      requireVisible_ok hw.sourcePublishedAt hcutoff.2.2.1, by simp⟩
  · exact ⟨hu.periodType.trans hannualType, hu.isCumulative.trans hannualCumulative⟩
  · exact ⟨hv.isCumulative.trans hlatestCumulative, hw.isCumulative.trans hpriorCumulative⟩
  · rw [hv.fiscalYear, hu.fiscalYear, hlatestYear]
  · rw [hw.fiscalYear, hu.fiscalYear, hpriorYear]
  · rw [hv.fiscalQuarter, hw.fiscalQuarter, hquarter]
  · simp [assessPeriodComparability, hv.factNature, hw.factNature, hv.periodType, hw.periodType,
      htype, hv.accountingStandard, hw.accountingStandard, hstandardL, hstandardP, hv.durationDays,
      hw.durationDays, compareDurations_comparable, hdurations]

/-- One result for the reference and the formula gives the two halves of the agreement. -/
lemma agree_of_value {reference : Except CalculationError DerivedFinancialValue}
    {formula : Except Signal MetricResult} {x : Except Signal Decimal}
    (hreference : reference.map (·.value) = exactly x)
    (hformula : formula.map (·.value) = x.map some) :
    reference.map (fun derived => some derived.value) =
      (formula.mapError .signal).map (·.value) := by
  cases x with
  | error signal =>
      cases reference <;> cases formula <;> simp_all [Except.map, exactly, Except.mapError]
  | ok value =>
      cases reference <;> cases formula <;> simp_all [Except.map, exactly, Except.mapError]

lemma not_blocked_of_value {reference : Except CalculationError DerivedFinancialValue}
    {x : Except Signal Decimal} (h : reference.map (·.value) = exactly x) (text : String) :
    reference ≠ .error (.calculationBlocked text) := by
  rintro rfl
  cases x <;> cases h

/-- **What the service binds, the reference accepts**, and it computes what the formula computes.
The cutoff is no earlier than the publication of the bound facts; the formula runs on the inputs that
the binding gives. -/
theorem ttm_reference (code : MetricCode) (c : CanonicalConcept)
    (hcode : ttmConcept code = some c.value) (facts : List Fact) (s : Uuid) (cutoff : Instant)
    (values : List FinancialValue) (hne : bindTtmInputs (factsForConcept facts c.value) ≠ [])
    (hvalues : List.Forall₂ (Represents s c)
      ((bindTtmInputs (factsForConcept facts c.value)).map (·.2)) values)
    (hcutoff : ∀ item ∈ bindTtmInputs (factsForConcept facts c.value),
      item.2.sourcePublishedAt ≤ cutoff) :
    (∀ text, referenceTtm (bindTtmInputs (factsForConcept facts c.value)) values cutoff ≠
        .error (.calculationBlocked text)) ∧
      ∀ inputs, formulaInputs (bindTtmInputs (factsForConcept facts c.value)) = .ok inputs →
        (referenceTtm (bindTtmInputs (factsForConcept facts c.value)) values cutoff).map
            (fun derived => some derived.value) =
          ((executeFormula code inputs).mapError .signal).map (·.value) := by
  rcases bindTtmInputs_cases hne with ⟨f₁, f₂, f₃, f₄, hbind, hsub, hplain, hcomparable⟩ |
    ⟨a, l, p, hbind, -, hannual, hlatest, hprior, hbasis, hdurations⟩
  · rw [hbind] at hvalues hcutoff ⊢
    have hsorted := (factsForConcept_sorted facts c.value).sublist hsub
    have hcutoff' : ∀ f ∈ [f₁, f₂, f₃, f₄], f.sourcePublishedAt ≤ cutoff := by
      simpa [quarterRoles] using hcutoff
    have hreference := reference_quarters hcode hsorted hplain hcomparable hvalues hcutoff'
    refine ⟨not_blocked_of_value hreference, ?_⟩
    intro inputs hinputs
    rw [formulaInputs_ok hinputs]
    exact agree_of_value hreference (executeFormula_quarters hcode hcomparable.1)
  · rw [hbind] at hvalues hcutoff ⊢
    have hcutoff' : ∀ f ∈ [a, l, p], f.sourcePublishedAt ≤ cutoff := by
      simpa using hcutoff
    rcases hvalues with _ | ⟨hu, _ | ⟨hv, _ | ⟨hw, ⟨⟩⟩⟩⟩
    have hreference := reference_bridge hcode hannual hlatest hprior hbasis hdurations hu hv hw
      hcutoff'
    refine ⟨not_blocked_of_value hreference, ?_⟩
    intro inputs hinputs
    rw [formulaInputs_ok hinputs]
    exact agree_of_value hreference (executeFormula_bridge hcode hbasis)

/-! ## Four quarters of revenue -/

/-- The revenue of a quarter that ends on the last day of a month of 2024. -/
def quarterRevenue (id : Uuid) (quarter : Int) (periodEnd : Date) (amount : Decimal) : Fact :=
  { annualCashFlow id with
    canonicalConceptCode := "REVENUE"
    financialPeriodId := id
    fiscalQuarter := some quarter
    fiscalPeriod := "Q"
    periodType := .quarter
    periodEnd := periodEnd
    durationDays := some 91
    isCumulative := false
    isSingleQuarter := true
    normalizedValue := amount }

def revenueOf2024 : List Fact :=
  [quarterRevenue 1 1 ⟨2024, 3, 31, validYear_2024, validMonth_3, validDay_2024_3_31⟩ 10,
    quarterRevenue 2 2 ⟨2024, 6, 30, validYear_2024, validMonth_6, validDay_2024_6_30⟩ 20,
    quarterRevenue 3 3 ⟨2024, 9, 30, validYear_2024, validMonth_9, validDay_2024_9_30⟩ 30,
    quarterRevenue 4 4 ⟨2024, 12, 31, validYear_2024, validMonth_12, validDay_2024_12_31⟩ 40]

/-- A fact as a financial value of a quarterly report. -/
def financialValueOf (s : Uuid) (c : CanonicalConcept) (fact : Fact)
    (h : fact.normalizedUnit ≠ "" ∧ fact.accountingStandard ≠ "") : FinancialValue where
  factId := fact.id
  securityId := s
  concept := c
  period :=
    { fiscalYear := fact.fiscalYear
      fiscalQuarter := fact.fiscalQuarter
      fiscalPeriod := fact.fiscalPeriod
      periodType := fact.periodType
      factNature := (getConcept c).factNature
      periodStart := fact.periodStart
      periodEnd := fact.periodEnd
      filingDate := none
      publishedAt := some fact.sourcePublishedAt
      durationDays := fact.durationDays
      isAnnual := fact.periodType = .annual
      isCumulative := fact.isCumulative
      isSingleQuarter := fact.isSingleQuarter
      isTtm := fact.periodType = .ttm
      accountingStandard := fact.accountingStandard
      sourceFormType := "10-Q" }
  value := fact.normalizedValue
  normalizedUnit := fact.normalizedUnit
  currencyCode := fact.currencyCode
  accountingBasis := fact.accountingStandard
  sourcePublishedAt := some fact.sourcePublishedAt
  vocabulary := h

lemma represents_financialValueOf (s : Uuid) (c : CanonicalConcept) (fact : Fact)
    (h : fact.normalizedUnit ≠ "" ∧ fact.accountingStandard ≠ "") :
    Represents s c fact (financialValueOf s c fact h) := by
  constructor <;> rfl

lemma bindTtmInputs_revenueOf2024 :
    bindTtmInputs (factsForConcept revenueOf2024 CanonicalConcept.revenue.value) =
      quarterRoles.zip revenueOf2024 := by
  decide +kernel

/-- The four quarters of 2024 pass the reference, and it agrees with the formula. -/
theorem ttm_reference_2024 : ∃ values,
    (∀ text, referenceTtm (quarterRoles.zip revenueOf2024) values
        (annualCashFlow 1).sourcePublishedAt ≠ .error (.calculationBlocked text)) ∧
      ∀ inputs, formulaInputs (quarterRoles.zip revenueOf2024) = .ok inputs →
        (referenceTtm (quarterRoles.zip revenueOf2024) values
            (annualCashFlow 1).sourcePublishedAt).map (fun derived => some derived.value) =
          ((executeFormula .revenueTtm inputs).mapError .signal).map (·.value) := by
  have hunits : ∀ fact ∈ revenueOf2024,
      fact.normalizedUnit ≠ "" ∧ fact.accountingStandard ≠ "" := by
    decide +kernel
  have hvalues : List.Forall₂ (Represents 7 .revenue) revenueOf2024
      (revenueOf2024.pmap (financialValueOf 7 .revenue) hunits) :=
    .cons (represents_financialValueOf ..) (.cons (represents_financialValueOf ..)
      (.cons (represents_financialValueOf ..) (.cons (represents_financialValueOf ..) .nil)))
  refine ⟨revenueOf2024.pmap (financialValueOf 7 .revenue) hunits, ?_⟩
  rw [← bindTtmInputs_revenueOf2024]
  refine ttm_reference .revenueTtm .revenue rfl revenueOf2024 7 _ _ ?_ ?_ ?_
  · rw [bindTtmInputs_revenueOf2024]
    decide
  · rw [bindTtmInputs_revenueOf2024]
    exact hvalues
  · rw [bindTtmInputs_revenueOf2024]
    decide +kernel

end StockResearch.Financials
