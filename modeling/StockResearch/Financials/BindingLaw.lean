import StockResearch.Financials.ComputationLaw
import StockResearch.Financials.TtmLaw

/-!
# Metrics whose inputs are all there

A metric over reported statements should be computed whenever a snapshot holds its inputs.  The roles
of its formula, the table from roles to concepts and the concepts themselves are three lists that are
kept by hand, and a role is bound only in the period of the anchor.

**The tables.**  `Role.reported` is the concept that a role names.  `concept_of_reported`: the service's
table has it for every role but the two of the effective tax rate.

**The anchor.**  `isSome_bindRole`: when a role is bound.

**`binds_iff`**: every role is bound, and nothing is reported as missing, unless the metric is the return
on invested capital, growth has no year before, or the period of the latest fact of the first role is
not shared by the others.
-/

namespace StockResearch.Financials

open PyTime PyDecimal

/-! ## What a role names -/

def Balance.reported : Balance → CanonicalConcept
  | equityParent => .equityAttributableToParent
  | totalAssets => .totalAssets
  | totalEquity => .totalEquity
  | totalDebt => .totalDebt
  | cash => .cashAndCashEquivalents

/-- The canonical concept that a role names.  The other roles are prices, metrics and the parts of a
trailing window. -/
def Role.reported : Role → Option CanonicalConcept
  | currentRevenue | priorRevenue | revenue => some .revenue
  | costOfRevenue => some .costOfRevenue
  | operatingIncome => some .operatingIncome
  | netIncomeParent => some .netIncomeAttributableToParent
  | netIncomeTotal => some .netIncome
  | pretaxIncome => some .pretaxIncome
  | incomeTaxExpense => some .incomeTaxExpense
  | opening balance | closing balance => some balance.reported
  | reportedOcf | operatingCashFlow => some .operatingCashFlow
  | capitalExpenditures => some .capitalExpenditures
  | totalLiabilities => some .totalLiabilities
  | totalAssets => some .totalAssets
  | totalDebt => some .totalDebt
  | cash => some .cashAndCashEquivalents
  | reportedBasicEps => some .basicEps
  | reportedDilutedEps => some .dilutedEps
  | actualSharesOutstanding => some .periodEndSharesOutstanding
  | equityParent => some .equityAttributableToParent
  | preferredEquity => some .preferredEquity
  | minorityInterest => some .minorityInterest
  | price | marketCap | netIncomeParentTtm | revenueTtm | enterpriseValue | ebitdaTtm
  | freeCashFlowTtm | quarter1 | quarter2 | quarter3 | quarter4 | latestFy | latestYtd
  | priorYtd => none

/-- The table of the service lacks the roles of the effective tax rate. -/
lemma concept_of_reported {role : Role} (hpretax : role ≠ .pretaxIncome)
    (htax : role ≠ .incomeTaxExpense) : role.concept = role.reported.map CanonicalConcept.value := by
  cases role with
  | opening balance | closing balance => cases balance <;> rfl
  | pretaxIncome => exact absurd rfl hpretax
  | incomeTaxExpense => exact absurd rfl htax
  | _ => rfl

/-- A formula whose inputs are all reported in statements. -/
def StatementFormula (code : MetricCode) : Prop :=
  ∀ role ∈ (getFormula code).requiredInputs, role.reported ≠ none

instance (code : MetricCode) : Decidable (StatementFormula code) :=
  inferInstanceAs (Decidable (∀ _ ∈ _, _))

/-! ## The statement -/

/-- For one latest period the facts have one of each concept that the inputs name, and for the
balances at its opening and its closing one at its end and one before it. -/
def InputsPresent (code : MetricCode) (facts : List Fact) : Prop :=
  ∃ (period : Uuid) (last : Date), ∀ role ∈ (getFormula code).requiredInputs,
    ∀ concept ∈ role.reported,
      (∀ fact ∈ conceptFacts facts concept.value, fact.periodEnd ≤ last) ∧
      if role.isBalance then
        (∃ closing ∈ conceptFacts facts concept.value, closing.periodEnd = last) ∧
          ∃ opening ∈ conceptFacts facts concept.value, opening.periodEnd < last
      else ∃ fact ∈ conceptFacts facts concept.value,
        fact.financialPeriodId = period ∧ fact.periodEnd = last

/-- Every required role is bound. -/
def BindsAll (code : MetricCode) (facts : List Fact) : Prop :=
  ∀ role ∈ (getFormula code).requiredInputs,
    ((selectFacts code (factsForConcept facts)).lookup role).isSome = true

/-- A warning of a missing source. -/
def ReportsMissing (warning : String) : Prop :=
  "SOURCE_MISSING:".toList <+: warning.toList

instance (warning : String) : Decidable (ReportsMissing warning) :=
  inferInstanceAs (Decidable (_ <+: _))

/-- The metric never warns of a missing source. -/
def NeverMissing (code : MetricCode) (facts : List Fact) : Prop :=
  ∀ inputs selected result, bindInputs (getFormula code) facts = .ok (inputs, selected) →
    executeFormula code inputs = .ok result → ∀ warning ∈ result.warnings, ¬ ReportsMissing warning

/-- The latest revenue has a fact of the same period a year before. -/
def PriorYearPresent (facts : List Fact) : Prop :=
  ∀ current ∈ (factsForConcept facts "REVENUE").getLast?,
    ∃ prior ∈ conceptFacts facts "REVENUE", isPriorOf current prior = true

/-- The period of the latest fact of the first role has a fact of every role that is read in one
period. -/
def PeriodShared (code : MetricCode) (facts : List Fact) : Prop :=
  ∀ first ∈ (getFormula code).requiredInputs.head?, ∀ concept ∈ first.reported,
    ∀ anchor ∈ (factsForConcept facts concept.value).getLast?,
      ∀ role ∈ (getFormula code).requiredInputs, role.isBalance = false →
        ∀ concept ∈ role.reported, ∃ fact ∈ conceptFacts facts concept.value,
          fact.financialPeriodId = anchor.financialPeriodId

/-- When the inputs of a formula are bound. -/
def Bindable (code : MetricCode) (facts : List Fact) : Prop :=
  code ≠ .roic ∧
    if code = .revenueGrowth then PriorYearPresent facts else PeriodShared code facts

/-! ## Roles that are bound -/

variable {facts : List Fact} {code : MetricCode} {role : Role} {concept : CanonicalConcept}

lemma mem_conceptFacts {name : String} {fact : Fact} :
    fact ∈ factsForConcept facts name ↔ fact ∈ conceptFacts facts name :=
  (factsForConcept_perm facts name).mem_iff

/-- The last fact of a concept that has one. -/
lemma exists_last {name : String} (h : ∃ fact, fact ∈ conceptFacts facts name) :
    ∃ last, (factsForConcept facts name).getLast? = some last := by
  obtain ⟨fact, hfact⟩ := h
  cases hlast : (factsForConcept facts name).getLast? with
  | none =>
      rw [List.getLast?_eq_none_iff] at hlast
      have := mem_conceptFacts.mpr hfact
      rw [hlast] at this
      cases this
  | some last => exact ⟨last, rfl⟩

/-- A role that is read in the period of the anchor. -/
lemma isSome_bindRole (hbalance : role.isBalance = false)
    (hconcept : role.concept = some concept.value) {anchor : Fact} :
    (bindRole (some anchor) (factsForConcept facts) role).isSome = true ↔
      ∃ fact ∈ conceptFacts facts concept.value,
        fact.financialPeriodId = anchor.financialPeriodId := by
  have hbind : bindRole (some anchor) (factsForConcept facts) role =
      ((factsForConcept facts concept.value).filter
        (·.financialPeriodId = anchor.financialPeriodId)).getLast? := by
    rw [bindRole, hconcept, Option.bind_some]
    cases role <;> first | rfl | cases hbalance
  rw [hbind, List.getLast?_isSome]
  constructor
  · intro h
    obtain ⟨fact, hfact⟩ := List.exists_mem_of_ne_nil _ h
    rw [List.mem_filter, decide_eq_true_eq, mem_conceptFacts] at hfact
    exact ⟨fact, hfact⟩
  · rintro ⟨fact, hfact, hperiod⟩
    refine List.ne_nil_of_mem (a := fact) ?_
    rw [List.mem_filter, decide_eq_true_eq, mem_conceptFacts]
    exact ⟨hfact, hperiod⟩

/-- A role that is read at the opening or at the closing of a period. -/
lemma isSome_bindRole_balance {anchor : Option Fact} (hbalance : role.isBalance = true)
    (hconcept : role.concept = some concept.value) {closing opening : Fact}
    (hclosing : closing ∈ conceptFacts facts concept.value)
    (hopening : opening ∈ conceptFacts facts concept.value)
    (hlt : opening.periodEnd < closing.periodEnd) :
    (bindRole anchor (factsForConcept facts) role).isSome = true := by
  have hne : opening ≠ closing := by
    rintro rfl
    exact lt_irrefl _ hlt
  have hclosing := mem_conceptFacts.mpr hclosing
  have hopening := mem_conceptFacts.mpr hopening
  rw [bindRole, hconcept, Option.bind_some]
  generalize factsForConcept facts concept.value = candidates at *
  -- Two facts are enough for the last but one.
  have hlength : 2 ≤ candidates.length := by
    match candidates, hclosing, hopening with
    | [], h, _ => cases h
    | [_], h, h' => exact absurd ((List.mem_singleton.mp h').trans (List.mem_singleton.mp h).symm) hne
    | _ :: _ :: _, _, _ => simp
  cases role with
  | opening balance =>
      dsimp only
      rw [List.getLast?_isSome, ← List.length_pos_iff, List.length_dropLast]
      omega
  | closing balance =>
      dsimp only
      rw [List.getLast?_isSome, ← List.length_pos_iff]
      omega
  | _ => cases hbalance

/-! ## Formulas over one period -/

/-- The first role of a formula over statements is read in one period. -/
lemma head_required (hcode : StatementFormula code) :
    ∃ first rest concept, (getFormula code).requiredInputs = first :: rest ∧
      first.isBalance = false ∧ first.reported = some concept ∧
      first.concept = some concept.value := by
  cases code <;> first | exact ⟨_, _, _, rfl, rfl, rfl, rfl⟩ | exact absurd hcode (by decide)

lemma role_ne_tax (hcode : code ≠ .roic) :
    ∀ role ∈ (getFormula code).requiredInputs, role ≠ .pretaxIncome ∧ role ≠ .incomeTaxExpense := by
  cases code <;> first | exact absurd rfl hcode | decide

lemma selectFacts_statement (hcode : StatementFormula code) (hgrowth : code ≠ .revenueGrowth)
    (factsFor : String → List Fact) :
    selectFacts code factsFor = bindRoles (getFormula code).requiredInputs factsFor := by
  have httm : ttmConcept code = none := by
    cases code <;> first | rfl | exact absurd hcode (by decide)
  rw [selectFacts, httm, if_neg hgrowth]

/-- The anchor is the latest fact of the first role. -/
lemma latestAnchor_cons {first : Role} {rest : List Role} {name : String} {anchor : Fact}
    {factsFor : String → List Fact} (hbalance : first.isBalance = false)
    (hconcept : first.concept = some name) (hlast : (factsFor name).getLast? = some anchor) :
    latestAnchor (first :: rest) factsFor = some anchor := by
  rw [latestAnchor, List.findSome?_cons, hbalance, hconcept]
  simp [hlast]

/-- In a formula over one period, the roles are bound when the period of the anchor has their
facts. -/
lemma bindsAll_iff (hcode : StatementFormula code) (hgrowth : code ≠ .revenueGrowth)
    (hpresent : InputsPresent code facts) :
    BindsAll code facts ↔ code ≠ .roic ∧ PeriodShared code facts := by
  obtain ⟨period, last, hpresent⟩ := hpresent
  obtain ⟨first, rest, concept, hrequired, hbalance, hreported, hconcept⟩ := head_required hcode
  have hfirst : first ∈ (getFormula code).requiredInputs := by simp [hrequired]
  obtain ⟨fact, hfact, -⟩ : ∃ fact ∈ conceptFacts facts concept.value,
      fact.financialPeriodId = period ∧ fact.periodEnd = last := by
    have h := (hpresent first hfirst concept hreported).2
    rwa [if_neg (by simp [hbalance])] at h
  obtain ⟨anchor, hanchor⟩ := exists_last ⟨fact, hfact⟩
  have hlookup : ∀ role ∈ (getFormula code).requiredInputs,
      (selectFacts code (factsForConcept facts)).lookup role =
        bindRole (some anchor) (factsForConcept facts) role := by
    intro role hrole
    rw [selectFacts_statement hcode hgrowth, lookup_bindRoles _ hrole, hrequired,
      latestAnchor_cons hbalance hconcept hanchor]
  constructor
  · intro h
    have hroic : code ≠ .roic := by
      rintro rfl
      have hpretax := h .pretaxIncome (by decide)
      rw [hlookup _ (by decide)] at hpretax
      cases hpretax
    refine ⟨hroic, ?_⟩
    intro first' hfirst' concept' hconcept' anchor' hanchor' role hrole hrolebalance
    rw [hrequired] at hfirst'
    cases hfirst'
    rw [hreported] at hconcept'
    cases hconcept'
    rw [hanchor] at hanchor'
    cases hanchor'
    intro concept hrolereported
    obtain ⟨hpretax, htax⟩ := role_ne_tax hroic role hrole
    have hroleconcept : role.concept = some concept.value := by
      rw [concept_of_reported hpretax htax, hrolereported]
      rfl
    have hbound := h role hrole
    rw [hlookup role hrole] at hbound
    exact (isSome_bindRole hrolebalance hroleconcept).mp hbound
  · rintro ⟨hroic, hshared⟩ role hrole
    obtain ⟨hpretax, htax⟩ := role_ne_tax hroic role hrole
    obtain ⟨concept', hrolereported⟩ := Option.ne_none_iff_exists'.mp (hcode role hrole)
    have hroleconcept : role.concept = some concept'.value := by
      rw [concept_of_reported hpretax htax, hrolereported]
      rfl
    rw [hlookup role hrole]
    cases hrolebalance : role.isBalance with
    | true =>
        have h := (hpresent role hrole concept' hrolereported).2
        rw [if_pos hrolebalance] at h
        obtain ⟨⟨closing, hclosing, rfl⟩, opening, hopening, hlt⟩ := h
        exact isSome_bindRole_balance hrolebalance hroleconcept hclosing hopening hlt
    | false =>
        refine (isSome_bindRole hrolebalance hroleconcept).mpr ?_
        exact hshared first (by rw [hrequired]; rfl) concept hreported anchor hanchor role hrole
          hrolebalance concept' hrolereported

/-! ## Growth -/

lemma bindsAll_growth (hpresent : InputsPresent .revenueGrowth facts) :
    BindsAll .revenueGrowth facts ↔ PriorYearPresent facts := by
  obtain ⟨period, last, hpresent⟩ := hpresent
  obtain ⟨fact, hfact, -⟩ := (hpresent .currentRevenue (by decide) .revenue rfl).2
  obtain ⟨current, hcurrent⟩ : ∃ current, (factsForConcept facts "REVENUE").getLast? = some current :=
    exists_last ⟨fact, hfact⟩
  obtain ⟨init, hinit⟩ := List.getLast?_eq_some_iff.mp hcurrent
  have hmem : ∀ fact ∈ conceptFacts facts "REVENUE", isPriorOf current fact = true → fact ∈ init := by
    intro fact hfact hprior
    rw [← mem_conceptFacts, hinit, List.mem_append, List.mem_singleton] at hfact
    rcases hfact with hfact | rfl
    · exact hfact
    · -- No fact is of the year before its own.
      rw [isPriorOf, Bool.and_eq_true, Bool.and_eq_true, Bool.and_eq_true, decide_eq_true_eq] at hprior
      omega
  have hselect : selectFacts .revenueGrowth (factsForConcept facts) =
      (.currentRevenue, current) ::
        (init.reverse.find? (isPriorOf current)).elim [] fun prior => [(.priorRevenue, prior)] := by
    change bindGrowth (factsForConcept facts) = _
    rw [bindGrowth, hcurrent, hinit, List.dropLast_concat]
    dsimp only
    cases init.reverse.find? (isPriorOf current) <;> rfl
  have hlookup : ((selectFacts .revenueGrowth (factsForConcept facts)).lookup .priorRevenue).isSome =
      (init.reverse.find? (isPriorOf current)).isSome := by
    rw [hselect]
    cases init.reverse.find? (isPriorOf current) <;> rfl
  constructor
  · intro h current' hcurrent'
    rw [hcurrent] at hcurrent'
    cases hcurrent'
    have hprior := h .priorRevenue (by decide)
    rw [hlookup, List.find?_isSome] at hprior
    obtain ⟨prior, hprior, hisPrior⟩ := hprior
    refine ⟨prior, ?_, hisPrior⟩
    rw [← mem_conceptFacts, hinit]
    exact List.mem_append_left _ (List.mem_reverse.mp hprior)
  · intro h role hrole
    obtain ⟨prior, hprior, hisPrior⟩ := h current hcurrent
    have hrole : role = .currentRevenue ∨ role = .priorRevenue := by
      simpa [getFormula, definition] using hrole
    rcases hrole with rfl | rfl
    · rw [hselect]
      rfl
    · rw [hlookup, List.find?_isSome]
      exact ⟨prior, List.mem_reverse.mpr (hmem prior hprior hisPrior), hisPrior⟩

/-! ## Warnings -/

section Warnings

variable {α : Type}

def Outcome.warnings : Outcome α → List String
  | .number _ warnings => warnings
  | .notMeaningful warning | .null warning => [warning]

/-- Warnings that do not report a missing source. -/
def Quiet (warnings : List String) : Prop := ∀ warning ∈ warnings, ¬ ReportsMissing warning

instance (warnings : List String) : Decidable (Quiet warnings) :=
  inferInstanceAs (Decidable (∀ _ ∈ _, _))

lemma quiet_nil : Quiet [] := by
  rintro _ ⟨⟩

/-- What the formulas warn of and are blocked with. -/
def formulaCodes : List String :=
  ["DENOMINATOR_NON_POSITIVE", "NEGATIVE_CURRENT_REVENUE", "NEGATIVE_GROSS_MARGIN",
    "EFFECTIVE_TAX_RATE_UNUSABLE", "NON_POSITIVE_PRICE_OR_SHARES", "NEGATIVE_ENTERPRISE_VALUE",
    "NEGATIVE_OPERATING_MARGIN", "NEGATIVE_NET_MARGIN", "INCOMPATIBLE_CURRENCY",
    "INCOMPATIBLE_UNIT", "NEGATIVE_LIABILITIES_REJECTED"]

/-- None of them reports a missing source. -/
lemma quiet_formulaCodes : Quiet formulaCodes := by decide +kernel

lemma quiet_of_subset {warnings : List String} (h : warnings ⊆ formulaCodes) : Quiet warnings :=
  fun warning hwarning => quiet_formulaCodes warning (h hwarning)

lemma quiet_ite {p : Prop} [Decidable p] {warnings : List String} (h : Quiet warnings) :
    Quiet (if p then [] else warnings) := by
  split_ifs
  · exact quiet_nil
  · exact h

/-- A computation whose own warnings report nothing as missing. -/
abbrev QuietComputation (x : Except Signal (Outcome α)) : Prop :=
  Checked.Returns (fun outcome => Quiet outcome.warnings) x

open Checked

lemma quiet_plain {x : Except Signal α} : QuietComputation (plain x) :=
  returns_map fun _ => quiet_nil

lemma quiet_denominator : QuietComputation (.ok (denominatorNonPositive : Outcome α)) :=
  returns_ok (quiet_of_subset (by simp [Outcome.warnings, denominatorNonPositive, formulaCodes]))

variable [Arithmetic α]

lemma quiet_quotient {warning : Option String} (h : Quiet warning.toList) {a b : α} :
    QuietComputation (quotient warning a b) :=
  returns_ite quiet_denominator (returns_bind fun _ => returns_ok (quiet_ite h))

lemma quiet_growth {a b : α} : QuietComputation (growth a b) := by
  refine returns_ite quiet_denominator (returns_bind fun _ => returns_bind fun _ => ?_)
  exact returns_ok (quiet_ite (quiet_of_subset (by simp [formulaCodes])))

lemma quiet_margin {a b : α} : QuietComputation (margin a b) := by
  refine returns_ite quiet_denominator (returns_bind fun _ => returns_bind fun _ => ?_)
  exact returns_ok (quiet_ite (quiet_of_subset (by simp [formulaCodes])))

lemma quiet_returnOnAverage {a b c : α} : QuietComputation (returnOnAverage a b c) := by
  refine returns_bind fun _ => returns_bind fun _ => returns_ite quiet_denominator ?_
  exact returns_bind fun _ => returns_ok quiet_nil

lemma quiet_returnOnCapital {v : Role → α} : QuietComputation (returnOnCapital v) := by
  have hunusable : QuietComputation
      (.ok (.null "EFFECTIVE_TAX_RATE_UNUSABLE") : Except Signal (Outcome α)) :=
    returns_ok (quiet_of_subset (by simp [Outcome.warnings, formulaCodes]))
  refine returns_ite hunusable (returns_bind fun _ => returns_ite hunusable ?_)
  refine returns_bind fun _ => returns_bind fun _ => returns_bind fun _ => returns_bind fun _ => ?_
  refine returns_ite quiet_denominator (returns_bind fun _ => returns_bind fun _ => ?_)
  exact returns_bind fun _ => returns_ok quiet_nil

lemma quiet_capitalization {a b : α} : QuietComputation (capitalization a b) := by
  refine returns_ite (returns_ok ?_) (returns_bind fun _ => returns_ok quiet_nil)
  exact quiet_of_subset (by simp [Outcome.warnings, formulaCodes])

lemma quiet_valueOfFirm {a b c d e : α} : QuietComputation (valueOfFirm a b c d e) := by
  refine returns_bind fun _ => returns_bind fun _ => returns_bind fun _ => returns_bind fun _ => ?_
  exact returns_ok (quiet_ite (quiet_of_subset (by simp [formulaCodes])))

lemma quiet_trailing {roles : List Role} {v : Role → α} : QuietComputation (trailing roles v) := by
  unfold trailing
  split <;> exact quiet_plain

lemma quiet_calculation {code : MetricCode} {roles : List Role} {v : Role → α} :
    QuietComputation (calculation code roles v) := by
  cases code with
  | revenueGrowth => exact quiet_growth
  | grossMargin => exact quiet_margin
  | roeParent | roaTotal => exact quiet_returnOnAverage
  | roic => exact quiet_returnOnCapital
  | operatingCashFlow | basicEps | dilutedEps | freeCashFlow | netDebt => exact quiet_plain
  | marketCap => exact quiet_capitalization
  | enterpriseValue => exact quiet_valueOfFirm
  | revenueTtm | netIncomeParentTtm | ebitdaTtm => exact quiet_trailing
  | operatingMargin | netMarginParent | evToEbitdaTtm | liabilitiesToAssets | peTtmDiluted
  | pbParent | psTtm | fcfYieldTtm => exact quiet_quotient (quiet_of_subset (by simp [formulaCodes]))

/-- Which formulas are blocked without a source that is missing. -/
def QuietError (e : FormulaError) : Prop := ∀ warning, e = .formulaBlocked warning → Quiet [warning]

lemma quietError_of {warning : String} (h : warning ∈ formulaCodes) :
    QuietError (.formulaBlocked warning) := by
  rintro _ ⟨⟩
  exact quiet_of_subset (by simpa using h)

lemma quiet_commonBasis {measures : List Measure} : Raises QuietError (commonBasis measures) := by
  have hcurrency : QuietError (.formulaBlocked "INCOMPATIBLE_CURRENCY") :=
    quietError_of (by simp [formulaCodes])
  cases measures with
  | nil => exact raises_error hcurrency
  | cons first rest =>
      refine raises_bind (raises_require hcurrency) fun _ => ?_
      refine raises_bind (raises_check hcurrency) fun _ => ?_
      exact raises_bind (raises_check (quietError_of (by simp [formulaCodes]))) fun _ => raises_ok _

lemma quiet_basis {kind : Denomination} {measures : List Measure} :
    Raises QuietError (basis kind measures) := by
  have hunit : QuietError (.formulaBlocked "INCOMPATIBLE_UNIT") := quietError_of (by simp [formulaCodes])
  unfold basis
  split
  · exact raises_bind quiet_commonBasis fun _ => raises_ok _
  · exact raises_bind quiet_commonBasis fun _ => raises_ok _
  · exact raises_bind (raises_check hunit) fun _ => raises_ok _
  · refine raises_bind (raises_check hunit) fun _ => ?_
    exact raises_bind (raises_check (quietError_of (by simp [formulaCodes]))) fun _ => raises_ok _
  · exact raises_error hunit

/-- The roles are the required ones, unless liabilities are negative. -/
lemma rolesOf_statement (inputs : Inputs α) (hcode : StatementFormula code) :
    Raises QuietError (rolesOf code inputs) ∧
      ∀ roles, rolesOf code inputs = .ok roles → roles = (getFormula code).requiredInputs := by
  unfold rolesOf
  split
  case h_1 =>
    refine ⟨raises_bind (raises_check (quietError_of (by simp [formulaCodes]))) fun _ => raises_ok _, ?_⟩
    intro roles h
    obtain ⟨-, h⟩ := check_bind_ok.mp h
    cases h
    rfl
  case h_5 =>
    refine ⟨raises_ok _, fun roles h => ?_⟩
    cases h
    rfl
  all_goals exact absurd hcode (by decide)

/-- With all its inputs a formula over statements reports nothing as missing. -/
lemma quiet_executeOver {inputs : Inputs α} (hcode : StatementFormula code)
    (hpresent : ∀ role ∈ (getFormula code).requiredInputs,
      ∃ measure, presentInput inputs role = .ok measure) :
    Returns (fun result => Quiet result.warnings) (executeOver code inputs) := by
  obtain ⟨hraises, hroles⟩ := rolesOf_statement inputs hcode
  intro result h
  rw [executeOver] at h
  split at h
  case h_1 _ hsteps =>
    cases h
    obtain ⟨roles, -, hsteps⟩ := bind_ok.mp hsteps
    obtain ⟨measures, -, hsteps⟩ := bind_ok.mp hsteps
    obtain ⟨measure, -, hsteps⟩ := bind_ok.mp hsteps
    obtain ⟨outcome, houtcome, hsteps⟩ := bind_ok.mp hsteps
    cases hsteps
    have hquiet : Quiet outcome.warnings := by
      cases hcalculation : calculation code roles (valueOf inputs) with
      | error s =>
          rw [hcalculation] at houtcome
          cases houtcome
      | ok outcome' =>
          rw [hcalculation] at houtcome
          cases houtcome
          exact quiet_calculation _ hcalculation
    cases outcome <;> exact hquiet
  case h_2 warning hsteps =>
    cases h
    rcases bind_error.mp hsteps with hsteps | ⟨roles, hok, hsteps⟩
    · exact hraises _ hsteps warning rfl
    · -- Every role is there, so that only the units and currencies can block.
      rw [hroles roles hok] at hsteps
      obtain ⟨measures, hmeasures⟩ := exists_mapM_ok.mpr hpresent
      rw [evaluate, hmeasures, ok_bind] at hsteps
      rcases bind_error.mp hsteps with hsteps | ⟨measure, -, hsteps⟩
      · exact quiet_basis _ hsteps warning rfl
      · rcases bind_error.mp hsteps with hsteps | ⟨outcome, -, hsteps⟩
        · cases hcalculation : calculation code (getFormula code).requiredInputs (valueOf inputs) <;>
            rw [hcalculation] at hsteps <;> cases hsteps
        · cases hsteps
  case h_3 => cases h

end Warnings

/-- Bound roles are inputs that are there. -/
lemma neverMissing_of_bindsAll (hcode : StatementFormula code) (h : BindsAll code facts) :
    NeverMissing code facts := by
  intro inputs selected result hbind hresult
  obtain ⟨inputs', hinputs, hbind⟩ := Checked.bind_ok.mp hbind
  cases hbind
  rw [metricCode_getFormula] at hinputs
  have hbound := formulaInputs_ok hinputs
  rw [executeFormula_eq] at hresult
  obtain ⟨computed, hcomputed, rfl⟩ := Checked.map_ok.mp hresult
  refine quiet_executeOver hcode (fun role hrole => ?_) computed hcomputed
  obtain ⟨fact, hfact⟩ := Option.isSome_iff_exists.mp (h role hrole)
  have hlookup : inputs.lookup role = some ⟨some fact.normalizedValue, fact.normalizedUnit,
      fact.currencyCode⟩ := by
    rw [hbound]
    refine (Dict.lookup_map (f := fun _ (fact : Fact) => FormulaInput.mk (some fact.normalizedValue)
      fact.normalizedUnit fact.currencyCode)).trans ?_
    rw [hfact]
    rfl
  refine ⟨⟨fact.normalizedUnit, fact.currencyCode⟩, ?_⟩
  rw [presentInput, lookup_over, hlookup]
  rfl

/-- **The inputs of a formula over statements are bound, and nothing is reported as missing, exactly
when** the metric is not the return on invested capital, growth has a year before, and the period of
the latest fact of the first role is shared by the others. -/
theorem binds_iff (code : MetricCode) (facts : List Fact) (hcode : StatementFormula code)
    (hpresent : InputsPresent code facts) :
    BindsAll code facts ∧ NeverMissing code facts ↔ Bindable code facts := by
  have hbinds : BindsAll code facts ↔ Bindable code facts := by
    rw [Bindable]
    split_ifs with hgrowth
    · subst hgrowth
      rw [bindsAll_growth hpresent]
      exact ⟨fun h => ⟨by decide, h⟩, fun h => h.2⟩
    · exact bindsAll_iff hcode hgrowth hpresent
  rw [← hbinds]
  exact ⟨fun h => h.1, fun h => ⟨h, neverMissing_of_bindsAll hcode h⟩⟩

def amountOfYear (id : Uuid) (concept : CanonicalConcept) (amount : Decimal) : Fact :=
  { annualCashFlow id with
    canonicalConceptCode := concept.value
    normalizedValue := amount }

/-- The revenue and the cost of a year. -/
def marginFacts : List Fact := [amountOfYear 1 .revenue 100, amountOfYear 2 .costOfRevenue 60]

/-- A gross margin is bound. -/
theorem binds_grossMargin :
    BindsAll .grossMargin marginFacts ∧ NeverMissing .grossMargin marginFacts := by
  refine (binds_iff .grossMargin marginFacts (by decide) ?_).mpr ⟨by decide, ?_⟩
  · refine ⟨100, ⟨2024, 12, 31, validYear_2024, validMonth_12, validDay_2024_12_31⟩, ?_⟩
    decide +kernel
  · rw [if_neg (by decide), PeriodShared]
    decide +kernel

/-- A balance at the end of 2023 or 2024. -/
def balanceAt (id period : Uuid) (balance : Balance) (periodEnd : Date) (amount : Decimal) : Fact :=
  { annualCashFlow id with
    canonicalConceptCode := balance.reported.value
    financialPeriodId := period
    fiscalYear := periodEnd.year
    periodType := .instant
    periodStart := none
    periodEnd := periodEnd
    durationDays := none
    isCumulative := false
    normalizedValue := amount }

def opening2024 (id : Uuid) (balance : Balance) (amount : Decimal) : Fact :=
  balanceAt id 201 balance ⟨2023, 12, 31, validYear_2023, validMonth_12, validDay_2023_12_31⟩ amount

def closing2024 (id : Uuid) (balance : Balance) (amount : Decimal) : Fact :=
  balanceAt id 202 balance ⟨2024, 12, 31, validYear_2024, validMonth_12, validDay_2024_12_31⟩ amount

/-- Everything that the return on invested capital is computed from. -/
def capitalFacts : List Fact :=
  [amountOfYear 1 .operatingIncome 50, amountOfYear 2 .pretaxIncome 40,
    amountOfYear 3 .incomeTaxExpense 10, opening2024 4 .totalEquity 300,
    closing2024 5 .totalEquity 320, opening2024 6 .totalDebt 100, closing2024 7 .totalDebt 90,
    opening2024 8 .cash 20, closing2024 9 .cash 30]

/-- All inputs are there, and the metric reports that the income before tax is missing. -/
theorem roic_reports_missing :
    StatementFormula .roic ∧ InputsPresent .roic capitalFacts ∧ ¬ BindsAll .roic capitalFacts ∧
      (deriveMetric (getFormula .roic) capitalFacts).map (·.warningCodes) =
        .ok ["SOURCE_MISSING:pretax_income"] := by
  refine ⟨by decide, ?_, fun h => ?_, by decide +kernel⟩
  · refine ⟨100, ⟨2024, 12, 31, validYear_2024, validMonth_12, validDay_2024_12_31⟩, ?_⟩
    decide +kernel
  · have hpretax := h .pretaxIncome (by decide)
    revert hpretax
    decide +kernel

end StockResearch.Financials
