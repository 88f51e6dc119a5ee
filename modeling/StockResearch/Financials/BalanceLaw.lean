import StockResearch.Financials.IdentifierLaw

/-!
# Opening and closing balances

Return on equity, on assets and on invested capital divide by the average of two balances.  The
registry asks for the opening and the closing balance of the numerator's period; what is bound are the
last two facts of the balance, whatever the period of the numerator.

**`balances_match_iff`** says when the two are the same: where a balance has two facts or more, exactly
one of them has its latest period end, and this is the latest period end of the numerator's facts.
`balances_newer_and_restated` shows both ways in which it fails.
-/

namespace StockResearch.Financials

open PyTime PyDecimal

/-! ## What the code binds -/

/-- The metrics over an average balance. -/
inductive AverageMetric where
  | roe | roa | roic
deriving DecidableEq, Repr

namespace AverageMetric

def code : AverageMetric → MetricCode
  | roe => .roeParent
  | roa => .roaTotal
  | roic => .roic

/-- The role of the numerator, which is the anchor of the binding. -/
def numerator : AverageMetric → Role
  | roe => .netIncomeParent
  | roa => .netIncomeTotal
  | roic => .operatingIncome

def numeratorConcept : AverageMetric → String
  | roe => "NET_INCOME_ATTRIBUTABLE_TO_PARENT"
  | roa => "NET_INCOME"
  | roic => "OPERATING_INCOME"

def balances : AverageMetric → List Balance
  | roe => [.equityParent]
  | roa => [.totalAssets]
  | roic => [.totalEquity, .totalDebt, .cash]

end AverageMetric

def boundFacts (metric : AverageMetric) (facts : List Fact) : Selected :=
  selectFacts metric.code (factsForConcept facts)

/-- The bound balances are those of the opening and of the closing of the numerator's period. -/
def BalancesMatch (metric : AverageMetric) (facts : List Fact) : Prop :=
  ∀ balance ∈ metric.balances, ∀ opening closing,
    (boundFacts metric facts).lookup (.opening balance) = some opening →
    (boundFacts metric facts).lookup (.closing balance) = some closing →
    opening.periodEnd < closing.periodEnd ∧
      ∀ numerator, (boundFacts metric facts).lookup metric.numerator = some numerator →
        closing.periodEnd = numerator.periodEnd

/-- A role of the formula is bound to the fact that the loop found for it. -/
lemma lookup_bindRoles {roles : List Role} (factsFor : String → List Fact) {role : Role}
    (h : role ∈ roles) :
    (bindRoles roles factsFor).lookup role =
      bindRole (latestAnchor roles factsFor) factsFor role := by
  unfold bindRoles
  generalize bindRole (latestAnchor roles factsFor) factsFor = g
  -- A role before it is another one, or has no fact either.
  induction roles with
  | nil => cases h
  | cons r roles ih =>
      by_cases heq : role = r
      · subst heq
        cases hrole : g role with
        | some fact => simp [hrole]
        | none =>
            simp only [List.filterMap_cons, hrole, Option.map_none]
            by_cases hmem : role ∈ roles
            · rw [ih hmem, hrole]
            · rw [List.lookup_eq_none_iff]
              intro item hitem
              obtain ⟨r, hr, hitem⟩ := List.mem_filterMap.mp hitem
              obtain ⟨fact, -, rfl⟩ := Option.map_eq_some_iff.mp hitem
              have hne : role ≠ r := fun heq => hmem (heq ▸ hr)
              simpa using hne
      · have hmem : role ∈ roles := (List.mem_cons.mp h).resolve_left heq
        have hbeq : (role == r) = false := by simpa using heq
        cases hr : g r with
        | none => simpa [List.filterMap_cons, hr] using ih hmem
        | some fact => simpa [List.filterMap_cons, hr, List.lookup_cons, hbeq] using ih hmem

/-- The anchor is the latest fact of the numerator's concept. -/
lemma latestAnchor_average (metric : AverageMetric) (factsFor : String → List Fact) :
    latestAnchor (getFormula metric.code).requiredInputs factsFor =
      (factsFor metric.numeratorConcept).getLast? := by
  cases metric with
  | roe | roa | roic =>
      simp only [latestAnchor, getFormula, definition, AverageMetric.code,
        AverageMetric.numeratorConcept, Role.isBalance, Role.concept, List.findSome?_cons,
        List.findSome?_nil, Option.bind_some, Option.bind_none, if_true, Bool.false_eq_true, if_false]
      cases (factsFor _).getLast? <;> rfl

lemma boundFacts_eq (metric : AverageMetric) (facts : List Fact) :
    boundFacts metric facts =
      bindRoles (getFormula metric.code).requiredInputs (factsForConcept facts) := by
  cases metric <;> rfl

lemma lookup_opening {metric : AverageMetric} {balance : Balance} (h : balance ∈ metric.balances)
    (facts : List Fact) :
    (boundFacts metric facts).lookup (.opening balance) =
      (factsForConcept facts balance.concept).dropLast.getLast? := by
  have hrole : Role.opening balance ∈ (getFormula metric.code).requiredInputs := by
    cases metric <;> cases balance <;> revert h <;> decide
  rw [boundFacts_eq, lookup_bindRoles _ hrole]
  rfl

lemma lookup_closing {metric : AverageMetric} {balance : Balance} (h : balance ∈ metric.balances)
    (facts : List Fact) :
    (boundFacts metric facts).lookup (.closing balance) =
      (factsForConcept facts balance.concept).getLast? := by
  have hrole : Role.closing balance ∈ (getFormula metric.code).requiredInputs := by
    cases metric <;> cases balance <;> revert h <;> decide
  rw [boundFacts_eq, lookup_bindRoles _ hrole]
  rfl

/-- The bound numerator is the anchor itself. -/
lemma lookup_numerator (metric : AverageMetric) (facts : List Fact) :
    (boundFacts metric facts).lookup metric.numerator =
      (factsForConcept facts metric.numeratorConcept).getLast? := by
  have hrole : metric.numerator ∈ (getFormula metric.code).requiredInputs := by
    cases metric <;> decide
  have hbind : ∀ anchor, bindRole anchor (factsForConcept facts) metric.numerator =
      anchor.elim (factsForConcept facts metric.numeratorConcept).getLast? fun anchor =>
        ((factsForConcept facts metric.numeratorConcept).filter
          (·.financialPeriodId = anchor.financialPeriodId)).getLast? := by
    intro anchor
    cases metric <;> cases anchor <;> rfl
  rw [boundFacts_eq, lookup_bindRoles _ hrole, latestAnchor_average, hbind]
  cases hlast : (factsForConcept facts metric.numeratorConcept).getLast? with
  | none => rfl
  | some anchor =>
      obtain ⟨init, hinit⟩ := List.getLast?_eq_some_iff.mp hlast
      simp [hinit]

/-! ## The last two facts of a balance -/

/-- The facts of a concept, as they are stored. -/
def conceptFacts (facts : List Fact) (concept : String) : List Fact :=
  facts.filter (·.canonicalConceptCode = concept)

/-- The facts of a concept that have its latest period end. -/
def latestFacts (facts : List Fact) (concept : String) : List Fact :=
  (conceptFacts facts concept).filter fun fact =>
    ∀ other ∈ conceptFacts facts concept, other.periodEnd ≤ fact.periodEnd

lemma factsForConcept_perm (facts : List Fact) (concept : String) :
    (factsForConcept facts concept).Perm (conceptFacts facts concept) :=
  List.perm_insertionSort _ _

lemma factsForConcept_sorted (facts : List Fact) (concept : String) :
    (factsForConcept facts concept).Pairwise fun a b => a.periodEnd ≤ b.periodEnd := by
  have : Std.Total fun a b : Fact => a.key ≤ b.key := ⟨fun a b => le_total _ _⟩
  have : IsTrans Fact fun a b => a.key ≤ b.key := ⟨fun a b c => le_trans⟩
  have hsorted : (factsForConcept facts concept).Pairwise fun a b => a.key ≤ b.key :=
    List.pairwise_insertionSort _ _
  refine hsorted.imp ?_
  intro a b hab
  rcases key_le_iff.mp hab with h | ⟨h, -⟩
  · exact le_of_lt h
  · exact le_of_eq h

lemma periodEnd_le_last {facts init : List Fact} {concept : String} {last fact : Fact}
    (h : factsForConcept facts concept = init ++ [last])
    (hfact : fact ∈ conceptFacts facts concept) : fact.periodEnd ≤ last.periodEnd := by
  have hsorted := factsForConcept_sorted facts concept
  rw [h] at hsorted
  have hmem : fact ∈ init ++ [last] := by
    rw [← h]
    exact (factsForConcept_perm facts concept).mem_iff.mpr hfact
  rcases List.mem_append.mp hmem with hmem | hmem
  · exact (List.pairwise_append.mp hsorted).2.2 fact hmem last (List.mem_singleton_self last)
  · rw [List.mem_singleton.mp hmem]

lemma mem_latestFacts_iff {facts init : List Fact} {concept : String} {last fact : Fact}
    (h : factsForConcept facts concept = init ++ [last])
    (hfact : fact ∈ conceptFacts facts concept) :
    fact ∈ latestFacts facts concept ↔ last.periodEnd ≤ fact.periodEnd := by
  have hlast : last ∈ conceptFacts facts concept :=
    (factsForConcept_perm facts concept).mem_iff.mp (by simp [h])
  unfold latestFacts
  rw [List.mem_filter, decide_eq_true_eq]
  constructor
  · rintro ⟨-, hlatest⟩
    exact hlatest last hlast
  · intro hle
    exact ⟨hfact, fun other hother => (periodEnd_le_last h hother).trans hle⟩

/-- The latest facts, counted from the end of the sorted list. -/
lemma length_latestFacts {facts init : List Fact} {concept : String} {last : Fact}
    (h : factsForConcept facts concept = init ++ [last]) :
    (latestFacts facts concept).length =
      (init.filter fun fact => last.periodEnd ≤ fact.periodEnd).length + 1 := by
  have hfilter : latestFacts facts concept =
      (conceptFacts facts concept).filter fun fact => last.periodEnd ≤ fact.periodEnd := by
    refine List.filter_congr fun fact hfact => ?_
    have hiff := mem_latestFacts_iff h hfact
    unfold latestFacts at hiff
    rw [List.mem_filter, decide_eq_true_eq] at hiff
    exact decide_eq_decide.mpr ⟨fun hlatest => hiff.mp ⟨hfact, hlatest⟩, fun hle => (hiff.mpr hle).2⟩
  have hperm : (latestFacts facts concept).Perm
      ((factsForConcept facts concept).filter fun fact => last.periodEnd ≤ fact.periodEnd) := by
    rw [hfilter]
    exact (factsForConcept_perm facts concept).symm.filter _
  rw [hperm.length_eq, h]
  simp

/-- The last two facts end on different days exactly when the latest period end is attained once. -/
lemma length_latestFacts_eq_one {facts init : List Fact} {concept : String} {opening closing : Fact}
    (h : factsForConcept facts concept = init ++ [opening, closing]) :
    (latestFacts facts concept).length = 1 ↔ opening.periodEnd < closing.periodEnd := by
  have hlast : factsForConcept facts concept = (init ++ [opening]) ++ [closing] := by simp [h]
  have hsorted := factsForConcept_sorted facts concept
  rw [hlast] at hsorted
  have hbefore : ∀ fact ∈ init, fact.periodEnd ≤ opening.periodEnd := by
    intro fact hfact
    have hinit := (List.pairwise_append.mp hsorted).1
    exact (List.pairwise_append.mp hinit).2.2 fact hfact opening (List.mem_singleton_self _)
  rw [length_latestFacts hlast]
  constructor
  · intro hone
    have hnil : (init ++ [opening]).filter (fun fact => closing.periodEnd ≤ fact.periodEnd) = [] :=
      List.eq_nil_of_length_eq_zero (by omega)
    have hopening := List.filter_eq_nil_iff.mp hnil opening (by simp)
    simpa using hopening
  · intro hlt
    have hnil : (init ++ [opening]).filter (fun fact => closing.periodEnd ≤ fact.periodEnd) = [] := by
      refine List.filter_eq_nil_iff.mpr fun fact hfact => ?_
      have hle : fact.periodEnd ≤ opening.periodEnd := by
        rcases List.mem_append.mp hfact with hfact | hfact
        · exact hbefore fact hfact
        · rw [List.mem_singleton.mp hfact]
      simpa using hle.trans_lt hlt
    rw [hnil]
    rfl

/-! ## When the balances are those of the numerator's period -/

/-- Where a balance has two facts or more, exactly one has its latest period end, and this is the
latest period end of the numerator's facts. -/
def LatestBalancesMatch (metric : AverageMetric) (facts : List Fact) : Prop :=
  ∀ balance ∈ metric.balances, 2 ≤ (conceptFacts facts balance.concept).length →
    (latestFacts facts balance.concept).length = 1 ∧
      ∀ closing ∈ latestFacts facts balance.concept,
        ∀ numerator ∈ latestFacts facts metric.numeratorConcept,
          closing.periodEnd = numerator.periodEnd

/-- A list with two elements or more has a last one and one before it. -/
lemma exists_last_two {α : Type} {l : List α} (h : 2 ≤ l.length) :
    ∃ init a b, l = init ++ [a, b] := by
  have hlast : l ≠ [] := by
    rintro rfl
    simp at h
  have hbefore : l.dropLast ≠ [] := by
    intro hnil
    have := congrArg List.length hnil
    simp at this
    omega
  refine ⟨l.dropLast.dropLast, l.dropLast.getLast hbefore, l.getLast hlast, ?_⟩
  conv_lhs => rw [← List.dropLast_append_getLast hlast, ← List.dropLast_append_getLast hbefore]
  simp

lemma periodEnd_of_mem_latestFacts {facts init : List Fact} {concept : String} {last fact : Fact}
    (h : factsForConcept facts concept = init ++ [last]) (hfact : fact ∈ latestFacts facts concept) :
    fact.periodEnd = last.periodEnd := by
  have hmem : fact ∈ conceptFacts facts concept := (List.mem_filter.mp hfact).1
  exact le_antisymm (periodEnd_le_last h hmem) ((mem_latestFacts_iff h hmem).mp hfact)

lemma last_mem_latestFacts {facts init : List Fact} {concept : String} {last : Fact}
    (h : factsForConcept facts concept = init ++ [last]) : last ∈ latestFacts facts concept := by
  have hmem : last ∈ conceptFacts facts concept :=
    (factsForConcept_perm facts concept).mem_iff.mp (by simp [h])
  exact (mem_latestFacts_iff h hmem).mpr le_rfl

/-- **Return metrics average the balances of their own period exactly when** each balance that has an
opening and a closing fact has its latest period end once, on the day on which the numerator's latest
fact ends. -/
theorem balances_match_iff (metric : AverageMetric) (facts : List Fact) :
    BalancesMatch metric facts ↔ LatestBalancesMatch metric facts := by
  unfold BalancesMatch LatestBalancesMatch
  refine forall₂_congr fun balance hbalance => ?_
  rw [lookup_opening hbalance, lookup_closing hbalance, lookup_numerator]
  have hlength := (factsForConcept_perm facts balance.concept).length_eq
  by_cases htwo : 2 ≤ (conceptFacts facts balance.concept).length
  · obtain ⟨init, opening, closing, hlist⟩ := exists_last_two (hlength ▸ htwo)
    have hlast : factsForConcept facts balance.concept = (init ++ [opening]) ++ [closing] := by
      simp [hlist]
    have hnumerator : (∀ numerator,
        (factsForConcept facts metric.numeratorConcept).getLast? = some numerator →
          closing.periodEnd = numerator.periodEnd) ↔
        ∀ fact ∈ latestFacts facts balance.concept,
          ∀ numerator ∈ latestFacts facts metric.numeratorConcept,
            fact.periodEnd = numerator.periodEnd := by
      constructor
      · intro h fact hfact numerator hnumerator
        have hmem : numerator ∈ factsForConcept facts metric.numeratorConcept :=
          (factsForConcept_perm _ _).mem_iff.mpr (List.mem_filter.mp hnumerator).1
        obtain ⟨init', last, hlist'⟩ := List.eq_nil_or_concat'
          (factsForConcept facts metric.numeratorConcept) |>.resolve_left (List.ne_nil_of_mem hmem)
        rw [periodEnd_of_mem_latestFacts hlast hfact, h last (by simp [hlist']),
          periodEnd_of_mem_latestFacts hlist' hnumerator]
      · intro h numerator hnumerator
        obtain ⟨init', hlist'⟩ := List.getLast?_eq_some_iff.mp hnumerator
        exact h closing (last_mem_latestFacts hlast) numerator (last_mem_latestFacts hlist')
    rw [length_latestFacts_eq_one hlist, ← hnumerator]
    constructor
    · intro h _
      exact h opening closing (by simp [hlist]) (by simp [hlist])
    · intro h o c ho hc
      obtain rfl : opening = o := by simpa [hlist] using ho
      obtain rfl : closing = c := by simpa [hlist] using hc
      exact h htwo
  · -- With fewer than two facts there is no opening balance.
    have hnil : (factsForConcept facts balance.concept).dropLast = [] :=
      List.eq_nil_of_length_eq_zero (by rw [List.length_dropLast]; omega)
    constructor
    · intro _ h
      exact absurd h htwo
    · intro _ o c ho
      simp [hnil] at ho

/-! ## A restated balance, and a newer one -/

/-- Equity at the end of a day. -/
def equityAt (id : Uuid) (day : Date) : Fact :=
  { annualCashFlow id with
    canonicalConceptCode := "EQUITY_ATTRIBUTABLE_TO_PARENT"
    financialPeriodId := id
    fiscalYear := day.year
    periodType := .instant
    periodStart := none
    periodEnd := day
    durationDays := none
    isCumulative := false }

/-- The income of the year 2024. -/
def incomeOfYear (id : Uuid) : Fact :=
  { annualCashFlow id with canonicalConceptCode := "NET_INCOME_ATTRIBUTABLE_TO_PARENT" }

def endOf2023 : Date := ⟨2023, 12, 31, validYear_2023, validMonth_12, validDay_2023_12_31⟩

def endOf2024 : Date := ⟨2024, 12, 31, validYear_2024, validMonth_12, validDay_2024_12_31⟩

def endOfMarch2025 : Date := ⟨2025, 3, 31, validYear_2025, validMonth_3, validDay_2025_3_31⟩

/-- With a newer interim balance, the closing balance is not that of the year.  With a restated
balance of the year, the opening balance is not that of its beginning. -/
theorem balances_newer_and_restated :
    ¬ BalancesMatch .roe [incomeOfYear 1, equityAt 2 endOf2023, equityAt 3 endOf2024,
        equityAt 4 endOfMarch2025] ∧
      ¬ BalancesMatch .roe [incomeOfYear 1, equityAt 2 endOf2023, equityAt 3 endOf2024,
        equityAt 4 endOf2024] := by
  constructor
  · intro h
    have hmatch := h .equityParent (by decide) (equityAt 3 endOf2024) (equityAt 4 endOfMarch2025)
      (by decide +kernel) (by decide +kernel)
    have hend := hmatch.2 (incomeOfYear 1) (by decide +kernel)
    exact absurd hend (by decide)
  · intro h
    have hmatch := h .equityParent (by decide) (equityAt 3 endOf2024) (equityAt 4 endOf2024)
      (by decide +kernel) (by decide +kernel)
    exact absurd hmatch.1 (by decide)

end StockResearch.Financials
