import StockResearch.Core.LastMatch
import StockResearch.Financials.TtmLaw

/-!
# How far the trailing window reaches

The trailing twelve months should end with the newest fact of their concept.  `_bind_ttm_inputs` takes
the last four single quarters if they are consecutive, whatever cumulative facts end later, and else
walks back over years and year-to-date facts until three of them can be bridged.

**The walk.**  `bindTtmInputs_bridge`: it stops at the last year that can be bridged, and there at the
last year-to-date fact.

**`window_current_iff`**: no comparable fact ends after the window exactly when the facts that the walk
may use reach as far as all others.

**`newer_year_ignored`**: a year that ends later than the window, and is not bridged for want of a later
year-to-date fact.
-/

namespace StockResearch.Financials

open PyTime PyDecimal LastMatch

/-! ## Windows -/

/-- An annual, year-to-date or single-quarter fact. -/
def isDuration (fact : Fact) : Bool :=
  fact.periodType = .annual || fact.isCumulative || fact.isSingleQuarter

/-- Facts in one unit, one currency and one accounting standard. -/
def SameBasis (a b : Fact) : Prop :=
  b.normalizedUnit = a.normalizedUnit ∧ b.currencyCode = a.currencyCode ∧
    b.accountingStandard = a.accountingStandard

def windowEnd (selected : Selected) : Option Date :=
  ((selected.lookup .quarter4).or (selected.lookup .latestYtd)).map (·.periodEnd)

/-- No duration fact that can be compared with a bound one ends after the window. -/
def WindowCurrent (conceptFacts : List Fact) : Prop :=
  ∀ bound ∈ bindTtmInputs conceptFacts, ∀ fact ∈ conceptFacts, isDuration fact = true →
    SameBasis bound.2 fact →
    ∃ last, windowEnd (bindTtmInputs conceptFacts) = some last ∧ fact.periodEnd ≤ last

/-- A fact that ends no earlier than every duration fact on a basis. -/
def EndsLast (conceptFacts : List Fact) (basis fact : Fact) : Prop :=
  ∀ other ∈ conceptFacts, isDuration other = true → SameBasis basis other →
    other.periodEnd ≤ fact.periodEnd

/-- A year and a later year-to-date fact that can be bridged: the last year-to-date fact of the year
itself is comparable. -/
def Bridgeable (conceptFacts : List Fact) (annual latestYtd : Fact) : Prop :=
  isLatestYtdOf annual latestYtd = true ∧
    ∃ priorYtd, (conceptFacts.filter (isPriorYtdOf annual latestYtd)).getLast? = some priorYtd ∧
      sameTtmBasis [annual, latestYtd, priorYtd] ∧ durationsAreComparable latestYtd priorYtd = true

def LastBridged (conceptFacts : List Fact) (annual : Fact) : Prop :=
  IsLast (fun year => ∃ latestYtd ∈ conceptFacts, Bridgeable conceptFacts year latestYtd)
    (conceptFacts.filter isCumulativeYear) annual

/-- The last four single quarters. -/
def lastQuarters (conceptFacts : List Fact) : List Fact :=
  lastFour (conceptFacts.filter isPlainQuarter)

/-- The usable facts reach as far as all others: one of the last four quarters, or a year-to-date fact
that can be bridged from the last year that can be bridged. -/
def Reaches (conceptFacts : List Fact) : Prop :=
  if (lastQuarters conceptFacts).length = 4 ∧ quartersAreComparable (lastQuarters conceptFacts) then
    ∃ quarter ∈ lastQuarters conceptFacts, EndsLast conceptFacts quarter quarter
  else ∀ annual, LastBridged conceptFacts annual →
    ∃ latestYtd ∈ conceptFacts, Bridgeable conceptFacts annual latestYtd ∧
      EndsLast conceptFacts annual latestYtd

/-! ## The walk -/

variable {conceptFacts : List Fact} {annual latestYtd : Fact}

lemma bridgeFrom_eq_some {selected : Selected} (hlatest : isLatestYtdOf annual latestYtd = true) :
    bridgeFrom conceptFacts annual latestYtd = some selected ↔
      Bridgeable conceptFacts annual latestYtd ∧ ∃ priorYtd,
        sameTtmBasis [annual, latestYtd, priorYtd] ∧
          selected = [(.latestFy, annual), (.latestYtd, latestYtd), (.priorYtd, priorYtd)] ∧
          (conceptFacts.filter (isPriorYtdOf annual latestYtd)).getLast? = some priorYtd := by
  rw [bridgeFrom, Option.bind_eq_some_iff]
  constructor
  · rintro ⟨priorYtd, hprior, hbridge⟩
    rw [bridgeOver] at hbridge
    split at hbridge
    case isTrue hbasis =>
      cases hbridge
      exact ⟨⟨hlatest, priorYtd, hprior, hbasis⟩, priorYtd, hbasis.1, rfl, hprior⟩
    case isFalse => cases hbridge
  · rintro ⟨⟨-, priorYtd, hprior, hbasis⟩, priorYtd', -, rfl, hprior'⟩
    rw [hprior] at hprior'
    cases hprior'
    exact ⟨priorYtd, hprior, if_pos hbasis⟩

lemma bridgeFrom_ne_none (hlatest : isLatestYtdOf annual latestYtd = true) :
    bridgeFrom conceptFacts annual latestYtd ≠ none ↔ Bridgeable conceptFacts annual latestYtd := by
  rw [Option.ne_none_iff_exists']
  constructor
  · rintro ⟨selected, h⟩
    exact ((bridgeFrom_eq_some hlatest).mp h).1
  · rintro h
    obtain ⟨priorYtd, hprior, hbasis⟩ := h.2
    exact ⟨_, (bridgeFrom_eq_some hlatest).mpr ⟨h, priorYtd, hbasis.1, rfl, hprior⟩⟩

/-- The last year-to-date fact that a year can be bridged to. -/
def LastBridge (conceptFacts : List Fact) (annual latestYtd : Fact) : Prop :=
  IsLast (Bridgeable conceptFacts annual) (conceptFacts.filter (isLatestYtdOf annual)) latestYtd

lemma bridgeFromYear_eq_some {selected : Selected} :
    bridgeFromYear conceptFacts annual = some selected ↔
      ∃ latestYtd, LastBridge conceptFacts annual latestYtd ∧
        bridgeFrom conceptFacts annual latestYtd = some selected := by
  have hbridge : ∀ latestYtd ∈ conceptFacts.filter (isLatestYtdOf annual),
      bridgeFrom conceptFacts annual latestYtd ≠ none ↔ Bridgeable conceptFacts annual latestYtd :=
    fun latestYtd h => bridgeFrom_ne_none (List.mem_filter.mp h).2
  rw [bridgeFromYear, findSome?_reverse_iff]
  constructor
  · rintro ⟨latestYtd, hlast, hselected⟩
    exact ⟨latestYtd, hlast.congr hbridge, hselected⟩
  · rintro ⟨latestYtd, hlast, hselected⟩
    exact ⟨latestYtd, hlast.congr fun x hx => (hbridge x hx).symm, hselected⟩

lemma bridgeFromYear_ne_none :
    bridgeFromYear conceptFacts annual ≠ none ↔
      ∃ latestYtd ∈ conceptFacts, Bridgeable conceptFacts annual latestYtd := by
  constructor
  · intro h
    obtain ⟨selected, h⟩ := Option.ne_none_iff_exists'.mp h
    obtain ⟨latestYtd, hlast, -⟩ := bridgeFromYear_eq_some.mp h
    exact ⟨latestYtd, (List.mem_filter.mp hlast.mem).1, hlast.holds⟩
  · rintro ⟨latestYtd, hmem, hbridgeable⟩ hnone
    rw [bridgeFromYear, findSome?_reverse_none_iff] at hnone
    exact (bridgeFrom_ne_none hbridgeable.1).mpr hbridgeable
      (hnone latestYtd (List.mem_filter.mpr ⟨hmem, hbridgeable.1⟩))

/-- **The walk stops at the last year that can be bridged**, and there at the last year-to-date
fact. -/
lemma bindTtmInputs_bridge
    (hquarters : ¬ ((lastQuarters conceptFacts).length = 4 ∧
      quartersAreComparable (lastQuarters conceptFacts))) :
    (bindTtmInputs conceptFacts = [] ∧ ∀ annual, ¬ LastBridged conceptFacts annual) ∨
      ∃ annual latestYtd priorYtd,
        bindTtmInputs conceptFacts =
          [(.latestFy, annual), (.latestYtd, latestYtd), (.priorYtd, priorYtd)] ∧
        LastBridged conceptFacts annual ∧ LastBridge conceptFacts annual latestYtd ∧
        sameTtmBasis [annual, latestYtd, priorYtd] := by
  have hbind : bindTtmInputs conceptFacts = ((conceptFacts.filter isCumulativeYear).reverse.findSome?
      (bridgeFromYear conceptFacts)).getD [] := if_neg hquarters
  rw [hbind]
  cases hyears : (conceptFacts.filter isCumulativeYear).reverse.findSome?
      (bridgeFromYear conceptFacts) with
  | none =>
      refine .inl ⟨rfl, fun annual hlast => ?_⟩
      have hnone := findSome?_reverse_none_iff.mp hyears annual hlast.mem
      exact bridgeFromYear_ne_none.mpr hlast.holds hnone
  | some selected =>
      right
      obtain ⟨annual, hlast, hselected⟩ := findSome?_reverse_iff.mp hyears
      obtain ⟨latestYtd, hbridge, hselected⟩ := bridgeFromYear_eq_some.mp hselected
      obtain ⟨-, priorYtd, hbasis, rfl, -⟩ :=
        (bridgeFrom_eq_some (List.mem_filter.mp hbridge.mem).2).mp hselected
      refine ⟨annual, latestYtd, priorYtd, rfl, ?_, hbridge, hbasis⟩
      exact hlast.congr fun year _ => bridgeFromYear_ne_none

/-! ## Bases -/

lemma SameBasis.congr {a b : Fact} (h : SameBasis a b) (fact : Fact) :
    SameBasis b fact ↔ SameBasis a fact := by
  obtain ⟨hunit, hcurrency, hstandard⟩ := h
  rw [SameBasis, SameBasis, hunit, hcurrency, hstandard]

lemma sameBasis_of_sameTtmBasis {first : Fact} {rest : List Fact}
    (h : sameTtmBasis (first :: rest)) : ∀ fact ∈ first :: rest, SameBasis first fact := by
  rintro fact (_ | ⟨_, hfact⟩)
  · exact ⟨rfl, rfl, rfl⟩
  · exact h.2 fact hfact

/-- One basis for all facts of a binding. -/
lemma endsLast_congr {first fact : Fact} {rest : List Fact} (h : sameTtmBasis (first :: rest))
    {basis : Fact} (hbasis : basis ∈ first :: rest) :
    EndsLast conceptFacts basis fact ↔ EndsLast conceptFacts first fact := by
  have hsame := (sameBasis_of_sameTtmBasis h basis hbasis).congr
  rw [EndsLast, EndsLast]
  simp only [hsame]

lemma EndsLast.mono {basis a b : Fact} (h : EndsLast conceptFacts basis a)
    (hab : a.periodEnd ≤ b.periodEnd) : EndsLast conceptFacts basis b :=
  fun other hother hduration hsame => (h other hother hduration hsame).trans hab

/-- The window of a binding on one basis. -/
lemma windowCurrent_iff {selected : Selected} {first last : Fact} {rest : List Fact}
    (hbind : bindTtmInputs conceptFacts = selected) (hfacts : selected.map (·.2) = first :: rest)
    (hbasis : sameTtmBasis (first :: rest)) (hwindow : windowEnd selected = some last.periodEnd) :
    WindowCurrent conceptFacts ↔ EndsLast conceptFacts first last := by
  have hmem : ∀ {fact : Fact}, (∃ bound ∈ selected, bound.2 = fact) ↔ fact ∈ first :: rest := by
    intro fact
    rw [← hfacts, List.mem_map]
  rw [WindowCurrent, hbind, hwindow]
  constructor
  · intro h fact hfact hduration hsame
    obtain ⟨bound, hbound, hfirst⟩ := hmem.mpr (List.mem_cons_self ..)
    obtain ⟨e, he, hle⟩ := h bound hbound fact hfact hduration (hfirst ▸ hsame)
    cases he
    exact hle
  · intro h bound hbound fact hfact hduration hsame
    have hrest := hmem.mp ⟨bound, hbound, rfl⟩
    exact ⟨_, rfl, (endsLast_congr hbasis hrest).mpr h fact hfact hduration hsame⟩

/-! ## The condition -/

/-- Four quarters in a row. -/
lemma windowCurrent_quarters
    (hsorted : conceptFacts.Pairwise fun a b => a.periodEnd ≤ b.periodEnd)
    (hquarters : (lastQuarters conceptFacts).length = 4 ∧
      quartersAreComparable (lastQuarters conceptFacts)) :
    WindowCurrent conceptFacts ↔
      ∃ quarter ∈ lastQuarters conceptFacts, EndsLast conceptFacts quarter quarter := by
  have hbind : bindTtmInputs conceptFacts = quarterRoles.zip (lastQuarters conceptFacts) :=
    if_pos hquarters
  have hsub : (lastQuarters conceptFacts).Sublist conceptFacts :=
    (List.drop_sublist _ _).trans List.filter_sublist
  have hordered := hsorted.sublist hsub
  obtain ⟨hlength, hbasis, -⟩ := hquarters
  obtain ⟨f₁, f₂, f₃, f₄, hlist⟩ := exists_four hlength
  rw [hlist] at hbind hbasis hordered ⊢
  have hlast : ∀ quarter ∈ [f₁, f₂, f₃, f₄], quarter.periodEnd ≤ f₄.periodEnd := by
    simp only [List.pairwise_cons, List.mem_cons, List.not_mem_nil, or_false] at hordered ⊢
    rintro quarter (rfl | rfl | rfl | rfl)
    · exact hordered.1 _ (by simp)
    · exact hordered.2.1 _ (by simp)
    · exact hordered.2.2.1 _ rfl
    · exact le_refl _
  rw [windowCurrent_iff hbind rfl hbasis rfl]
  constructor
  · intro h
    exact ⟨f₄, by simp, (endsLast_congr hbasis (by simp)).mpr h⟩
  · rintro ⟨quarter, hquarter, h⟩
    exact ((endsLast_congr hbasis hquarter).mp h).mono (hlast quarter hquarter)

/-- A bridge over three facts. -/
lemma windowCurrent_bridge
    (hsorted : conceptFacts.Pairwise fun a b => a.periodEnd ≤ b.periodEnd)
    (hquarters : ¬ ((lastQuarters conceptFacts).length = 4 ∧
      quartersAreComparable (lastQuarters conceptFacts))) :
    WindowCurrent conceptFacts ↔ ∀ annual, LastBridged conceptFacts annual →
      ∃ latestYtd ∈ conceptFacts, Bridgeable conceptFacts annual latestYtd ∧
        EndsLast conceptFacts annual latestYtd := by
  rcases bindTtmInputs_bridge hquarters with ⟨hbind, hnone⟩ |
    ⟨annual, latestYtd, priorYtd, hbind, hlast, hbridge, hbasis⟩
  · constructor
    · exact fun _ annual hannual => absurd hannual (hnone annual)
    · intro _ bound hbound
      rw [hbind] at hbound
      cases hbound
  · rw [windowCurrent_iff hbind rfl hbasis rfl]
    have hmem := List.mem_filter.mp hbridge.mem
    constructor
    · rintro h annual' hannual'
      obtain rfl := hannual'.unique hlast
      exact ⟨latestYtd, hmem.1, hbridge.holds, h⟩
    · intro h
      obtain ⟨latestYtd', hmem', hbridgeable, hends⟩ := h annual hlast
      -- The walk passes every year-to-date fact that can be bridged before it stops.
      have hfiltered := hsorted.sublist
        (List.filter_sublist (p := isLatestYtdOf annual) (l := conceptFacts))
      rcases hbridge.rel hfiltered (List.mem_filter.mpr ⟨hmem', hbridgeable.1⟩) hbridgeable with
        rfl | hle
      · exact hends
      · exact hends.mono hle

/-- **The window reaches the newest comparable fact exactly when the usable facts do.** -/
theorem window_current_iff (facts : List Fact) (concept : String) :
    WindowCurrent (factsForConcept facts concept) ↔ Reaches (factsForConcept facts concept) := by
  have hsorted := factsForConcept_sorted facts concept
  rw [Reaches]
  split
  case isTrue hquarters => exact windowCurrent_quarters hsorted hquarters
  case isFalse hquarters => exact windowCurrent_bridge hsorted hquarters

/-- Revenue since the start of a year. -/
def cumulativeRevenueFact (id : Uuid) (type : PeriodType) (quarter : Option Int) (days : Int)
    (periodStart periodEnd : Date) : Fact :=
  { annualCashFlow id with
    canonicalConceptCode := "REVENUE"
    financialPeriodId := id
    fiscalYear := periodEnd.year
    fiscalQuarter := quarter
    periodType := type
    periodStart := some periodStart
    periodEnd := periodEnd
    durationDays := some days }

def nineMonthsOf2023 : Fact :=
  cumulativeRevenueFact 1 .nineMonthYtd (some 3) 273
    ⟨2023, 1, 1, validYear_2023, validMonth_1, validDay_2023_1_1⟩
    ⟨2023, 9, 30, validYear_2023, validMonth_9, by decide⟩

def yearOf2023 : Fact :=
  cumulativeRevenueFact 2 .annual none 365
    ⟨2023, 1, 1, validYear_2023, validMonth_1, validDay_2023_1_1⟩
    ⟨2023, 12, 31, validYear_2023, validMonth_12, validDay_2023_12_31⟩

def nineMonthsOf2024 : Fact :=
  cumulativeRevenueFact 3 .nineMonthYtd (some 3) 274
    ⟨2024, 1, 1, validYear_2024, validMonth_1, validDay_2024_1_1⟩
    ⟨2024, 9, 30, validYear_2024, validMonth_9, validDay_2024_9_30⟩

def yearOf2024 : Fact :=
  cumulativeRevenueFact 4 .annual none 366
    ⟨2024, 1, 1, validYear_2024, validMonth_1, validDay_2024_1_1⟩
    ⟨2024, 12, 31, validYear_2024, validMonth_12, validDay_2024_12_31⟩

/-- Two years and their first nine months. -/
def revenueOfTwoYears : List Fact := [nineMonthsOf2023, yearOf2023, nineMonthsOf2024, yearOf2024]

/-- The trailing twelve months end in September 2024, though the whole year is there. -/
theorem newer_year_ignored :
    bindTtmInputs (factsForConcept revenueOfTwoYears "REVENUE") =
      [(.latestFy, yearOf2023), (.latestYtd, nineMonthsOf2024), (.priorYtd, nineMonthsOf2023)] ∧
    ¬ WindowCurrent (factsForConcept revenueOfTwoYears "REVENUE") := by
  have hbind : bindTtmInputs (factsForConcept revenueOfTwoYears "REVENUE") =
      [(.latestFy, yearOf2023), (.latestYtd, nineMonthsOf2024), (.priorYtd, nineMonthsOf2023)] := by
    decide +kernel
  refine ⟨hbind, fun h => ?_⟩
  rw [windowCurrent_iff hbind rfl (by decide +kernel) rfl] at h
  have hnewest := h yearOf2024 (by decide +kernel) (by decide +kernel)
    (by unfold SameBasis; decide +kernel)
  revert hnewest
  decide +kernel

end StockResearch.Financials
