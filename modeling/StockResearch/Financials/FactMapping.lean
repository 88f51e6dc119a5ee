import StockResearch.Core.Calendar
import StockResearch.Core.Table
import StockResearch.Core.Unicode
import StockResearch.Core.Uuid

/-!
# Provider fact mappings

Two answers to one question: which canonical concept does a provider's fact stand for?
`resolve_fact_mapping` is the reference: every rule that is not deprecated and fits the fact counts,
a rule without a form fits every form, and only one fitting rule, and an approved one, decides.
`find_approved_fact_mapping` is what production runs: a query for approved mappings of exactly the
fact's form, and the one row that is left.

So the query overlooks two kinds of fitting rules: those with another status, which the reference
takes for a conflict, and approved ones without a form, for a fact with a form.  `agrees_iff` says
when that makes no difference.
-/

namespace StockResearch.Financials

open PyText PyTime Txn

inductive StatementType where
  | incomeStatement | balanceSheet | cashFlow | shares
deriving DecidableEq, Repr

inductive MappingStatus where
  | approved | ambiguous | unmapped | deprecated
deriving DecidableEq, Repr

inductive FactNature where
  | duration | instant | perShare | shares | ratioInput
deriving DecidableEq, Repr

inductive UnitType where
  | monetaryAmount | perShare | shares | ratio
deriving DecidableEq, Repr

/-! ## The reference -/

structure FactMappingInput where
  providerCode : Text
  providerConcept : Text
  taxonomy : Option Text
  statementType : StatementType
  formType : Option Text
  contexts : List Text
  dimensions : List Text
  sourcePublishedOn : Date

structure ProviderFactMappingRule where
  ruleId : Text
  providerCode : Text
  providerConcept : Text
  taxonomy : Option Text
  statementType : StatementType
  formType : Option Text
  contextRules : List Text
  dimensionRules : List Text
  canonicalConcept : Option Text
  status : MappingStatus
  mappingVersion : Text
  validFrom : Option Date
  validTo : Option Date

structure FactMappingResult where
  status : MappingStatus
  canonicalConcept : Option Text
  ruleIds : List Text
  mappingVersion : Option Text
deriving DecidableEq

/-- `_matches` -/
def ruleMatches (fact : FactMappingInput) (rule : ProviderFactMappingRule) : Bool :=
  if rule.status = .deprecated then false
  else if fact.providerCode ≠ rule.providerCode ∨ fact.providerConcept ≠ rule.providerConcept ∨
      fact.taxonomy ≠ rule.taxonomy ∨ fact.statementType ≠ rule.statementType ∨
      (rule.formType ≠ none ∧ fact.formType ≠ rule.formType) then false
  else if ¬ rule.contextRules ⊆ fact.contexts then false
  else if ¬ rule.dimensionRules ⊆ fact.dimensions then false
  else if ∃ d ∈ rule.validFrom, fact.sourcePublishedOn < d then false
  else ∀ d ∈ rule.validTo, ¬ d < fact.sourcePublishedOn

/-- The conditions of a fitting rule, all at once. -/
lemma ruleMatches_iff {fact : FactMappingInput} {rule : ProviderFactMappingRule} :
    ruleMatches fact rule = true ↔ rule.status ≠ .deprecated ∧
      fact.providerCode = rule.providerCode ∧ fact.providerConcept = rule.providerConcept ∧
      fact.taxonomy = rule.taxonomy ∧ fact.statementType = rule.statementType ∧
      (rule.formType = none ∨ fact.formType = rule.formType) ∧ rule.contextRules ⊆ fact.contexts ∧
      rule.dimensionRules ⊆ fact.dimensions ∧ (∀ d ∈ rule.validFrom, ¬ fact.sourcePublishedOn < d) ∧
      ∀ d ∈ rule.validTo, ¬ d < fact.sourcePublishedOn := by
  unfold ruleMatches
  split_ifs <;> simp_all <;> grind

def resolveFactMapping (fact : FactMappingInput) (rules : List ProviderFactMappingRule) :
    FactMappingResult :=
  let found := (rules.filter (ruleMatches fact)).insertionSort
    fun a b => (compare a.ruleId b.ruleId).isLE
  let approved := found.filter fun rule => rule.status = .approved
  if found = [] then ⟨.unmapped, none, [], none⟩
  else
    match found, approved with
    | [_], [selected] =>
        ⟨.approved, selected.canonicalConcept, found.map (·.ruleId), some selected.mappingVersion⟩
    | _, _ => ⟨.ambiguous, none, found.map (·.ruleId), none⟩

/-! ## The stored mappings -/

structure DataProvider where
  id : Uuid
  code : Text
deriving DecidableEq

structure CanonicalFinancialConcept where
  id : Uuid
  code : Text
  factNature : FactNature
  defaultUnitType : UnitType
deriving DecidableEq

structure ProviderFactMapping where
  id : Uuid
  providerId : Uuid
  providerConcept : Text
  taxonomy : Option Text
  statementType : StatementType
  formType : Option Text
  contextRules : List Text
  dimensionRules : List Text
  canonicalConceptId : Option Uuid
  mappingStatus : MappingStatus
  mappingVersion : Text
  validFrom : Option Date
  validTo : Option Date
deriving DecidableEq

instance : Schema DataProvider where
  clash a b := a.id = b.id ∨ a.code = b.code
  check _ := True
  clash_symm _ _ h := h.imp Eq.symm Eq.symm
  decClash _ _ := inferInstance
  decCheck _ := inferInstance

instance : Schema CanonicalFinancialConcept where
  clash a b := a.id = b.id ∨ a.code = b.code
  check _ := True
  clash_symm _ _ h := h.imp Eq.symm Eq.symm
  decClash _ _ := inferInstance
  decCheck _ := inferInstance

/-- The versioned rule of a mapping; a missing taxonomy or form is a value like any other. -/
def ProviderFactMapping.versionedRule (m : ProviderFactMapping) :
    Uuid × Text × Option Text × StatementType × Option Text × Text :=
  (m.providerId, m.providerConcept, m.taxonomy, m.statementType, m.formType, m.mappingVersion)

instance : Schema ProviderFactMapping where
  clash a b := a.id = b.id ∨ a.versionedRule = b.versionedRule
  check m := (∀ f ∈ m.validFrom, ∀ t ∈ m.validTo, ¬ t < f) ∧
    (m.mappingStatus = .approved → m.canonicalConceptId ≠ none)
  clash_symm _ _ h := h.imp Eq.symm Eq.symm
  decClash _ _ := inferInstance
  decCheck _ := inferInstance

/-- The mapping tables with their foreign keys. -/
structure MappingStore where
  dataProviders : Table DataProvider
  concepts : Table CanonicalFinancialConcept
  mappings : Table ProviderFactMapping
  hasProvider : ∀ m ∈ mappings.rows, ∃ p ∈ dataProviders.rows, p.id = m.providerId
  hasConcept : ∀ m ∈ mappings.rows, ∀ i ∈ m.canonicalConceptId, ∃ c ∈ concepts.rows, c.id = i

/-- A raw fact of a provider in the store. -/
structure RawFinancialFact (store : MappingStore) where
  providerId : Uuid
  providerCode : Text
  statementType : StatementType
  providerConcept : Text
  taxonomy : Option Text
  contextId : Option Text
  dimensions : List (Text × Text)
  formType : Option Text
  provider : ⟨providerId, providerCode⟩ ∈ store.dataProviders.rows

structure ApprovedFactMapping where
  mappingId : Uuid
  canonicalConceptId : Uuid
  canonicalConceptCode : Text
  factNature : FactNature
  defaultUnitType : UnitType
  accountingStandard : Text
  mappingVersion : Text
deriving DecidableEq

namespace RawFinancialFact

variable {store : MappingStore} (fact : RawFinancialFact store)

/-- `{fact.context_id}`, if there is one. -/
def contexts : List Text := fact.contextId.toList

/-- `{f"{key}={value}" for key, value in fact.dimensions}` -/
def dimensionTexts : List Text := fact.dimensions.map fun d => d.1 ++ '=' :: d.2

/-- The fact as the reference takes it. -/
def input (asOf : Date) : FactMappingInput where
  providerCode := fact.providerCode
  providerConcept := fact.providerConcept
  taxonomy := fact.taxonomy
  statementType := fact.statementType
  formType := fact.formType
  contexts := fact.contexts
  dimensions := fact.dimensionTexts
  sourcePublishedOn := asOf

end RawFinancialFact

namespace MappingStore

variable (store : MappingStore)

def providerCode (id : Uuid) : Option Text :=
  (store.dataProviders.selectOne fun p => p.id = id).map (·.code)

/-- The concept that a mapping is joined with. -/
def conceptOf (m : ProviderFactMapping) : Option CanonicalFinancialConcept :=
  store.concepts.selectOne fun c => m.canonicalConceptId = some c.id

/-- A stored mapping as a rule of the reference. -/
def rule (m : ProviderFactMapping) : ProviderFactMappingRule where
  ruleId := m.id.chars
  providerCode := (store.providerCode m.providerId).getD []
  providerConcept := m.providerConcept
  taxonomy := m.taxonomy
  statementType := m.statementType
  formType := m.formType
  contextRules := m.contextRules
  dimensionRules := m.dimensionRules
  canonicalConcept := (store.conceptOf m).map (·.code)
  status := m.mappingStatus
  mappingVersion := m.mappingVersion
  validFrom := m.validFrom
  validTo := m.validTo

def rules : List ProviderFactMappingRule := store.mappings.rows.map store.rule

variable {store}

/-- The conditions of the query, its validity interval and the two subset tests that follow it. -/
def selects (fact : RawFinancialFact store) (asOf : Date) (m : ProviderFactMapping) : Bool :=
  m.providerId = fact.providerId && m.providerConcept = fact.providerConcept &&
    m.taxonomy = fact.taxonomy && m.statementType = fact.statementType &&
    m.formType = fact.formType && m.mappingStatus = .approved &&
    m.validFrom.all (fun d => ¬ asOf < d) && m.validTo.all (fun d => ¬ d < asOf) &&
    m.contextRules ⊆ fact.contexts && m.dimensionRules ⊆ fact.dimensionTexts

def findApprovedFactMapping (fact : RawFinancialFact store) (asOf : Date) :
    Option ApprovedFactMapping :=
  let candidates := (store.mappings.rows.filter (selects fact asOf)).filterMap fun m =>
    (store.conceptOf m).map fun c => (m, c)
  match candidates.insertionSort fun a b => a.1.id.bits.toNat ≤ b.1.id.bits.toNat with
  | [(m, c)] =>
      some ⟨m.id, c.id, c.code, c.factNature, c.defaultUnitType,
        (fact.taxonomy.filter (· ≠ [])).getD "PROVIDER_REPORTED".toList, m.mappingVersion⟩
  | _ => none

/-! ## What the query overlooks -/

/-- A mapping fits a fact, its form and its status apart. -/
def fits (fact : RawFinancialFact store) (asOf : Date) (m : ProviderFactMapping) : Bool :=
  m.providerId = fact.providerId && m.providerConcept = fact.providerConcept &&
    m.taxonomy = fact.taxonomy && m.statementType = fact.statementType &&
    m.validFrom.all (fun d => ¬ asOf < d) && m.validTo.all (fun d => ¬ d < asOf) &&
    m.contextRules ⊆ fact.contexts && m.dimensionRules ⊆ fact.dimensionTexts

/-- A fitting mapping that counts for the reference and that the query does not return: it is marked
ambiguous or unmapped, or it is approved for every form and the fact has a form. -/
def overlooks (fact : RawFinancialFact store) (asOf : Date) (m : ProviderFactMapping) : Bool :=
  fits fact asOf m &&
    ((m.mappingStatus = .ambiguous || m.mappingStatus = .unmapped) &&
        (m.formType = none || m.formType = fact.formType) ||
      m.mappingStatus = .approved && m.formType = none && fact.formType ≠ none)

/-- The query and the reference give one answer. -/
def Agrees (fact : RawFinancialFact store) (asOf : Date) : Prop :=
  match findApprovedFactMapping fact asOf with
  | some found =>
      resolveFactMapping (fact.input asOf) store.rules =
        ⟨.approved, some found.canonicalConceptCode, [found.mappingId.chars],
          some found.mappingVersion⟩
  | none => (resolveFactMapping (fact.input asOf) store.rules).status ≠ .approved

/-- What the query relies on: next to one selected mapping nothing is overlooked, and where nothing is
selected the overlooked mappings are not a single approved one. -/
structure NothingOverlooked (fact : RawFinancialFact store) (asOf : Date) : Prop where
  one : (store.mappings.rows.filter (selects fact asOf)).length = 1 →
    store.mappings.rows.filter (overlooks fact asOf) = []
  zero : store.mappings.rows.filter (selects fact asOf) = [] →
    ∀ m, store.mappings.rows.filter (overlooks fact asOf) = [m] → m.mappingStatus ≠ .approved

variable {fact : RawFinancialFact store} {asOf : Date}

lemma providerCode_eq_iff {m : ProviderFactMapping} (hm : m ∈ store.mappings.rows) :
    fact.providerCode = (store.providerCode m.providerId).getD [] ↔ m.providerId = fact.providerId := by
  rcases store.hasProvider m hm with ⟨p, hp, hid⟩
  have hcode : store.providerCode m.providerId = some p.code := by
    cases hsel : store.dataProviders.selectOne fun q => q.id = m.providerId with
    | none =>
        have hnone := Table.selectOne_eq_none.mp hsel p hp
        simp [hid] at hnone
    | some q =>
        rcases Table.mem_of_selectOne hsel with ⟨hq, hqid⟩
        have hqp : q = p := Table.eq_of_clash hq hp (Or.inl ((of_decide_eq_true hqid).trans hid.symm))
        simp [providerCode, hsel, hqp]
  rw [hcode, Option.getD_some, ← hid]
  constructor
  · intro h
    have heq := Table.eq_of_clash hp fact.provider (Or.inr h.symm)
    simp [heq]
  · intro h
    have heq := Table.eq_of_clash hp fact.provider (Or.inl h)
    simp [heq]

/-- The reference counts what the query selects and what it overlooks. -/
lemma ruleMatches_eq {m : ProviderFactMapping} (hm : m ∈ store.mappings.rows) :
    ruleMatches (fact.input asOf) (store.rule m) = (selects fact asOf m || overlooks fact asOf m) := by
  have hprovider : fact.providerCode = (store.providerCode m.providerId).getD [] ↔
      m.providerId = fact.providerId := providerCode_eq_iff hm
  rw [Bool.eq_iff_iff, ruleMatches_iff]
  simp only [selects, overlooks, fits, rule, RawFinancialFact.input, Bool.or_eq_true,
    Bool.and_eq_true, decide_eq_true_eq, Option.all_eq_true, Option.mem_def, hprovider]
  cases hstatus : m.mappingStatus with
  | approved =>
      by_cases hform : m.formType = none
      · cases fact.formType <;> grind
      · grind
  | ambiguous => grind
  | unmapped => grind
  | deprecated => simp

lemma not_overlooks_of_selects {m : ProviderFactMapping} (h : selects fact asOf m = true) :
    overlooks fact asOf m = false := by
  simp only [selects, Bool.and_eq_true, decide_eq_true_eq] at h
  simp [overlooks, h]

/-- The rules that fit, as stored mappings. -/
lemma filter_rules : store.rules.filter (ruleMatches (fact.input asOf)) =
    (store.mappings.rows.filter fun m => selects fact asOf m || overlooks fact asOf m).map
      store.rule := by
  rw [rules, List.filter_map]
  congr 1
  exact List.filter_congr fun m hm => ruleMatches_eq hm

lemma length_filter_or (fact : RawFinancialFact store) (asOf : Date)
    (rows : List ProviderFactMapping) :
    (rows.filter fun m => selects fact asOf m || overlooks fact asOf m).length =
      (rows.filter (selects fact asOf)).length + (rows.filter (overlooks fact asOf)).length := by
  induction rows with
  | nil => rfl
  | cons m rows ih =>
      by_cases hsel : selects fact asOf m = true
      · simp [hsel, not_overlooks_of_selects hsel, ih]
        omega
      · by_cases hover : overlooks fact asOf m = true
        · simp [hsel, hover, ih]
          omega
        · simp [hsel, hover, ih]

/-- A selected mapping is approved, so it is joined with a concept. -/
lemma exists_conceptOf {m : ProviderFactMapping} (hm : m ∈ store.mappings.rows)
    (happroved : m.mappingStatus = .approved) : ∃ c, store.conceptOf m = some c := by
  have hsome := (store.mappings.checked m hm).2 happroved
  rcases Option.ne_none_iff_exists'.mp hsome with ⟨i, hi⟩
  rcases store.hasConcept m hm i hi with ⟨c, hc, hid⟩
  cases hsel : store.conceptOf m with
  | none =>
      have hnone := Table.selectOne_eq_none.mp hsel c hc
      simp [hi, hid] at hnone
  | some c' => exact ⟨c', rfl⟩

lemma approved_of_selects {m : ProviderFactMapping} (h : selects fact asOf m = true) :
    m.mappingStatus = .approved := by
  simp only [selects, Bool.and_eq_true, decide_eq_true_eq] at h
  exact h.1.1.1.1.2

/-- The join loses no selected mapping. -/
lemma exists_candidates (rows : List ProviderFactMapping)
    (hrows : ∀ m ∈ rows, ∃ c, store.conceptOf m = some c) :
    ∃ pairs : List (ProviderFactMapping × CanonicalFinancialConcept),
      (rows.filterMap fun m => (store.conceptOf m).map fun c => (m, c)) = pairs ∧
      pairs.map (·.1) = rows ∧ ∀ pair ∈ pairs, store.conceptOf pair.1 = some pair.2 := by
  refine ⟨_, rfl, ?_, ?_⟩
  · induction rows with
    | nil => rfl
    | cons m rows ih =>
        rcases hrows m (by simp) with ⟨c, hc⟩
        simp [hc, ih fun m' hm' => hrows m' (by simp [hm'])]
  · intro pair hpair
    rcases List.mem_filterMap.mp hpair with ⟨m, -, hm⟩
    rcases Option.map_eq_some_iff.mp hm with ⟨c, hc, rfl⟩
    exact hc

/-- Sorting keeps a second element. -/
lemma exists_insertionSort_cons_cons {α : Type} (r : α → α → Prop) [DecidableRel r] (a b : α)
    (rest : List α) : ∃ x y zs, (a :: b :: rest).insertionSort r = x :: y :: zs := by
  have hlength := List.length_insertionSort r (a :: b :: rest)
  match hsort : (a :: b :: rest).insertionSort r with
  | [] => simp [hsort] at hlength
  | [_] => simp [hsort] at hlength
  | x :: y :: zs => exact ⟨x, y, zs, rfl⟩

/-- The query answers exactly when it selects one mapping. -/
lemma findApprovedFactMapping_eq (fact : RawFinancialFact store) (asOf : Date) :
    match store.mappings.rows.filter (selects fact asOf) with
    | [m] => ∃ c found, store.conceptOf m = some c ∧ findApprovedFactMapping fact asOf = some found ∧
        found.mappingId = m.id ∧ found.canonicalConceptCode = c.code ∧
        found.mappingVersion = m.mappingVersion
    | _ => findApprovedFactMapping fact asOf = none := by
  have hjoined : ∀ m ∈ store.mappings.rows.filter (selects fact asOf),
      ∃ c, store.conceptOf m = some c := by
    intro m hm
    rcases List.mem_filter.mp hm with ⟨hmem, hsel⟩
    exact exists_conceptOf hmem (approved_of_selects hsel)
  rcases exists_candidates _ hjoined with ⟨pairs, hpairs, hfst, hconcept⟩
  simp only [findApprovedFactMapping, hpairs]
  rw [← hfst]
  match pairs with
  | [] => simp
  | [(m, c)] => exact ⟨c, _, hconcept (m, c) (by simp), rfl, rfl, rfl, rfl⟩
  | a :: b :: rest =>
      rcases exists_insertionSort_cons_cons
        (fun a b => a.1.id.bits.toNat ≤ b.1.id.bits.toNat) a b rest with ⟨x, y, zs, hsort⟩
      rw [hsort]
      rfl

/-- The reference answers exactly when one mapping fits and is approved. -/
lemma resolveFactMapping_eq (fact : RawFinancialFact store) (asOf : Date) :
    match store.mappings.rows.filter fun m => selects fact asOf m || overlooks fact asOf m with
    | [m] => if m.mappingStatus = .approved then
        resolveFactMapping (fact.input asOf) store.rules =
          ⟨.approved, (store.conceptOf m).map (·.code), [m.id.chars], some m.mappingVersion⟩
        else (resolveFactMapping (fact.input asOf) store.rules).status ≠ .approved
    | _ => (resolveFactMapping (fact.input asOf) store.rules).status ≠ .approved := by
  simp only [resolveFactMapping, filter_rules]
  match store.mappings.rows.filter fun m => selects fact asOf m || overlooks fact asOf m with
  | [] => simp
  | [m] =>
      by_cases happroved : m.mappingStatus = .approved
      · simp [happroved, rule]
      · simp [happroved, rule]
  | a :: b :: rest =>
      rcases exists_insertionSort_cons_cons
        (fun a b => (compare a.ruleId b.ruleId).isLE = true) (store.rule a) (store.rule b)
        (rest.map store.rule) with ⟨x, y, zs, hsort⟩
      rw [List.map_cons, List.map_cons, hsort]
      simp

/-- Two fitting mappings are a conflict for the reference. -/
lemma not_approved_of_two_le (h : 2 ≤ (store.mappings.rows.filter
    fun m => selects fact asOf m || overlooks fact asOf m).length) :
    (resolveFactMapping (fact.input asOf) store.rules).status ≠ .approved := by
  have hreference := resolveFactMapping_eq fact asOf
  match hall : store.mappings.rows.filter
      fun m => selects fact asOf m || overlooks fact asOf m with
  | [] => simp [hall] at h
  | [_] => simp [hall] at h
  | _ :: _ :: _ => simpa only [hall] using hreference

/-- **When the query is the reference.**  They give one answer exactly when next to a single selected
mapping nothing is overlooked, and where nothing is selected the overlooked mappings are not a single
approved one. -/
theorem agrees_iff (store : MappingStore) (fact : RawFinancialFact store) (asOf : Date) :
    Agrees fact asOf ↔ NothingOverlooked fact asOf := by
  have hquery := findApprovedFactMapping_eq fact asOf
  have hreference := resolveFactMapping_eq fact asOf
  have hlength := length_filter_or fact asOf store.mappings.rows
  have hsplit : store.mappings.rows.filter (overlooks fact asOf) = [] →
      (store.mappings.rows.filter fun m => selects fact asOf m || overlooks fact asOf m) =
        store.mappings.rows.filter (selects fact asOf) := by
    intro hnone
    refine List.filter_congr fun m hm => ?_
    simp [List.filter_eq_nil_iff.mp hnone m hm]
  have hrest : store.mappings.rows.filter (selects fact asOf) = [] →
      (store.mappings.rows.filter fun m => selects fact asOf m || overlooks fact asOf m) =
        store.mappings.rows.filter (overlooks fact asOf) := by
    intro hnone
    refine List.filter_congr fun m hm => ?_
    simp [List.filter_eq_nil_iff.mp hnone m hm]
  match hselected : store.mappings.rows.filter (selects fact asOf) with
  | [] =>
      rw [hrest hselected] at hreference
      simp only [hselected] at hquery
      have hiff : NothingOverlooked fact asOf ↔
          ∀ m, store.mappings.rows.filter (overlooks fact asOf) = [m] →
            m.mappingStatus ≠ .approved := by
        constructor
        · intro h
          exact h.zero hselected
        · intro h
          exact ⟨by simp [hselected], fun _ => h⟩
      rw [hiff, Agrees, hquery]
      match hover : store.mappings.rows.filter (overlooks fact asOf) with
      | [] => simp_all
      | [m] =>
          simp only [hover] at hreference
          split_ifs at hreference with happroved
          · simp [hreference, happroved]
          · simp [hreference, happroved]
      | _ :: _ :: _ => simp_all
  | [m] =>
      simp only [hselected] at hquery
      rcases hquery with ⟨c, found, hconcept, hfound, hid, hcode, hversion⟩
      have happroved : m.mappingStatus = .approved :=
        approved_of_selects (List.mem_filter.mp (hselected ▸ List.mem_singleton_self m)).2
      have hiff : NothingOverlooked fact asOf ↔
          store.mappings.rows.filter (overlooks fact asOf) = [] := by
        constructor
        · intro h
          exact h.one (by simp [hselected])
        · intro h
          exact ⟨fun _ => h, by simp [hselected]⟩
      rw [hiff, Agrees, hfound]
      by_cases hnone : store.mappings.rows.filter (overlooks fact asOf) = []
      · rw [hsplit hnone, hselected] at hreference
        simp only [happroved, if_true, hconcept] at hreference
        simp [hnone, hreference, hid, hcode, hversion]
      · have hpos := List.length_pos_of_ne_nil hnone
        rw [hselected, List.length_singleton] at hlength
        have hconflict : (resolveFactMapping (fact.input asOf) store.rules).status ≠ .approved :=
          not_approved_of_two_le (by omega)
        refine iff_of_false ?_ hnone
        intro hresult
        exact hconflict (by rw [hresult])
  | a :: b :: rest =>
      simp only [hselected] at hquery
      rw [hselected] at hlength
      simp only [List.length_cons] at hlength
      rw [Agrees, hquery]
      exact iff_of_true (not_approved_of_two_le (by omega))
        ⟨by simp [hselected], by simp [hselected]⟩

end MappingStore

/-! ## A mapping for every form -/

/-- A store with one approved mapping, for every form. -/
def formlessStore : MappingStore where
  dataProviders := ⟨[⟨1, "SEC_EDGAR".toList⟩], by decide, by decide⟩
  concepts := ⟨[⟨2, "REVENUE".toList, .duration, .monetaryAmount⟩], by decide, by decide⟩
  mappings := ⟨[⟨3, 1, "Revenues".toList, some "us-gaap".toList, .incomeStatement, none, [], [],
    some 2, .approved, "1.0.0".toList, none, none⟩], by decide, by decide⟩
  hasProvider := by decide
  hasConcept := by decide

/-- A fact that was reported in a form 10-K. -/
def annualRevenue : RawFinancialFact formlessStore where
  providerId := 1
  providerCode := "SEC_EDGAR".toList
  statementType := .incomeStatement
  providerConcept := "Revenues".toList
  taxonomy := some "us-gaap".toList
  contextId := none
  dimensions := []
  formType := some "10-K".toList
  provider := by decide

/-- The reference maps it, the query does not. -/
theorem not_agrees_formless :
    ¬ MappingStore.Agrees annualRevenue ⟨2024, 1, 2, by decide, by decide, by decide⟩ := by
  have hquery : MappingStore.findApprovedFactMapping annualRevenue
      ⟨2024, 1, 2, by decide, by decide, by decide⟩ = none := by decide +kernel
  have hreference : (resolveFactMapping
      (annualRevenue.input ⟨2024, 1, 2, by decide, by decide, by decide⟩)
      formlessStore.rules).status = .approved := by decide +kernel
  simp only [MappingStore.Agrees, hquery]
  exact not_not_intro hreference

end StockResearch.Financials
