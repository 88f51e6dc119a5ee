import StockResearch.Core.Chronology
import StockResearch.Core.Decimal
import StockResearch.Core.Dict
import StockResearch.Core.Sorting
import StockResearch.Core.Uuid
import StockResearch.Financials.Formulas
import Mathlib.Data.Finset.Card
import Mathlib.Data.Prod.Lex

/-!
# Fact versions as of a time

`select_fact_versions_as_of` goes through the candidates in the order of their identity and their
identifier, sets aside those whose publication is unknown or later than the cutoff, and picks from
each identity that is left the version that was published last.  Versions that were published
together and differ in value are a conflict, and nothing is picked.

**The sweep.**  `sweep_eq`: the loop over the candidates sorts them into three.

**One identity.**  `resolution_cases`: what comes of the versions of one identity.

**The selection.**  `select_eq`, and from it **`fact_version_selection`**: a partition, one version
for each identity without a conflict, no order, and no look-ahead.
-/

namespace StockResearch.Financials

open PyTime PyDecimal

/-- A version of a fact.  Times are those with an offset; `__post_init__` refuses an empty identity
and a value that is not finite. -/
structure FactVersionCandidate where
  factId : Uuid
  identityKey : String
  value : Decimal
  sourcePublishedAt : Option Instant
  retrievedAt : Instant
  isRestated : Bool
  identified : identityKey ≠ ""

structure AsOfFactSelection where
  status : QualityStatus
  selectedFactIds : List Uuid
  excludedFactIds : List Uuid
  warnings : List String
deriving DecidableEq

/-! ## The loop over the candidates -/

/-- `(item.identity_key, str(item.fact_id))` -/
def candidateKey (c : FactVersionCandidate) : String ×ₗ Uuid := toLex (c.identityKey, c.factId)

def sortCandidates (candidates : List FactVersionCandidate) : List FactVersionCandidate :=
  candidates.insertionSort fun a b => candidateKey a ≤ candidateKey b

/-- What the loop over the candidates keeps. -/
structure Sweep where
  excluded : List Uuid
  warnings : List String
  eligibleByIdentity : List (String × List FactVersionCandidate)

/-- `f"SOURCE_PUBLISHED_AT_UNKNOWN:{candidate.fact_id}"` -/
def unknownWarning (c : FactVersionCandidate) : String :=
  "SOURCE_PUBLISHED_AT_UNKNOWN:" ++ c.factId.str

/-- One turn of the loop over the candidates. -/
def sweepStep (cutoff : Instant) (s : Sweep) (c : FactVersionCandidate) : Sweep :=
  match c.sourcePublishedAt with
  | none => { s with
      excluded := s.excluded ++ [c.factId]
      warnings := s.warnings ++ [unknownWarning c] }
  | some t =>
      if cutoff < t then { s with excluded := s.excluded ++ [c.factId] }
      else { s with eligibleByIdentity := Dict.append s.eligibleByIdentity c.identityKey c }

def sweep (cutoff : Instant) (candidates : List FactVersionCandidate) : Sweep :=
  (sortCandidates candidates).foldl (sweepStep cutoff) ⟨[], [], []⟩

/-! ## The loop over the identities -/

/-- What the loop over the identities keeps. -/
structure Selecting where
  selected : List FactVersionCandidate
  excluded : List Uuid
  warnings : List String

/-- The versions that were published last, in the order of their identifiers. -/
def latestVersions (versions : List FactVersionCandidate) : List FactVersionCandidate :=
  let latestPublication := (versions.filterMap (·.sourcePublishedAt)).max?
  (versions.filter (·.sourcePublishedAt = latestPublication)).insertionSort
    fun a b => a.factId ≤ b.factId

/-- What one identity adds.  Decimals in a set are told apart by the numbers they stand for. -/
def resolution (identityKey : String) (versions : List FactVersionCandidate) : Selecting :=
  let latest := latestVersions versions
  if 1 < latest.length ∧ 1 < ((latest.map (·.value.toRat)).dedup).length then
    ⟨[], versions.map (·.factId), ["CONFLICTING_FACT_VERSIONS:" ++ identityKey]⟩
  else
    match latest with
    | [] => ⟨[], [], []⟩  -- `latest[0]` of a group, and no group is empty
    | chosen :: others =>
        ⟨[chosen], (versions.filter (·.factId ≠ chosen.factId)).map (·.factId),
          if others = [] then [] else ["DUPLICATE_FACT_VERSION:" ++ identityKey]⟩

/-- One turn of the loop over the identities. -/
def resolveStep (groups : List (String × List FactVersionCandidate)) (s : Selecting)
    (identityKey : String) : Selecting :=
  let r := resolution identityKey ((groups.lookup identityKey).getD [])
  ⟨s.selected ++ r.selected, s.excluded ++ r.excluded, s.warnings ++ r.warnings⟩

def selectFactVersionsAsOf (candidates : List FactVersionCandidate) (cutoff : Instant) :
    AsOfFactSelection :=
  let swept := sweep cutoff candidates
  let keys := (swept.eligibleByIdentity.map (·.1)).insertionSort (· ≤ ·)
  let s := keys.foldl (resolveStep swept.eligibleByIdentity) ⟨[], swept.excluded, swept.warnings⟩
  let (status, warnings) :=
    if s.selected = [] then
      (QualityStatus.blocked, if s.warnings = [] then ["NO_FACTS_AS_OF"] else s.warnings)
    else if s.warnings ≠ [] then (.partly, s.warnings)
    else (.pass, s.warnings)
  { status
    selectedFactIds := s.selected.map (·.factId)
    excludedFactIds := s.excluded.dedup.insertionSort (· ≤ ·)
    warnings := warnings.insertionSort (· ≤ ·) }

variable {candidates candidates' : List FactVersionCandidate} {cutoff : Instant}
  {versions : List FactVersionCandidate} {identityKey : String} {c : FactVersionCandidate}

/-! ## One identity -/

/-- No version of the list was published later. -/
def Newest (versions : List FactVersionCandidate) (c : FactVersionCandidate) : Prop :=
  c ∈ versions ∧ ∃ t, c.sourcePublishedAt = some t ∧
    ∀ d ∈ versions, ∀ u, d.sourcePublishedAt = some u → u ≤ t

/-- The versions that were published last have one value. -/
def Agree (versions : List FactVersionCandidate) : Prop :=
  ∀ a b, Newest versions a → Newest versions b → a.value.toRat = b.value.toRat

lemma mem_latestVersions (hpublished : ∀ v ∈ versions, v.sourcePublishedAt ≠ none) :
    c ∈ latestVersions versions ↔ Newest versions c := by
  rw [latestVersions, List.mem_insertionSort, List.mem_filter, decide_eq_true_eq, Newest]
  refine and_congr_right fun hc => ?_
  constructor
  · intro hmax
    obtain ⟨t, ht⟩ := Option.ne_none_iff_exists'.mp (hpublished c hc)
    rw [ht] at hmax
    obtain ⟨-, hle⟩ := List.max?_eq_some_iff.mp hmax.symm
    exact ⟨t, ht, fun d hd u hu => hle u (List.mem_filterMap.mpr ⟨d, hd, hu⟩)⟩
  · rintro ⟨t, ht, hle⟩
    rw [ht, eq_comm, List.max?_eq_some_iff]
    refine ⟨List.mem_filterMap.mpr ⟨c, hc, ht⟩, fun u hu => ?_⟩
    obtain ⟨d, hd, hu⟩ := List.mem_filterMap.mp hu
    exact hle d hd u hu

/-- A list of published versions has a newest one. -/
lemma latestVersions_ne_nil (hne : versions ≠ [])
    (hpublished : ∀ v ∈ versions, v.sourcePublishedAt ≠ none) : latestVersions versions ≠ [] := by
  obtain ⟨v, hv⟩ := List.exists_mem_of_ne_nil versions hne
  obtain ⟨t, ht⟩ := Option.ne_none_iff_exists'.mp (hpublished v hv)
  have htimes : versions.filterMap (·.sourcePublishedAt) ≠ [] :=
    List.ne_nil_of_mem (List.mem_filterMap.mpr ⟨v, hv, ht⟩)
  obtain ⟨latest, hlatest⟩ := Option.ne_none_iff_exists'.mp (mt List.max?_eq_none_iff.mp htimes)
  obtain ⟨hmem, hle⟩ := List.max?_eq_some_iff.mp hlatest
  obtain ⟨w, hw, hwlatest⟩ := List.mem_filterMap.mp hmem
  refine List.ne_nil_of_mem ((mem_latestVersions hpublished).mpr ⟨hw, latest, hwlatest, ?_⟩)
  exact fun d hd u hu => hle u (List.mem_filterMap.mpr ⟨d, hd, hu⟩)

/-- A list has two different elements when it has two after its repetitions are dropped. -/
lemma one_lt_length_dedup {α : Type} [DecidableEq α] {l : List α} :
    1 < l.dedup.length ↔ ∃ a ∈ l, ∃ b ∈ l, a ≠ b := by
  rw [← List.card_toFinset, Finset.one_lt_card]
  simp

/-- **What comes of one identity**: a newest version, when the newest ones agree; nothing, when they
do not. -/
lemma resolution_cases (hne : versions ≠ [])
    (hpublished : ∀ v ∈ versions, v.sourcePublishedAt ≠ none) :
    (∃ chosen, (resolution identityKey versions).selected = [chosen] ∧ Newest versions chosen ∧
      Agree versions ∧ (resolution identityKey versions).excluded =
        (versions.filter (·.factId ≠ chosen.factId)).map (·.factId)) ∨
    ((resolution identityKey versions).selected = [] ∧ ¬ Agree versions ∧
      (resolution identityKey versions).excluded = versions.map (·.factId)) := by
  have hconflict : (1 < (latestVersions versions).length ∧
      1 < (((latestVersions versions).map (·.value.toRat)).dedup).length) ↔ ¬ Agree versions := by
    have hlength := (List.dedup_sublist ((latestVersions versions).map (·.value.toRat))).length_le
    rw [List.length_map] at hlength
    rw [and_iff_right_of_imp fun h => lt_of_lt_of_le h hlength, one_lt_length_dedup]
    simp only [List.mem_map, mem_latestVersions hpublished, Agree, not_forall]
    constructor
    · rintro ⟨_, ⟨a, ha, rfl⟩, _, ⟨b, hb, rfl⟩, hab⟩
      exact ⟨a, b, ha, hb, hab⟩
    · rintro ⟨a, b, ha, hb, hab⟩
      exact ⟨_, ⟨a, ha, rfl⟩, _, ⟨b, hb, rfl⟩, hab⟩
  rw [resolution]
  split
  case isTrue h => exact .inr ⟨rfl, hconflict.mp h, rfl⟩
  case isFalse h =>
    split
    case h_1 hnil => exact absurd hnil (latestVersions_ne_nil hne hpublished)
    case h_2 chosen others hlatest =>
      refine .inl ⟨chosen, rfl, ?_, not_not.mp (mt hconflict.mpr h), rfl⟩
      rw [← mem_latestVersions hpublished, hlatest]
      simp

/-! ## The sweep -/

/-- Published at a known time that is not after the cutoff. -/
def eligible (cutoff : Instant) (c : FactVersionCandidate) : Bool :=
  match c.sourcePublishedAt with
  | none => false
  | some t => decide (t ≤ cutoff)

lemma eligible_iff :
    eligible cutoff c = true ↔ ∃ t, c.sourcePublishedAt = some t ∧ t ≤ cutoff := by
  rw [eligible]
  cases c.sourcePublishedAt with
  | none => simp
  | some t => simp

/-- **The loop over the candidates sorts them into three**: eligible ones by their identity, and the
others, with a warning for those whose publication is unknown. -/
lemma sweep_eq : sweep cutoff candidates =
    { excluded := ((sortCandidates candidates).filter fun c => ! eligible cutoff c).map (·.factId)
      warnings := ((sortCandidates candidates).filter
        (·.sourcePublishedAt = none)).map unknownWarning
      eligibleByIdentity := Dict.groupBy (·.identityKey)
        ((sortCandidates candidates).filter (eligible cutoff)) } := by
  rw [sweep]
  induction sortCandidates candidates using List.reverseRecOn with
  | nil => rfl
  | append_singleton l c ih =>
      rw [List.foldl_append, ih, List.foldl_cons, List.foldl_nil, sweepStep]
      simp only [List.filter_append, List.map_append]
      cases hpublished : c.sourcePublishedAt with
      | none => simp [eligible, hpublished]
      | some t =>
          by_cases hafter : cutoff < t
          · simp [eligible, hpublished, hafter]
          · simp [eligible, hpublished, hafter, not_lt.mp hafter, Dict.groupBy]

/-- The eligible candidates, in order. -/
def eligibleSorted (candidates : List FactVersionCandidate) (cutoff : Instant) :
    List FactVersionCandidate := (sortCandidates candidates).filter (eligible cutoff)

/-- The warnings about unknown publications, in the order of the candidates. -/
def unknownWarnings (candidates : List FactVersionCandidate) : List String :=
  ((sortCandidates candidates).filter (·.sourcePublishedAt = none)).map unknownWarning

/-- The identities of some candidates, in order. -/
def identities (candidates : List FactVersionCandidate) : List String :=
  ((Dict.groupBy (·.identityKey) candidates).map (·.1)).insertionSort (· ≤ ·)

/-- What comes of one identity among some candidates. -/
def resolutionAmong (candidates : List FactVersionCandidate) (identityKey : String) : Selecting :=
  resolution identityKey (candidates.filter (·.identityKey = identityKey))

lemma foldl_resolveStep (keys : List String) (s : Selecting) :
    keys.foldl (resolveStep (Dict.groupBy (·.identityKey) candidates)) s =
      ⟨s.selected ++ keys.flatMap fun key => (resolutionAmong candidates key).selected,
        s.excluded ++ keys.flatMap fun key => (resolutionAmong candidates key).excluded,
        s.warnings ++ keys.flatMap fun key => (resolutionAmong candidates key).warnings⟩ := by
  induction keys generalizing s with
  | nil => simp
  | cons key keys ih =>
      rw [List.foldl_cons, ih, resolveStep, Dict.lookup_groupBy]
      simp [resolutionAmong, List.append_assoc]

/-- The status and the warnings of a selection, from what was selected and warned of. -/
def concludeSelection (selected : List FactVersionCandidate) (warnings : List String) :
    QualityStatus × List String :=
  if selected = [] then (.blocked, if warnings = [] then ["NO_FACTS_AS_OF"] else warnings)
  else if warnings ≠ [] then (.partly, warnings)
  else (.pass, warnings)

/-- The versions that are selected among the eligible candidates. -/
def selectedAmong (eligible : List FactVersionCandidate) : List FactVersionCandidate :=
  (identities eligible).flatMap fun key => (resolutionAmong eligible key).selected

/-- **The selection**, from the eligible candidates, the others and the warnings about them. -/
lemma select_eq : selectFactVersionsAsOf candidates cutoff =
    { status := (concludeSelection (selectedAmong (eligibleSorted candidates cutoff))
        (unknownWarnings candidates ++ (identities (eligibleSorted candidates cutoff)).flatMap
          fun key => (resolutionAmong (eligibleSorted candidates cutoff) key).warnings)).1
      selectedFactIds := (selectedAmong (eligibleSorted candidates cutoff)).map (·.factId)
      excludedFactIds :=
        (((sortCandidates candidates).filter fun c => ! eligible cutoff c).map (·.factId) ++
          (identities (eligibleSorted candidates cutoff)).flatMap fun key =>
            (resolutionAmong (eligibleSorted candidates cutoff) key).excluded).dedup.insertionSort
              (· ≤ ·)
      warnings := (concludeSelection (selectedAmong (eligibleSorted candidates cutoff))
        (unknownWarnings candidates ++ (identities (eligibleSorted candidates cutoff)).flatMap
          fun key => (resolutionAmong (eligibleSorted candidates cutoff) key).warnings)).2.insertionSort
            (· ≤ ·) } := by
  rw [selectFactVersionsAsOf, sweep_eq]
  simp only [foldl_resolveStep, List.nil_append]
  rfl

/-! ## Order -/

lemma sortCandidates_perm (candidates : List FactVersionCandidate) :
    (sortCandidates candidates).Perm candidates := List.perm_insertionSort _ _

@[simp]
lemma mem_sortCandidates : c ∈ sortCandidates candidates ↔ c ∈ candidates :=
  (sortCandidates_perm candidates).mem_iff

lemma pairwise_sortCandidates (candidates : List FactVersionCandidate) :
    (sortCandidates candidates).Pairwise fun a b => candidateKey a ≤ candidateKey b := by
  have : Std.Total fun a b : FactVersionCandidate => candidateKey a ≤ candidateKey b :=
    ⟨fun a b => le_total _ _⟩
  have : IsTrans FactVersionCandidate fun a b => candidateKey a ≤ candidateKey b :=
    ⟨fun a b c => le_trans⟩
  exact List.pairwise_insertionSort _ _

/-- With distinct identifiers there is one order of the candidates. -/
lemma eq_sortCandidates {sorted : List FactVersionCandidate}
    (hnodup : (candidates.map (·.factId)).Nodup) (hperm : sorted.Perm candidates)
    (hsorted : sorted.Pairwise fun a b => candidateKey a ≤ candidateKey b) :
    sorted = sortCandidates candidates := by
  refine Txn.eq_of_perm_of_keyed (fun _ _ => le_antisymm)
    (hperm.trans (sortCandidates_perm candidates).symm) ?_ hsorted
    (pairwise_sortCandidates candidates)
  have hids : (sorted.map (·.factId)).Nodup := (hperm.map _).nodup_iff.mpr hnodup
  refine (List.pairwise_map.mp hids).imp fun hne hkey => hne ?_
  exact congrArg (fun k => (ofLex k).2) hkey

lemma sortCandidates_congr (hnodup : (candidates'.map (·.factId)).Nodup)
    (hperm : candidates.Perm candidates') : sortCandidates candidates = sortCandidates candidates' :=
  eq_sortCandidates hnodup ((sortCandidates_perm candidates).trans hperm)
    (pairwise_sortCandidates candidates)

lemma filter_sortCandidates (hnodup : (candidates.map (·.factId)).Nodup)
    (p : FactVersionCandidate → Bool) :
    (sortCandidates candidates).filter p = sortCandidates (candidates.filter p) :=
  eq_sortCandidates (hnodup.sublist (List.filter_sublist.map _))
    ((sortCandidates_perm candidates).filter p) ((pairwise_sortCandidates candidates).filter p)

/-- Candidates that were published after the cutoff leave what is eligible and what is unknown. -/
lemma visible_append {future : List FactVersionCandidate}
    (hnodup : ((candidates ++ future).map (·.factId)).Nodup)
    (hfuture : ∀ c ∈ future, ∃ t, c.sourcePublishedAt = some t ∧ cutoff < t) :
    eligibleSorted (candidates ++ future) cutoff = eligibleSorted candidates cutoff ∧
      unknownWarnings (candidates ++ future) = unknownWarnings candidates := by
  have hnodup' : (candidates.map (·.factId)).Nodup :=
    hnodup.sublist ((List.sublist_append_left _ _).map _)
  have hafter : future.filter (eligible cutoff) = [] := by
    rw [List.filter_eq_nil_iff]
    rintro c hc heligible
    obtain ⟨t, ht, hlt⟩ := hfuture c hc
    obtain ⟨u, hu, hle⟩ := eligible_iff.mp heligible
    rw [ht] at hu
    cases hu
    exact absurd hle (not_le.mpr hlt)
  have hknown : future.filter (·.sourcePublishedAt = none) = [] := by
    rw [List.filter_eq_nil_iff]
    rintro c hc hnone
    obtain ⟨t, ht, -⟩ := hfuture c hc
    rw [ht] at hnone
    simp at hnone
  rw [eligibleSorted, eligibleSorted, unknownWarnings, unknownWarnings]
  simp only [filter_sortCandidates hnodup, filter_sortCandidates hnodup', List.filter_append, hafter,
    hknown, List.append_nil, and_self]

/-! ## The selection -/

lemma mem_eligibleSorted :
    c ∈ eligibleSorted candidates cutoff ↔ c ∈ candidates ∧ eligible cutoff c = true := by
  simp [eligibleSorted, List.mem_filter]

lemma mem_identities :
    identityKey ∈ identities candidates ↔ ∃ c ∈ candidates, c.identityKey = identityKey := by
  rw [identities, List.mem_insertionSort, (Dict.groups_groupBy _ _).mem_keys]

lemma nodup_identities (candidates : List FactVersionCandidate) : (identities candidates).Nodup :=
  (List.perm_insertionSort _ _).nodup_iff.mpr (Dict.groups_groupBy _ _).nodup

/-- The candidates of one identity. -/
def versionsOf (candidates : List FactVersionCandidate) (identityKey : String) :
    List FactVersionCandidate :=
  candidates.filter (·.identityKey = identityKey)

@[simp]
lemma mem_versionsOf :
    c ∈ versionsOf candidates identityKey ↔ c ∈ candidates ∧ c.identityKey = identityKey := by
  simp [versionsOf]

/-- What comes of an identity among eligible candidates. -/
lemma resolutionAmong_cases (hkey : identityKey ∈ identities candidates)
    (hpublished : ∀ v ∈ candidates, v.sourcePublishedAt ≠ none) :
    (∃ chosen, (resolutionAmong candidates identityKey).selected = [chosen] ∧
      Newest (versionsOf candidates identityKey) chosen ∧
      Agree (versionsOf candidates identityKey) ∧
      (resolutionAmong candidates identityKey).excluded =
        ((versionsOf candidates identityKey).filter (·.factId ≠ chosen.factId)).map (·.factId)) ∨
    ((resolutionAmong candidates identityKey).selected = [] ∧
      ¬ Agree (versionsOf candidates identityKey) ∧
      (resolutionAmong candidates identityKey).excluded =
        (versionsOf candidates identityKey).map (·.factId)) := by
  obtain ⟨c, hc, hidentity⟩ := mem_identities.mp hkey
  refine resolution_cases (List.ne_nil_of_mem (mem_versionsOf.mpr ⟨hc, hidentity⟩)) ?_
  exact fun v hv => hpublished v (mem_versionsOf.mp hv).1

lemma identityKey_of_selected (hpublished : ∀ v ∈ candidates, v.sourcePublishedAt ≠ none)
    (hkey : identityKey ∈ identities candidates)
    (hc : c ∈ (resolutionAmong candidates identityKey).selected) : c.identityKey = identityKey := by
  rcases resolutionAmong_cases hkey hpublished with ⟨_, hselected, hnewest, -⟩ | ⟨hnone, -⟩
  · rw [hselected, List.mem_singleton] at hc
    exact hc ▸ (mem_versionsOf.mp hnewest.1).2
  · simp [hnone] at hc

/-- **What is selected**: a newest version of an identity whose newest versions agree. -/
lemma of_mem_selectedAmong (hpublished : ∀ v ∈ candidates, v.sourcePublishedAt ≠ none)
    (hc : c ∈ selectedAmong candidates) :
    Newest (versionsOf candidates c.identityKey) c ∧ Agree (versionsOf candidates c.identityKey) ∧
      (resolutionAmong candidates c.identityKey).selected = [c] := by
  obtain ⟨key, hkey, hc⟩ := List.mem_flatMap.mp hc
  obtain rfl := identityKey_of_selected hpublished hkey hc
  rcases resolutionAmong_cases hkey hpublished with
    ⟨chosen, hselected, hnewest, hagree, -⟩ | ⟨hnone, -, -⟩
  · rw [hselected, List.mem_singleton] at hc
    subst hc
    exact ⟨hnewest, hagree, hselected⟩
  · simp [hnone] at hc

/-- An identity has one selected version at most. -/
lemma selected_unique (hpublished : ∀ v ∈ candidates, v.sourcePublishedAt ≠ none)
    {d : FactVersionCandidate} (hc : c ∈ selectedAmong candidates) (hd : d ∈ selectedAmong candidates)
    (hkey : c.identityKey = d.identityKey) : c = d := by
  obtain ⟨-, -, hc⟩ := of_mem_selectedAmong hpublished hc
  obtain ⟨-, -, hd⟩ := of_mem_selectedAmong hpublished hd
  rw [hkey, hd] at hc
  exact (List.singleton_inj.mp hc).symm

/-- An identity whose newest versions agree has a selected version. -/
lemma exists_selected (hpublished : ∀ v ∈ candidates, v.sourcePublishedAt ≠ none)
    (hkey : identityKey ∈ identities candidates) :
    (∃ c ∈ selectedAmong candidates, c.identityKey = identityKey) ↔
      Agree (versionsOf candidates identityKey) := by
  constructor
  · rintro ⟨c, hc, rfl⟩
    exact (of_mem_selectedAmong hpublished hc).2.1
  · intro hagree
    rcases resolutionAmong_cases hkey hpublished with
      ⟨chosen, hselected, hnewest, -, -⟩ | ⟨-, hconflict, -⟩
    · refine ⟨chosen, List.mem_flatMap.mpr ⟨identityKey, hkey, by simp [hselected]⟩, ?_⟩
      exact (mem_versionsOf.mp hnewest.1).2
    · exact absurd hagree hconflict

/-- **What an identity excludes**: its versions that are not selected. -/
lemma mem_excludedAmong (hnodup : (candidates.map (·.factId)).Nodup)
    (hpublished : ∀ v ∈ candidates, v.sourcePublishedAt ≠ none) {id : Uuid} :
    (id ∈ (identities candidates).flatMap fun key => (resolutionAmong candidates key).excluded) ↔
      ∃ c ∈ candidates, c.factId = id ∧ c ∉ selectedAmong candidates := by
  have hkeyof : ∀ d ∈ candidates, d.identityKey ∈ identities candidates :=
    fun d hd => mem_identities.mpr ⟨d, hd, rfl⟩
  have hexcluded : ∀ d ∈ candidates,
      (d.factId ∈ (resolutionAmong candidates d.identityKey).excluded ↔
        d ∉ selectedAmong candidates) := by
    intro d hd
    rcases resolutionAmong_cases (hkeyof d hd) hpublished with
      ⟨chosen, hselected, hnewest, -, hrest⟩ | ⟨hnone, hconflict, hrest⟩
    · have hchosen : d ∈ selectedAmong candidates ↔ d = chosen := by
        constructor
        · intro hmem
          have hd := (of_mem_selectedAmong hpublished hmem).2.2
          rw [hselected] at hd
          exact (List.singleton_inj.mp hd).symm
        · rintro rfl
          exact List.mem_flatMap.mpr ⟨_, hkeyof d hd, by simp [hselected]⟩
      rw [hrest, hchosen]
      constructor
      · rintro hmem rfl
        obtain ⟨e, he, hid⟩ := List.mem_map.mp hmem
        exact absurd hid (by simpa using (List.mem_filter.mp he).2)
      · intro hne
        refine List.mem_map.mpr ⟨d, List.mem_filter.mpr ⟨mem_versionsOf.mpr ⟨hd, rfl⟩, ?_⟩, rfl⟩
        have hids : d.factId ≠ chosen.factId := fun hid =>
          hne (List.inj_on_of_nodup_map hnodup hd (mem_versionsOf.mp hnewest.1).1 hid)
        simpa using hids
    · rw [hrest]
      refine iff_of_true (List.mem_map_of_mem (mem_versionsOf.mpr ⟨hd, rfl⟩)) fun hmem => ?_
      exact hconflict (of_mem_selectedAmong hpublished hmem).2.1
  constructor
  · intro hid
    obtain ⟨key, hkey, hid⟩ := List.mem_flatMap.mp hid
    have hversion : ∃ c ∈ versionsOf candidates key, c.factId = id := by
      rcases resolutionAmong_cases hkey hpublished with ⟨_, -, -, -, hrest⟩ | ⟨-, -, hrest⟩
      · rw [hrest] at hid
        obtain ⟨c, hc, rfl⟩ := List.mem_map.mp hid
        exact ⟨c, (List.mem_filter.mp hc).1, rfl⟩
      · rw [hrest] at hid
        obtain ⟨c, hc, rfl⟩ := List.mem_map.mp hid
        exact ⟨c, hc, rfl⟩
    obtain ⟨c, hversion, rfl⟩ := hversion
    obtain ⟨hc, rfl⟩ := mem_versionsOf.mp hversion
    exact ⟨c, hc, rfl, (hexcluded c hc).mp hid⟩
  · rintro ⟨c, hc, rfl, hnot⟩
    exact List.mem_flatMap.mpr ⟨c.identityKey, hkeyof c hc, (hexcluded c hc).mpr hnot⟩

/-- The selected versions have distinct identifiers. -/
lemma nodup_selectedAmong (hnodup : (candidates.map (·.factId)).Nodup)
    (hpublished : ∀ v ∈ candidates, v.sourcePublishedAt ≠ none) :
    ((selectedAmong candidates).map (·.factId)).Nodup := by
  have hmem : ∀ d ∈ selectedAmong candidates, d ∈ candidates := fun d hd =>
    (mem_versionsOf.mp (of_mem_selectedAmong hpublished hd).1.1).1
  refine List.Nodup.map_on (fun c hc d hd hid =>
    List.inj_on_of_nodup_map hnodup (hmem c hc) (hmem d hd) hid) ?_
  rw [selectedAmong, List.nodup_flatMap]
  refine ⟨fun key hkey => ?_, ?_⟩
  · rcases resolutionAmong_cases hkey hpublished with ⟨_, hselected, -⟩ | ⟨hnone, -⟩
    · simp [hselected]
    · simp [hnone]
  · refine (List.pairwise_iff_forall_sublist.mpr fun {k k'} hsub => ?_ :
      (identities candidates).Pairwise _)
    have hne : k ≠ k' := by
      have hpair := (nodup_identities candidates).sublist hsub
      simpa using hpair
    intro c hc hc'
    have hk := identityKey_of_selected hpublished (hsub.subset (by simp)) hc
    have hk' := identityKey_of_selected hpublished (hsub.subset (by simp)) hc'
    exact hne (hk.symm.trans hk')

/-! ## The law -/

/-- An eligible candidate that no eligible candidate of its identity was published after. -/
def Latest (candidates : List FactVersionCandidate) (cutoff : Instant) (c : FactVersionCandidate) :
    Prop :=
  c ∈ candidates ∧ ∃ t, c.sourcePublishedAt = some t ∧ t ≤ cutoff ∧
    ∀ d ∈ candidates, d.identityKey = c.identityKey →
      ∀ u, d.sourcePublishedAt = some u → u ≤ cutoff → u ≤ t

lemma newest_eligibleSorted :
    Newest (versionsOf (eligibleSorted candidates cutoff) identityKey) c ↔
      Latest candidates cutoff c ∧ c.identityKey = identityKey := by
  simp only [Newest, mem_versionsOf, mem_eligibleSorted, Latest]
  constructor
  · rintro ⟨⟨⟨hc, heligible⟩, rfl⟩, t, ht, hle⟩
    obtain ⟨u, hu, hcutoff⟩ := eligible_iff.mp heligible
    obtain rfl : t = u := Option.some.inj (ht.symm.trans hu)
    refine ⟨⟨hc, t, ht, hcutoff, fun d hd hkey u hu hucutoff => ?_⟩, rfl⟩
    exact hle d ⟨⟨hd, eligible_iff.mpr ⟨u, hu, hucutoff⟩⟩, hkey⟩ u hu
  · rintro ⟨⟨hc, t, ht, hcutoff, hle⟩, rfl⟩
    refine ⟨⟨⟨hc, eligible_iff.mpr ⟨t, ht, hcutoff⟩⟩, rfl⟩, t, ht, ?_⟩
    rintro d ⟨⟨hd, heligible⟩, hkey⟩ u hu
    obtain ⟨v, hv, hvcutoff⟩ := eligible_iff.mp heligible
    obtain rfl : u = v := Option.some.inj (hu.symm.trans hv)
    exact hle d hd hkey u hu hvcutoff

lemma published_of_eligibleSorted :
    ∀ v ∈ eligibleSorted candidates cutoff, v.sourcePublishedAt ≠ none := by
  intro v hv hnone
  obtain ⟨t, ht, -⟩ := eligible_iff.mp (mem_eligibleSorted.mp hv).2
  rw [hnone] at ht
  cases ht

lemma nodup_eligibleSorted (hnodup : (candidates.map (·.factId)).Nodup) :
    ((eligibleSorted candidates cutoff).map (·.factId)).Nodup :=
  (((sortCandidates_perm candidates).map _).nodup_iff.mpr hnodup).sublist
    (List.filter_sublist.map _)

lemma mem_selectedFactIds (hnodup : (candidates.map (·.factId)).Nodup) (hc : c ∈ candidates) :
    c.factId ∈ (selectFactVersionsAsOf candidates cutoff).selectedFactIds ↔
      c ∈ selectedAmong (eligibleSorted candidates cutoff) := by
  rw [select_eq]
  refine ⟨fun hid => ?_, fun hmem => List.mem_map_of_mem hmem⟩
  obtain ⟨d, hd, hid⟩ := List.mem_map.mp hid
  have hmem := (mem_versionsOf.mp (of_mem_selectedAmong published_of_eligibleSorted hd).1.1).1
  exact List.inj_on_of_nodup_map hnodup (mem_eligibleSorted.mp hmem).1 hc hid ▸ hd

lemma mem_excludedFactIds (hnodup : (candidates.map (·.factId)).Nodup) {id : Uuid} :
    id ∈ (selectFactVersionsAsOf candidates cutoff).excludedFactIds ↔
      ∃ c ∈ candidates, c.factId = id ∧ c ∉ selectedAmong (eligibleSorted candidates cutoff) := by
  rw [select_eq, List.mem_insertionSort, List.mem_dedup, List.mem_append,
    mem_excludedAmong (nodup_eligibleSorted hnodup) published_of_eligibleSorted]
  constructor
  · rintro (hid | ⟨c, hc, rfl, hnot⟩)
    · obtain ⟨c, hc, rfl⟩ := List.mem_map.mp hid
      obtain ⟨hc, heligible⟩ := List.mem_filter.mp hc
      refine ⟨c, mem_sortCandidates.mp hc, rfl, fun hmem => ?_⟩
      have hof := (mem_versionsOf.mp
        (of_mem_selectedAmong published_of_eligibleSorted hmem).1.1).1
      simp [(mem_eligibleSorted.mp hof).2] at heligible
    · exact ⟨c, (mem_eligibleSorted.mp hc).1, rfl, hnot⟩
  · rintro ⟨c, hc, rfl, hnot⟩
    by_cases heligible : eligible cutoff c = true
    · exact .inr ⟨c, mem_eligibleSorted.mpr ⟨hc, heligible⟩, rfl, hnot⟩
    · refine .inl (List.mem_map.mpr ⟨c, List.mem_filter.mpr ⟨mem_sortCandidates.mpr hc, ?_⟩, rfl⟩)
      simpa using heligible

/-- **Selection of fact versions.**  For candidates with distinct identifiers: (a) the selected and
the excluded identifiers are those of the candidates, each once; (b) what is selected is a latest
eligible version of its identity, an identity has one selected version at most, and it has one
exactly when it has an eligible version and its latest ones have one value; (c) the order of the
candidates changes nothing; and (d) candidates that were published after the cutoff change neither
the selected identifiers nor the status nor the warnings. -/
theorem fact_version_selection (candidates : List FactVersionCandidate) (cutoff : Instant)
    (hnodup : (candidates.map (·.factId)).Nodup) :
    ((selectFactVersionsAsOf candidates cutoff).selectedFactIds ++
        (selectFactVersionsAsOf candidates cutoff).excludedFactIds).Perm
      (candidates.map (·.factId)) ∧
    ((∀ c ∈ candidates, c.factId ∈ (selectFactVersionsAsOf candidates cutoff).selectedFactIds →
        Latest candidates cutoff c ∧
        ∀ d ∈ candidates, d.factId ∈ (selectFactVersionsAsOf candidates cutoff).selectedFactIds →
          c.identityKey = d.identityKey → c = d) ∧
      ∀ identityKey, (∃ c ∈ candidates, c.identityKey = identityKey ∧
          c.factId ∈ (selectFactVersionsAsOf candidates cutoff).selectedFactIds) ↔
        (∃ c ∈ candidates, c.identityKey = identityKey ∧ ∃ t, c.sourcePublishedAt = some t ∧
          t ≤ cutoff) ∧
        ∀ c d, Latest candidates cutoff c → Latest candidates cutoff d →
          c.identityKey = identityKey → d.identityKey = identityKey →
          c.value.toRat = d.value.toRat) ∧
    (∀ candidates', candidates.Perm candidates' →
      selectFactVersionsAsOf candidates' cutoff = selectFactVersionsAsOf candidates cutoff) ∧
    ∀ future : List FactVersionCandidate,
      (∀ c ∈ future, ∃ t, c.sourcePublishedAt = some t ∧ cutoff < t) →
      ((candidates ++ future).map (·.factId)).Nodup →
      (selectFactVersionsAsOf (candidates ++ future) cutoff).selectedFactIds =
          (selectFactVersionsAsOf candidates cutoff).selectedFactIds ∧
        (selectFactVersionsAsOf (candidates ++ future) cutoff).status =
          (selectFactVersionsAsOf candidates cutoff).status ∧
        (selectFactVersionsAsOf (candidates ++ future) cutoff).warnings =
          (selectFactVersionsAsOf candidates cutoff).warnings := by
  have hpublished : ∀ v ∈ eligibleSorted candidates cutoff, v.sourcePublishedAt ≠ none :=
    published_of_eligibleSorted
  have hmem : ∀ c ∈ selectedAmong (eligibleSorted candidates cutoff), c ∈ candidates := fun c hc =>
    (mem_eligibleSorted.mp (mem_versionsOf.mp (of_mem_selectedAmong hpublished hc).1.1).1).1
  refine ⟨?_, ⟨fun c hc hid => ⟨?_, fun d hd hdid hkey => ?_⟩, fun identityKey => ?_⟩,
    fun candidates' hperm => ?_, fun future hfuture hall => ?_⟩
  · have hselected : (selectFactVersionsAsOf candidates cutoff).selectedFactIds.Nodup := by
      rw [select_eq]
      exact nodup_selectedAmong (nodup_eligibleSorted hnodup) hpublished
    have hexcluded : (selectFactVersionsAsOf candidates cutoff).excludedFactIds.Nodup := by
      rw [select_eq]
      exact (List.perm_insertionSort _ _).nodup_iff.mpr (List.nodup_dedup _)
    have hdisjoint : ∀ id ∈ (selectFactVersionsAsOf candidates cutoff).selectedFactIds,
        id ∉ (selectFactVersionsAsOf candidates cutoff).excludedFactIds := by
      intro id hid hout
      obtain ⟨c, hc, rfl, hnot⟩ := (mem_excludedFactIds hnodup).mp hout
      exact hnot ((mem_selectedFactIds hnodup hc).mp hid)
    refine (List.perm_ext_iff_of_nodup (List.nodup_append.mpr ⟨hselected, hexcluded, ?_⟩)
      hnodup).mpr fun id => ?_
    · rintro id hid other hother rfl
      exact hdisjoint id hid hother
    · rw [List.mem_append, mem_excludedFactIds hnodup, List.mem_map]
      constructor
      · rintro (hid | ⟨c, hc, rfl, -⟩)
        · rw [select_eq] at hid
          obtain ⟨c, hc, rfl⟩ := List.mem_map.mp hid
          exact ⟨c, hmem c hc, rfl⟩
        · exact ⟨c, hc, rfl⟩
      · rintro ⟨c, hc, rfl⟩
        by_cases hin : c ∈ selectedAmong (eligibleSorted candidates cutoff)
        · exact .inl ((mem_selectedFactIds hnodup hc).mpr hin)
        · exact .inr ⟨c, hc, rfl, hin⟩
  · have hselected := (mem_selectedFactIds hnodup hc).mp hid
    exact (newest_eligibleSorted.mp (of_mem_selectedAmong hpublished hselected).1).1
  · exact selected_unique hpublished ((mem_selectedFactIds hnodup hc).mp hid)
      ((mem_selectedFactIds hnodup hd).mp hdid) hkey
  · have hexists : (∃ c ∈ candidates, c.identityKey = identityKey ∧
        c.factId ∈ (selectFactVersionsAsOf candidates cutoff).selectedFactIds) ↔
        ∃ c ∈ selectedAmong (eligibleSorted candidates cutoff), c.identityKey = identityKey := by
      constructor
      · rintro ⟨c, hc, hkey, hid⟩
        exact ⟨c, (mem_selectedFactIds hnodup hc).mp hid, hkey⟩
      · rintro ⟨c, hc, hkey⟩
        exact ⟨c, hmem c hc, hkey, (mem_selectedFactIds hnodup (hmem c hc)).mpr hc⟩
    have hidentity : identityKey ∈ identities (eligibleSorted candidates cutoff) ↔
        ∃ c ∈ candidates, c.identityKey = identityKey ∧
          ∃ t, c.sourcePublishedAt = some t ∧ t ≤ cutoff := by
      rw [mem_identities]
      simp only [mem_eligibleSorted, eligible_iff]
      exact ⟨fun ⟨c, ⟨hc, ht⟩, hkey⟩ => ⟨c, hc, hkey, ht⟩, fun ⟨c, hc, hkey, ht⟩ => ⟨c, ⟨hc, ht⟩, hkey⟩⟩
    have hagree : Agree (versionsOf (eligibleSorted candidates cutoff) identityKey) ↔
        ∀ c d, Latest candidates cutoff c → Latest candidates cutoff d →
          c.identityKey = identityKey → d.identityKey = identityKey →
          c.value.toRat = d.value.toRat := by
      simp only [Agree, newest_eligibleSorted]
      exact ⟨fun h c d hc hd hck hdk => h c d ⟨hc, hck⟩ ⟨hd, hdk⟩,
        fun h c d hc hd => h c d hc.1 hd.1 hc.2 hd.2⟩
    rw [hexists, ← hidentity, ← hagree]
    constructor
    · rintro ⟨c, hc, rfl⟩
      have hkey : c.identityKey ∈ identities (eligibleSorted candidates cutoff) :=
        mem_identities.mpr ⟨c, (mem_versionsOf.mp (of_mem_selectedAmong hpublished hc).1.1).1, rfl⟩
      exact ⟨hkey, (exists_selected hpublished hkey).mp ⟨c, hc, rfl⟩⟩
    · rintro ⟨hkey, hagree⟩
      exact (exists_selected hpublished hkey).mpr hagree
  · have hsorted : sortCandidates candidates' = sortCandidates candidates :=
      sortCandidates_congr hnodup hperm.symm
    rw [select_eq, select_eq, eligibleSorted, eligibleSorted, unknownWarnings, unknownWarnings,
      hsorted]
  · obtain ⟨heligible, hunknown⟩ := visible_append hall hfuture
    rw [select_eq, select_eq, heligible, hunknown]
    exact ⟨rfl, rfl, rfl⟩

/-- Midnight at the start of a day of January 2025. -/
def january (day : Nat) (h : 1 ≤ day ∧ day ≤ 31) : Instant :=
  ⟨⟨2025, 1, day, validYear_2025, validMonth_1, h⟩, 0, 0, 0, 0, validHour_0, validMinute_0,
    validMinute_0, validMicrosecond_0⟩

/-- A revenue of 100, published on the second. -/
def reportedRevenue : FactVersionCandidate where
  factId := 1
  identityKey := "REVENUE:2024-FY"
  value := ⟨false, 100, 0⟩
  sourcePublishedAt := some (january 2 (by decide))
  retrievedAt := january 2 (by decide)
  isRestated := false
  identified := by decide

/-- The same revenue, restated to 90 on the ninth. -/
lemma ninth_valid : 1 ≤ 9 ∧ 9 ≤ 31 := by decide

def restatedRevenue : FactVersionCandidate :=
  { reportedRevenue with
    factId := 2
    value := ⟨false, 90, 0⟩
    sourcePublishedAt := some (january 9 ninth_valid)
    isRestated := true }

/-- By the fifth the restatement is not there yet, whether it is known later or not. -/
theorem restatement_not_seen :
    (selectFactVersionsAsOf ([reportedRevenue] ++ [restatedRevenue])
        (january 5 (by decide))).selectedFactIds =
      (selectFactVersionsAsOf [reportedRevenue] (january 5 (by decide))).selectedFactIds ∧
    ((selectFactVersionsAsOf [reportedRevenue] (january 5 (by decide))).selectedFactIds ++
      (selectFactVersionsAsOf [reportedRevenue] (january 5 (by decide))).excludedFactIds).Perm
        [1] := by
  obtain ⟨hpartition, -, -, hfuture⟩ :=
    fact_version_selection [reportedRevenue] (january 5 (by decide)) (by decide)
  refine ⟨(hfuture [restatedRevenue] ?_ (by decide)).1, hpartition⟩
  rintro c hc
  rw [List.mem_singleton.mp hc]
  exact ⟨_, rfl, by decide⟩

end StockResearch.Financials
