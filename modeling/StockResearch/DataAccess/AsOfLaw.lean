import StockResearch.DataAccess.Snapshots

/-!
# Snapshots do not see what became known later

Two bodies of evidence that agree on everything known by a cutoff give the same snapshot.  Every
query filters before it orders and cuts off, and its order is total because the identifier comes last,
so what it returns depends on the set of known rows only (`listRows_congr`).  The rest of a build
reads the evidence through these queries.
-/

namespace StockResearch.DataAccess

open PyTime Txn

/-- Two bodies of evidence with the same records among those retrieved by the cutoff, published by
then as far as is known and, for prices, traded by the local date. -/
structure Evidence.Agree (cutoff : Instant) (localDate : Option Date) (e e' : Evidence) : Prop where
  prices : ∀ r : DailyPriceBar, r.knownBy cutoff → (∀ d ∈ localDate, r.tradingDate ≤ d) →
    (r ∈ e.dailyPriceBars.rows ↔ r ∈ e'.dailyPriceBars.rows)
  actions : ∀ r : CorporateAction, r.knownBy cutoff →
    (r ∈ e.corporateActions.rows ↔ r ∈ e'.corporateActions.rows)
  facts : ∀ r : ProviderFinancialFact, r.knownBy cutoff →
    (r ∈ e.financialFacts.rows ↔ r ∈ e'.financialFacts.rows)
  documents : ∀ r : SourceDocument, r.knownBy cutoff →
    (r ∈ e.sourceDocuments.rows ↔ r ∈ e'.sourceDocuments.rows)

/-! ## Queries -/

section

variable {ρ κ : Type} [Schema ρ] [LinearOrder κ] {source : ρ → SourceRow} {rank : ρ → κ}

/-- A query depends on the known rows only, not on how the table is stored. -/
lemma listRows_congr (hclash : ∀ a b : ρ, (source a).id = (source b).id → Schema.clash a b)
    {t t' : Table ρ} {also : ρ → Bool} {q : EvidenceQuery}
    (h : ∀ r, (source r).knownBy q.researchAsOfTime → also r = true → (r ∈ t.rows ↔ r ∈ t'.rows)) :
    listRows source rank t also q = listRows source rank t' also q := by
  have hids : ∀ (t : Table ρ) (p : ρ → Bool),
      (t.select p).Pairwise fun a b => (source a).id ≠ (source b).id := fun t p =>
    (t.keyed.filter p).imp fun {a b} hne hid => hne (hclash a b hid)
  have hnodup : ∀ (t : Table ρ) (p : ρ → Bool), (t.select p).Nodup := fun t p =>
    (hids t p).imp fun {a b} hne hab => hne (congrArg (fun r => (source r).id) hab)
  unfold listRows
  set p : ρ → Bool := fun r => decide (q.admits (source r)) && also r with hp
  have hperm : (t.select p).Perm (t'.select p) := by
    rw [List.perm_ext_iff_of_nodup (hnodup t p) (hnodup t' p)]
    intro r
    simp only [Table.mem_select]
    refine and_congr_left fun hr => ?_
    rw [hp, Bool.and_eq_true, decide_eq_true_eq] at hr
    exact h r hr.1.2.1 hr.2
  have hsort : (t.select p).insertionSort (fun a b => orderKey source rank a ≤ orderKey source rank b) =
      (t'.select p).insertionSort (fun a b => orderKey source rank a ≤ orderKey source rank b) := by
    refine eq_of_perm_of_keyed (fun _ _ => le_antisymm) ?_ ?_
      (List.pairwise_insertionSort _ _) (List.pairwise_insertionSort _ _)
    · exact (List.perm_insertionSort _ _).trans (hperm.trans (List.perm_insertionSort _ _).symm)
    · refine (List.perm_insertionSort _ _).symm.pairwise ?_ fun hab => hab.symm
      exact (hids t p).imp fun {a b} hne hkey => hne (congrArg (fun k => (ofLex (ofLex k).2).2) hkey)
  rw [hsort]

end

section

variable {e e' : Evidence} {q : EvidenceQuery} {localDate : Date}
  (h : e.Agree q.researchAsOfTime (some localDate) e')

include h

lemma listDailyHistory_congr : listDailyHistory e localDate q = listDailyHistory e' localDate q := by
  refine listRows_congr (fun _ _ hid => hid) ?_
  intro r hknown hdate
  refine h.prices r hknown ?_
  intro d hd
  cases hd
  exact of_decide_eq_true hdate

lemma listCorporateActions_congr : listCorporateActions e q = listCorporateActions e' q :=
  listRows_congr (fun _ _ hid => hid) fun r hknown _ => h.actions r hknown

lemma listFinancialFacts_congr : listFinancialFacts e q = listFinancialFacts e' q :=
  listRows_congr (fun _ _ hid => hid) fun r hknown _ => h.facts r hknown

lemma listSourceDocuments_congr : listSourceDocuments e q = listSourceDocuments e' q :=
  listRows_congr (fun _ _ hid => hid) fun r hknown _ => h.documents r hknown

end

/-! ## Builds -/

section

variable {platform : Platform} {env : Surroundings} {request : SnapshotBuildRequest} {e' : Evidence}
  {localDate : Date}

lemma queryCategory_congr
    (h : env.evidence.Agree request.researchAsOfTime (some localDate) e') (category : DataCategory)
    (providerId : Option Uuid) :
    queryCategory env request category localDate providerId =
      queryCategory { env with evidence := e' } request category localDate providerId := by
  have hq : env.evidence.Agree (EvidenceQuery.mk request.securityId request.researchAsOfTime
      (request.itemLimit + 1) providerId).researchAsOfTime (some localDate) e' := h
  unfold queryCategory
  cases category with
  | dailyPrices =>
      simp only [listDailyHistory_congr hq]
      rfl
  | corporateActions =>
      simp only [listCorporateActions_congr hq]
      rfl
  | financialFacts =>
      simp only [listFinancialFacts_congr hq]
      rfl
  | filingMetadata =>
      simp only [listSourceDocuments_congr hq]
      rfl

lemma preferredCandidates_congr
    (h : env.evidence.Agree request.researchAsOfTime (some localDate) e') (category : DataCategory)
    (providers : List Uuid) :
    preferredCandidates env request category localDate providers =
      preferredCandidates { env with evidence := e' } request category localDate providers := by
  induction providers with
  | nil => rfl
  | cons providerId rest ih =>
      unfold preferredCandidates
      rw [queryCategory_congr h, ih]

lemma selectCategory_congr
    (h : env.evidence.Agree request.researchAsOfTime (some localDate) e') :
    selectCategory env request localDate =
      selectCategory { env with evidence := e' } request localDate := by
  funext category
  have hcandidates : categoryCandidates env request category localDate =
      categoryCandidates { env with evidence := e' } request category localDate := by
    unfold categoryCandidates
    rw [preferredCandidates_congr h, queryCategory_congr h]
  unfold selectCategory
  rw [hcandidates]

/-- The plan of a build depends on what was known by the cutoff. -/
lemma plan_congr (h : env.evidence.Agree request.researchAsOfTime
      (platform.localDate request.exchangeTimezone request.researchAsOfTime) e') :
    plan platform env request = plan platform { env with evidence := e' } request := by
  have hselect : select platform env request =
      select platform { env with evidence := e' } request := by
    unfold select
    cases hdate : platform.localDate request.exchangeTimezone request.researchAsOfTime with
    | none => rfl
    | some localDate =>
        rw [hdate] at h
        simp only [Checked.require, Checked.ok_bind, selectCategory_congr h]
  unfold plan
  rw [hselect]

end

/-- **No look-ahead**: for two bodies of evidence that agree on what was known by the cutoff, a build
plans the same items in the same order, with the same status, warnings and checksum, and it ends in
the same result and the same store. -/
theorem build_congr_of_agree (platform : Platform) (env : Surroundings)
    (request : SnapshotBuildRequest) (e' : Evidence)
    (h : env.evidence.Agree request.researchAsOfTime
      (platform.localDate request.exchangeTimezone request.researchAsOfTime) e') :
    plan platform env request = plan platform { env with evidence := e' } request ∧
      build platform env request = build platform { env with evidence := e' } request := by
  refine ⟨plan_congr h, ?_⟩
  have hbuild : buildSnapshot platform env request =
      buildSnapshot platform { env with evidence := e' } request := by
    funext snapshot terminalReplay
    unfold buildSnapshot
    rw [plan_congr h]
    rfl
  unfold build
  rw [hbuild]
  rfl

/-! ## A document from the next day -/

/-- A digest of the right shape, and a zone without offset. -/
def plainPlatform : Platform where
  sha256 text := String.ofList (Uuid.hexDigits 64 (text.foldl (fun n c => n * 257 + c.toNat + 1) 0))
  localDate _ t := some t.date

def july (day : Nat) (h : 1 ≤ day ∧ day ≤ 31) : Instant :=
  ⟨⟨2026, 7, day, validYear_2026, validMonth_7, h⟩, 8, 0, 0, 0, validHour_8, validMinute_0,
    validMinute_0, validMicrosecond_0⟩

/-- A document that was published and retrieved on a day of July. -/
def julyDocument (id : Uuid) (day : Nat) (h : 1 ≤ day ∧ day ≤ 31) : SourceDocument where
  id := id
  securityId := 1
  providerId := 2
  publishedAt := some (july day h)
  retrievedAt := july day h
  readable := true

def documentEvidence (documents : Table SourceDocument) : Evidence := ⟨∅, ∅, ∅, documents⟩

def calmSurroundings (evidence : Evidence) : Surroundings where
  evidence := evidence
  fault _ := none
  completedAt := .ok (july 12 (by decide))
  failedAt := .ok (july 12 (by decide))
  snapshotId := 100
  itemId index := ⟨BitVec.ofNat 128 (200 + index)⟩
  createdAt := july 12 (by decide)

/-- The filings known on the tenth of July. -/
def filingsRequest : SnapshotBuildRequest where
  securityId := 1
  researchAsOfTime := july 10 (by decide)
  snapshotVersion := 1
  categories := [.filingMetadata]
  exchangeTimezone := "UTC"
  providerPreference := []
  itemLimit := 10
  version_pos := by decide
  categories_ne := by decide
  categories_sorted := by decide
  preference_nodup := by decide
  itemLimit_bounds := by decide

/-- A document of the ninth, without and with one of the eleventh. -/
def knownDocuments : Table SourceDocument := .single (julyDocument 7 9 (by decide)) trivial

def laterDocuments : Table SourceDocument where
  rows := [julyDocument 8 11 (by decide), julyDocument 7 9 (by decide)]
  keyed := by decide
  checked := fun _ _ => trivial

theorem build_congr_of_agree_documents :
    plan plainPlatform (calmSurroundings (documentEvidence knownDocuments)) filingsRequest =
        plan plainPlatform (calmSurroundings (documentEvidence laterDocuments)) filingsRequest ∧
      build plainPlatform (calmSurroundings (documentEvidence knownDocuments)) filingsRequest =
        build plainPlatform (calmSurroundings (documentEvidence laterDocuments)) filingsRequest := by
  refine build_congr_of_agree plainPlatform (calmSurroundings (documentEvidence knownDocuments))
    filingsRequest (documentEvidence laterDocuments) ⟨?_, ?_, ?_, ?_⟩
  · intro r _ _
    rfl
  · intro r _
    rfl
  · intro r _
    rfl
  · intro r hknown
    have hlate : ¬ (julyDocument 8 11 (by decide)).knownBy filingsRequest.researchAsOfTime := by
      decide
    have hne : r ≠ julyDocument 8 11 (by decide) := by
      rintro rfl
      exact hlate hknown
    change r ∈ [julyDocument 7 9 _] ↔ r ∈ [julyDocument 8 11 _, julyDocument 7 9 _]
    simp [hne]

end StockResearch.DataAccess
