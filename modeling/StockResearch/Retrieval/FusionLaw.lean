import StockResearch.Core.DecimalRange
import StockResearch.Retrieval.PointInTime

/-!
# What fusion and reranking guarantee

**Fusion.**  `Fuses` says that every chunk of either channel comes back once, with the quantized sum
of `1 / (k + rank)` over the channels that contain it.  The loop of `reciprocal_rank_fusion` goes
over the lexical hits alone, so a chunk that only the vector channel has is lost; nothing else is.

**Reranking.**  The key of a hit holds `-fusion_score`, and a negation is rounded like every other
operation, so it raises for a score out of the range of the context.  Where it does not, hits are
put in an order that their keys determine.

* **`fuses_and_reranks_iff`**: fusion is right exactly when every vector hit has a lexical one, and
  reranking when every score is in the range of decimals.
-/

namespace StockResearch.Retrieval

open PyDecimal Checked

/-! ## Fusion -/

def lexicalRank (lexical : List LexicalHit) (chunkId : Uuid) : Option Nat :=
  (lexical.find? (·.chunkId = chunkId)).map (·.rank)

/-- The rank of a chunk in the vector channel; of several hits of one chunk the last counts. -/
def vectorRank (vector : List VectorHit) (chunkId : Uuid) : Option Nat :=
  (vectorByChunk vector chunkId).map (·.rank)

def sumOf : List Decimal → Except Signal Decimal
  | [] => .ok 0
  | [a] => .ok a
  | a :: b :: rest => do a.add defaultContext (← sumOf (b :: rest))

/-- The quantized sum of `1 / (k + rank)`. -/
def reciprocalSum (k : Int) (ranks : List Nat) : Except Signal Decimal := do
  let parts ← ranks.mapM fun rank => Decimal.div defaultContext 1 (.ofNat (k.toNat + rank))
  (← sumOf parts).quantize defaultContext quantum

/-- **The fused hits are those of both channels.** -/
structure Fuses (lexical : List LexicalHit) (vector : List VectorHit) (k : Int)
    (fused : List HybridHit) : Prop where
  /-- No chunk comes back twice. -/
  once : (fused.map (·.chunkId)).Nodup
  /-- Every chunk of either channel comes back, and no other. -/
  every : ∀ chunkId, chunkId ∈ fused.map (·.chunkId) ↔
    chunkId ∈ lexical.map (·.chunkId) ∨ chunkId ∈ vector.map (·.chunkId)
  /-- Its score is the quantized sum over the channels that contain it. -/
  scores : ∀ hit ∈ fused, reciprocalSum k ((lexicalRank lexical hit.chunkId).toList ++
    (vectorRank vector hit.chunkId).toList) = .ok hit.fusionScore

variable {lexical : List LexicalHit} {vector : List VectorHit} {k : Int}

/-- A reciprocal is computed without a signal, and is small. -/
lemma div_one_ok (hk : 1 ≤ k) (rank : Nat) :
    ∃ r, Decimal.div defaultContext 1 (.ofNat (k.toNat + rank)) = .ok r ∧ r.Below 2 := by
  obtain ⟨r, hr, hbelow, -⟩ : ∃ r, Decimal.div defaultContext (.ofNat 1)
      (.ofNat (k.toNat + rank)) = .ok r ∧ r.Below ((0 : Nat) + 2) ∧ r.negative = false :=
    Decimal.div_of_below (by omega) (by omega) (by decide) (by decide) (by decide)
  exact ⟨r, hr, hbelow⟩

lemma quantize_ok {a : Decimal} (h : a.Below 4) :
    ∃ r, a.quantize defaultContext quantum = .ok r :=
  Decimal.quantize_of_below h (by decide) (by decide) (by decide) (by decide)

/-- **The hybrid hit of a lexical hit**, with the sum over its channels. -/
lemma exists_fuse (vector : List VectorHit) (hk : 1 ≤ k) (hit : LexicalHit) :
    ∃ hybrid, fuse vector k hit = .ok hybrid ∧ hybrid.chunkId = hit.chunkId ∧
      reciprocalSum k (hit.rank :: (vectorRank vector hit.chunkId).toList) =
        .ok hybrid.fusionScore := by
  obtain ⟨lexicalPart, hlexical, hlexicalBelow⟩ := div_one_ok hk hit.rank
  unfold fuse reciprocalSum vectorRank
  rw [hlexical]
  cases hvector : vectorByChunk vector hit.chunkId with
  | none =>
      have hbelow : lexicalPart.Below 4 := by
        unfold Decimal.Below at *
        omega
      obtain ⟨score, hscore⟩ := quantize_ok hbelow
      simp only [ok_bind, pure_bind, hscore, Option.map_none, Option.toList_none, List.mapM_cons,
        List.mapM_nil, hlexical, sumOf]
      exact ⟨_, rfl, rfl, rfl⟩
  | some found =>
      obtain ⟨vectorPart, hpart, hpartBelow⟩ := div_one_ok hk found.rank
      obtain ⟨total, htotal, htotalBelow⟩ :
          ∃ r, lexicalPart.add defaultContext vectorPart = .ok r ∧ r.Below (2 + 2) :=
        Decimal.add_of_below hlexicalBelow hpartBelow (by decide) (by decide) (by decide)
      obtain ⟨score, hscore⟩ := quantize_ok htotalBelow
      simp only [ok_bind, pure_bind, hpart, htotal, hscore, Option.map_some, Option.toList_some,
        List.mapM_cons, List.mapM_nil, hlexical, sumOf]
      exact ⟨_, rfl, rfl, rfl⟩

/-- The rank of a hit, in a channel without repetitions. -/
lemma lexicalRank_of_mem (hdistinct : (lexical.map (·.chunkId)).Nodup) {hit : LexicalHit}
    (hmem : hit ∈ lexical) : lexicalRank lexical hit.chunkId = some hit.rank := by
  induction lexical with
  | nil => cases hmem
  | cons first rest ih =>
      rw [List.map_cons, List.nodup_cons] at hdistinct
      obtain ⟨hfirst, hrest⟩ := hdistinct
      rcases List.mem_cons.mp hmem with rfl | hmem
      · simp [lexicalRank]
      · have hne : first.chunkId ≠ hit.chunkId := fun heq =>
          hfirst (heq ▸ List.mem_map_of_mem hmem)
        have hrank := ih hrest hmem
        rw [lexicalRank] at hrank ⊢
        rwa [List.find?_cons_of_neg (by simpa using hne)]

/-- **What fusion returns**: a hit for every lexical one, each with its sum. -/
lemma exists_fusion (hdistinct : (lexical.map (·.chunkId)).Nodup) (vector : List VectorHit)
    (hk : 1 ≤ k) :
    ∃ fused, reciprocalRankFusion lexical vector k = .ok fused ∧
      (fused.map (·.chunkId)).Perm (lexical.map (·.chunkId)) ∧
      ∀ hit ∈ fused, reciprocalSum k ((lexicalRank lexical hit.chunkId).toList ++
        (vectorRank vector hit.chunkId).toList) = .ok hit.fusionScore := by
  obtain ⟨results, hresults⟩ : ∃ results, lexical.mapM (fuse vector k) = .ok results := by
    rw [exists_mapM_ok]
    intro hit _
    obtain ⟨hybrid, hhybrid, -⟩ := exists_fuse vector hk hit
    exact ⟨hybrid, hhybrid⟩
  have hrelated := forall₂_mapM (R := fun hit hybrid => hybrid.chunkId = hit.chunkId ∧
    reciprocalSum k (hit.rank :: (vectorRank vector hit.chunkId).toList) =
      .ok hybrid.fusionScore) (fun hit hybrid hfuse => by
        obtain ⟨hybrid', hfuse', hspec⟩ := exists_fuse vector hk hit
        rw [hfuse', Except.ok.injEq] at hfuse
        exact hfuse ▸ hspec) hresults
  have hids : results.map (·.chunkId) = lexical.map (·.chunkId) :=
    (map_eq_of_forall₂ hrelated fun _ _ h => h.1.symm).symm
  have hfused : reciprocalRankFusion lexical vector k = .ok (results.insertionSort fun a b =>
      rankedBefore a.fusionScore a.locatorChecksum a.chunkIndex b.fusionScore b.locatorChecksum
        b.chunkIndex) := by
    rw [reciprocalRankFusion, check_bind_ok]
    refine ⟨by omega, ?_⟩
    rw [hresults]
    rfl
  refine ⟨_, hfused, ((List.perm_insertionSort _ results).map _).trans (.of_eq hids), ?_⟩
  · intro hybrid hmem
    obtain ⟨hit, hhit, hsame, hscore⟩ :=
      exists_of_forall₂ hrelated.flip ((List.mem_insertionSort _).mp hmem)
    rw [hsame, lexicalRank_of_mem hdistinct hhit]
    exact hscore

/-- **Fusion is right exactly when every vector hit has a lexical one.** -/
lemma fuses_iff (hdistinct : (lexical.map (·.chunkId)).Nodup) (vector : List VectorHit)
    (hk : 1 ≤ k) :
    (∃ fused, reciprocalRankFusion lexical vector k = .ok fused ∧ Fuses lexical vector k fused) ↔
      ∀ hit ∈ vector, hit.chunkId ∈ lexical.map (·.chunkId) := by
  obtain ⟨fused, hfused, hperm, hscores⟩ := exists_fusion hdistinct vector hk
  constructor
  · rintro ⟨fused', hfused', hfuses⟩ hit hhit
    rw [hfused, Except.ok.injEq] at hfused'
    subst hfused'
    have hmem := (hfuses.every hit.chunkId).mpr (Or.inr (List.mem_map_of_mem hhit))
    exact hperm.mem_iff.mp hmem
  · intro hvector
    refine ⟨fused, hfused, hperm.nodup_iff.mpr hdistinct, fun chunkId => ?_, hscores⟩
    rw [hperm.mem_iff]
    constructor
    · exact Or.inl
    · rintro (hmem | hmem)
      · exact hmem
      · obtain ⟨hit, hhit, rfl⟩ := List.mem_map.mp hmem
        exact hvector hit hhit

/-! ## Reranking -/

/-- The key by which hits are ordered. -/
def rerankKey (keyed : HybridHit × Decimal) : Bool ×ₗ ℤ ×ₗ ℚ ×ₗ ℕ ×ₗ String ×ₗ ℕ :=
  toLex (!keyed.1.phraseMatch, toLex (-keyed.1.headingTokenMatches, toLex (keyed.2.toRat,
    toLex (keyed.1.bestRank, toLex (keyed.1.locatorChecksum, keyed.1.chunkIndex)))))

lemma rerankedBefore_iff {a b : HybridHit × Decimal} :
    rerankedBefore a b = true ↔ rerankKey a ≤ rerankKey b := by
  unfold rerankedBefore rerankKey
  simp only [Prod.Lex.toLex_le_toLex]
  rcases eq_or_ne a.1.phraseMatch b.1.phraseMatch with hphrase | hphrase
  · rw [if_neg (not_not_intro hphrase)]
    simp only [hphrase, lt_irrefl, false_or, true_and]
    rcases eq_or_ne a.1.headingTokenMatches b.1.headingTokenMatches with hheading | hheading
    · rw [if_neg (not_not_intro hheading)]
      simp only [hheading, lt_irrefl, false_or, true_and, Decimal.le_iff_toRat, not_le]
      rcases lt_trichotomy a.2.toRat b.2.toRat with hlt | heq | hgt
      · simp only [hlt, if_true, true_or]
      · simp only [heq, lt_irrefl, if_false, decide_eq_true_eq, true_and, false_or]
      · simp only [hgt, hgt.not_gt, hgt.ne', if_true, if_false, Bool.false_eq_true, false_and,
          or_self]
    · have hne : -(a.1.headingTokenMatches : ℤ) ≠ -b.1.headingTokenMatches := by omega
      rw [if_pos hheading, decide_eq_true_eq]
      simp only [hne, false_and, or_false]
      omega
  · rw [if_pos hphrase]
    cases ha : a.1.phraseMatch <;> cases hb : b.1.phraseMatch <;> simp_all

/-- **The hits are reranked**: each once, with its reason, in an order that does not depend on the
one they came in when locator and index tell them apart. -/
def Reranks (hits : List HybridHit) : Prop :=
  ∃ ranked, stableRerank hits = .ok ranked ∧
    ranked.Perm (hits.map fun hit => { hit with rerankReason := reason hit }) ∧
    ((hits.map fun hit => (hit.locatorChecksum, hit.chunkIndex)).Nodup →
      ∀ hits', hits.Perm hits' → stableRerank hits' = .ok ranked)

lemma pairwise_rerankedBefore (keyed : List (HybridHit × Decimal)) :
    (keyed.insertionSort fun a b => rerankedBefore a b).Pairwise
      fun a b => rerankedBefore a b = true := by
  have htotal : Std.Total fun a b : HybridHit × Decimal => rerankedBefore a b = true :=
    ⟨fun a b => by simpa only [rerankedBefore_iff] using le_total (rerankKey a) (rerankKey b)⟩
  have htrans : IsTrans (HybridHit × Decimal) fun a b => rerankedBefore a b = true :=
    ⟨fun a b c => by simpa only [rerankedBefore_iff] using le_trans⟩
  exact List.pairwise_insertionSort _ keyed

lemma withKey_ok {hit : HybridHit} {keyed : HybridHit × Decimal} (h : withKey hit = .ok keyed) :
    keyed.1 = hit := by
  obtain ⟨score, -, rfl⟩ := map_ok.mp h
  rfl

/-- **Reranking is right exactly when every score can be negated.** -/
lemma reranks_iff (hits : List HybridHit) :
    Reranks hits ↔ ∀ hit ∈ hits, |hit.fusionScore.toRat| < defaultContext.ceiling := by
  have hrange : ∀ a : Decimal, (∃ r, a.neg defaultContext = .ok r) ↔
      |a.toRat| < defaultContext.ceiling := fun a => Decimal.neg_ok_iff (by decide) (by decide)
  simp only [← hrange]
  have hkey : ∀ hit : HybridHit, (∃ keyed, withKey hit = .ok keyed) ↔
      ∃ score, hit.fusionScore.neg defaultContext = .ok score := by
    intro hit
    unfold withKey
    cases hit.fusionScore.neg defaultContext with
    | error e => simp [Except.map]
    | ok score => simp [Except.map]
  constructor
  · rintro ⟨ranked, hranked, -⟩ hit hmem
    obtain ⟨keyed, hkeyed, -⟩ := bind_ok.mp hranked
    rw [← hkey]
    exact exists_mapM_ok.mp ⟨keyed, raising_ok.mp hkeyed⟩ hit hmem
  · intro hscores
    obtain ⟨keyed, hkeyed⟩ : ∃ keyed, hits.mapM withKey = .ok keyed :=
      exists_mapM_ok.mpr fun hit hmem => (hkey hit).mpr (hscores hit hmem)
    have hfirst : hits = keyed.map (·.1) := by
      have hrelated := forall₂_mapM (R := fun hit keyed => keyed.1 = hit)
        (fun _ _ => withKey_ok) hkeyed
      simpa using map_eq_of_forall₂ (p := id) hrelated fun _ _ h => h.symm
    have hranked : ∀ {hits' : List HybridHit} {keyed'}, hits'.mapM withKey = .ok keyed' →
        stableRerank hits' = .ok ((keyed'.insertionSort fun a b => rerankedBefore a b).map
          fun keyed => { keyed.1 with rerankReason := reason keyed.1 }) := by
      intro hits' keyed' hkeyed'
      rw [stableRerank, raising_ok.mpr hkeyed']
      rfl
    refine ⟨_, hranked hkeyed, ?_, fun hdistinct hits' hperm => ?_⟩
    · rw [hfirst, List.map_map]
      exact (List.perm_insertionSort _ keyed).map _
    · obtain ⟨keyed', hkeyed', hperm'⟩ := mapM_perm hperm hkeyed
      rw [hranked hkeyed']
      congr 2
      -- Two sorted lists of the same hits, whose keys tell them apart.
      have hsame : ((keyed'.insertionSort fun a b => rerankedBefore a b)).Perm
          (keyed.insertionSort fun a b => rerankedBefore a b) :=
        (List.perm_insertionSort _ keyed').trans
          (hperm'.symm.trans (List.perm_insertionSort _ keyed).symm)
      refine hsame.eq_of_pairwise (fun a b ha hb hab hba => ?_) (pairwise_rerankedBefore keyed')
        (pairwise_rerankedBefore keyed)
      have hequal := le_antisymm (rerankedBefore_iff.mp hab) (rerankedBefore_iff.mp hba)
      simp only [rerankKey, toLex_inj, Prod.mk.injEq] at hequal
      have ha' : a ∈ keyed := hperm'.mem_iff.mpr ((List.mem_insertionSort _).mp ha)
      have hb' : b ∈ keyed := (List.mem_insertionSort _).mp hb
      rw [hfirst, List.map_map] at hdistinct
      exact List.inj_on_of_nodup_map hdistinct ha' hb' (Prod.ext hequal.2.2.2.2.1 hequal.2.2.2.2.2)

/-! ## Both -/

/-- **Fusion and reranking are right exactly when** every vector hit has a lexical one, and every
score that is reranked is in the range of decimals. -/
theorem fuses_and_reranks_iff (hdistinct : (lexical.map (·.chunkId)).Nodup)
    (vector : List VectorHit) (hk : 1 ≤ k) (hits : List HybridHit) :
    ((∃ fused, reciprocalRankFusion lexical vector k = .ok fused ∧
        Fuses lexical vector k fused) ∧ Reranks hits) ↔
      (∀ hit ∈ vector, hit.chunkId ∈ lexical.map (·.chunkId)) ∧
        ∀ hit ∈ hits, |hit.fusionScore.toRat| < defaultContext.ceiling :=
  and_congr (fuses_iff hdistinct vector hk) (reranks_iff hits)

/-- The chunk with a number, found first in the lexical channel. -/
def lexicalHit (number : Nat) : LexicalHit where
  chunkId := ⟨BitVec.ofNat 128 number⟩
  documentVersionId := 0
  citationId := 0
  chunkIndex := number
  locatorChecksum := ""
  text := []
  sectionTitle := none
  score := 2
  rank := 1
  phraseMatch := false
  headingTokenMatches := 0

/-- The chunk with a number, found first in the vector channel. -/
def vectorHit (number : Nat) : VectorHit where
  chunkId := ⟨BitVec.ofNat 128 number⟩
  score := 1
  rank := 1

theorem fuses_and_reranks_one :
    ((∃ fused, reciprocalRankFusion [lexicalHit 1] [vectorHit 1] 60 = .ok fused ∧
        Fuses [lexicalHit 1] [vectorHit 1] 60 fused) ∧ Reranks []) ↔
      (∀ hit ∈ [vectorHit 1], hit.chunkId ∈ [lexicalHit 1].map (·.chunkId)) ∧
        ∀ hit ∈ ([] : List HybridHit), |hit.fusionScore.toRat| < defaultContext.ceiling :=
  fuses_and_reranks_iff (by decide) _ (by decide) _

/-- A chunk that only the vector channel has is lost. -/
theorem vectorOnly_not_fused :
    ¬ ((∃ fused, reciprocalRankFusion [lexicalHit 1] [vectorHit 2] 60 = .ok fused ∧
        Fuses [lexicalHit 1] [vectorHit 2] 60 fused) ∧ Reranks []) := by
  rintro ⟨hfuses, -⟩
  rw [fuses_iff (by decide) _ (by decide)] at hfuses
  exact absurd (hfuses (vectorHit 2) (by decide)) (by decide)

end StockResearch.Retrieval
