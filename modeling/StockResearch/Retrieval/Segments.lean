import StockResearch.Core.Scanning
import StockResearch.Retrieval.Lexical
import Mathlib.Data.List.TakeWhile

/-!
# The segments of a text

`_SEGMENT` cuts a text into maximal runs of CJK characters and into words, which have none
(`Cuts`, `cuts_finditerIn`).  Everything about tokens is read off the segments: a run has its length
and the runs inside it, a word only itself.

`Tokenizable` says of which texts there are tokens: `tokenize` returns exactly on those
(`tokenize_ok_iff`), and building an index exactly when every admitted chunk has such a text.
-/

namespace StockResearch.Retrieval

open PyText PyDecimal Checked

/-! ## Runs and words -/

/-- The segments of a normalized text: a character outside of every segment is skipped, a run is as
long as it can be, and a word has no character of a run. -/
inductive Cuts : Text → List Text → Prop where
  | nil : Cuts [] []
  | skip {c : Char} {cs : Text} {segments : List Text} : isCjkChar c = false → Cuts cs segments →
      Cuts (c :: cs) segments
  | run {t : Text} {rest : Text} {segments : List Text} : t ≠ [] → (∀ c ∈ t, isCjkChar c = true) →
      (∀ c ∈ rest.head?, isCjkChar c = false) → Cuts rest segments → Cuts (t ++ rest) (t :: segments)
  | word {t : Text} {rest : Text} {segments : List Text} : t ≠ [] →
      (∀ c ∈ t, isCjkChar c = false) → Cuts rest segments → Cuts (t ++ rest) (t :: segments)

/-- The words, codes and numbers of `_SEGMENT`. -/
def wordSegment : Regex :=
  .seq (.rep 0 (some 1) (.seq (.rep 1 none (.char isLatin)) (.text ":")))
    (.seq (.rep 1 none (.char isLatinOrDigit))
      (.seq (.rep 0 none (.seq (.oneOf ".%-") (.rep 1 none (.char isLatinOrDigit))))
        (.rep 0 (some 1) (.text "%"))))

lemma not_cjk_of_isLatinOrDigit {c : Char} (h : isLatinOrDigit c = true) : isCjkChar c = false := by
  have hlt : c.toNat < 0x3400 := by
    simp only [isLatinOrDigit, isLatin, Bool.or_eq_true, Bool.and_eq_true, decide_eq_true_eq,
      Char.le_def, UInt32.le_iff_toNat_le] at h
    simp only [Char.toNat]
    have hz : 'z'.val.toNat = 122 := rfl
    have hZ : 'Z'.val.toNat = 90 := rfl
    have h9 : '9'.val.toNat = 57 := rfl
    omega
  simp only [isCjkChar, Bool.and_eq_false_iff, decide_eq_false_iff_not]
  omega

lemma only_wordSegment : wordSegment.Only fun c => isCjkChar c = false := by
  have hletter : ∀ c, isLatin c = true → isCjkChar c = false := fun c hc =>
    not_cjk_of_isLatinOrDigit (by rw [isLatinOrDigit, hc, Bool.true_or])
  refine ⟨⟨hletter, ?_⟩, fun c => not_cjk_of_isLatinOrDigit,
    ⟨?_, fun c => not_cjk_of_isLatinOrDigit⟩, ?_⟩
  · intro c (hc : (':' == c) = true)
    exact beq_iff_eq.mp hc ▸ rfl
  · intro c hc
    have hmem : c = '.' ∨ c = '%' ∨ c = '-' := by simpa using hc
    rcases hmem with rfl | rfl | rfl <;> rfl
  · intro c (hc : ('%' == c) = true)
    exact beq_iff_eq.mp hc ▸ rfl

lemma consumes_wordSegment : wordSegment.Consumes :=
  Or.inr (Or.inl ⟨Nat.one_pos, trivial⟩)

/-- **What `_SEGMENT` finds.** -/
lemma cuts_finditerIn : ∀ (n : Nat) (t : Text), t.length ≤ n → Cuts t (segment.finditerIn n t) := by
  intro n
  induction n with
  | zero =>
      intro t ht
      obtain rfl := List.length_eq_zero_iff.mp (Nat.le_zero.mp ht)
      exact .nil
  | succ n ih =>
      intro t ht
      cases t with
      | nil => exact .nil
      | cons c cs =>
          have htries : segment.tries (c :: cs) =
              (Regex.rep 1 none (.char isCjkChar)).tries (c :: cs) ++ wordSegment.tries (c :: cs) :=
            rfl
          rw [List.length_cons] at ht
          by_cases hc : isCjkChar c = true
          · have hhead : (segment.tries (c :: cs)).head? = some (cs.dropWhile isCjkChar) := by
              rw [htries, List.head?_append, Regex.head_tries_rep hc]
              rfl
            have hsplit : c :: cs = (c :: cs.takeWhile isCjkChar) ++ cs.dropWhile isCjkChar := by
              rw [List.cons_append, List.takeWhile_append_dropWhile]
            rw [Regex.finditerIn_some hhead hsplit, hsplit]
            refine .run (List.cons_ne_nil _ _) ?_ ?_ (ih _ ?_)
            · intro d hd
              rcases List.mem_cons.mp hd with rfl | hd
              · exact hc
              · exact List.mem_takeWhile_imp hd
            · intro d hd
              rw [Option.mem_def] at hd
              have hnot := List.head?_dropWhile_not isCjkChar cs
              rw [hd] at hnot
              simpa using hnot
            · have := List.length_dropWhile_le isCjkChar cs
              omega
          · rw [Regex.tries_rep_of_not hc, List.nil_append] at htries
            cases hhead : (segment.tries (c :: cs)).head? with
            | none =>
                rw [Regex.finditerIn_none hhead]
                exact .skip (Bool.eq_false_iff.mpr hc) (ih cs (by omega))
            | some rest =>
                have hmem : rest ∈ wordSegment.tries (c :: cs) := by
                  rw [htries] at hhead
                  exact List.mem_of_mem_head? hhead
                obtain ⟨taken, heq, htaken⟩ := only_wordSegment.takes _ _ hmem
                have hlt := consumes_wordSegment.length_lt _ _ hmem
                rw [Regex.finditerIn_some hhead heq, heq]
                refine .word ?_ htaken (ih rest ?_)
                · rintro rfl
                  rw [heq] at hlt
                  exact absurd hlt (lt_irrefl _)
                · rw [List.length_cons] at hlt
                  omega

/-- The segments of a text. -/
def segmentsOf (folding : Folding) (text : Text) : List Text :=
  segment.finditer (strip (folding.casefold (folding.nfkc text)))

lemma cuts_segmentsOf (folding : Folding) (text : Text) :
    Cuts (strip (folding.casefold (folding.nfkc text))) (segmentsOf folding text) :=
  cuts_finditerIn _ _ le_rfl

lemma Cuts.ne_nil {t : Text} {segments : List Text} (h : Cuts t segments) :
    ∀ s ∈ segments, s ≠ [] := by
  induction h with
  | nil => simp
  | skip _ _ ih => exact ih
  | run hne _ _ _ ih => exact List.forall_mem_cons.mpr ⟨hne, ih⟩
  | word hne _ _ ih => exact List.forall_mem_cons.mpr ⟨hne, ih⟩

/-! ## Tokens -/

/-- How many tokens a segment gives. -/
def tokenWeight (s : Text) : Nat :=
  if isCjk s then if s.length ≤ 32 then s.length else s.length - 1
  else if s ∈ stopwords then 0 else 1

lemma length_segmentValues {s : Text} (hne : s ≠ []) :
    (segmentValues s).length = tokenWeight s := by
  have hpositive := List.length_pos_of_ne_nil hne
  unfold segmentValues tokenWeight
  by_cases hcjk : isCjk s = true
  · rw [if_pos hcjk, if_pos hcjk]
    by_cases hone : s.length = 1
    · rw [if_pos hone, hone]
      rfl
    · rw [if_neg hone, List.length_append, List.length_map, List.length_range]
      by_cases hshort : s.length ≤ 32
      · rw [if_pos hshort, if_pos hshort, List.length_singleton]
        omega
      · rw [if_neg hshort, if_neg hshort, List.length_nil, Nat.zero_add]
  · rw [if_neg hcjk, if_neg hcjk]
    split_ifs <;> rfl

/-- **Which tokens are too long**: those of long words. -/
lemma bounds_segmentValues {s : Text} (hne : s ≠ []) :
    (∀ value ∈ segmentValues s, 1 ≤ value.length ∧ value.length ≤ 64) ↔
      (isCjk s = false → s.length ≤ 64) := by
  have hpositive := List.length_pos_of_ne_nil hne
  unfold segmentValues
  by_cases hcjk : isCjk s = true
  · rw [if_pos hcjk]
    refine iff_of_true ?_ fun h => absurd hcjk (by simp [h])
    by_cases hone : s.length = 1
    · rw [if_pos hone]
      intro value hvalue
      obtain rfl := List.mem_singleton.mp hvalue
      omega
    · rw [if_neg hone]
      intro value hvalue
      rcases List.mem_append.mp hvalue with hvalue | hvalue
      · split_ifs at hvalue with hshort
        · obtain rfl := List.mem_singleton.mp hvalue
          omega
        · cases hvalue
      · obtain ⟨index, hindex, rfl⟩ := List.mem_map.mp hvalue
        rw [List.mem_range] at hindex
        rw [List.length_take, List.length_drop]
        omega
  · rw [if_neg hcjk]
    by_cases hstop : s ∈ stopwords
    · rw [if_pos hstop]
      have hshort : ∀ word ∈ stopwords, word.length ≤ 64 := by decide
      exact iff_of_true (by simp) fun _ => hshort s hstop
    · rw [if_neg hstop, List.forall_mem_singleton]
      simp only [Bool.eq_false_iff.mpr hcjk, true_imp_iff]
      omega

/-- **A text that has tokens.** -/
structure Tokenizable (folding : Folding) (text : Text) : Prop where
  /-- No control character but a line feed and a tabulator. -/
  controls : ∀ c ∈ text, isControl c = true → c = '\n' ∨ c = '\t'
  /-- No word is too long. -/
  words : ∀ s ∈ segmentsOf folding text, isCjk s = false → s.length ≤ 64
  /-- There are not too many characters in runs and words. -/
  weight : ((segmentsOf folding text).map tokenWeight).sum ≤ 4096

variable {folding : Folding} {text : Text}

lemma lexicalToken_ok_iff {value : Text} {position : Nat} :
    (∃ token, lexicalToken value position = .ok token) ↔
      (1 ≤ value.length ∧ value.length ≤ 64) ∧ position ≤ 4095 := by
  unfold lexicalToken
  split_ifs with h <;> simp [h]

/-- **`tokenize` returns exactly on these texts.** -/
lemma tokenize_ok_iff :
    (∃ tokens, tokenize folding text false = .ok tokens) ↔ Tokenizable folding text := by
  have hne := (cuts_segmentsOf folding text).ne_nil
  have hlength : ((segmentsOf folding text).flatMap segmentValues).length =
      ((segmentsOf folding text).map tokenWeight).sum := by
    rw [List.length_flatMap]
    exact congrArg List.sum (List.map_congr_left fun s hs => length_segmentValues (hne s hs))
  have hcontrols : (text.any fun c => isControl c && !(c == '\n' || c == '\t')) = false ↔
      ∀ c ∈ text, isControl c = true → c = '\n' ∨ c = '\t' := by
    simp only [List.any_eq_false, Bool.and_eq_true, Bool.not_eq_true', Bool.or_eq_false_iff,
      beq_eq_false_iff_ne, not_and, not_not, or_iff_not_imp_left, ne_eq]
  have htokens : (∃ tokens, ((segmentsOf folding text).flatMap segmentValues).zipIdx.mapM
        (fun p => lexicalToken p.1 p.2) = .ok tokens) ↔
      (∀ s ∈ segmentsOf folding text, isCjk s = false → s.length ≤ 64) ∧
        ((segmentsOf folding text).map tokenWeight).sum ≤ 4096 := by
    rw [exists_mapM_ok, ← hlength]
    simp only [Prod.forall, lexicalToken_ok_iff]
    have hwords : (∀ s ∈ segmentsOf folding text, isCjk s = false → s.length ≤ 64) ↔
        ∀ value ∈ (segmentsOf folding text).flatMap segmentValues,
          1 ≤ value.length ∧ value.length ≤ 64 := by
      rw [List.forall_mem_flatMap]
      exact forall₂_congr fun s hs => (bounds_segmentValues (hne s hs)).symm
    rw [hwords]
    generalize (segmentsOf folding text).flatMap segmentValues = values
    constructor
    · intro h
      constructor
      · intro value hvalue
        obtain ⟨index, hindex, rfl⟩ := List.getElem_of_mem hvalue
        exact (h _ index (List.mem_zipIdx_iff_getElem?.mpr (List.getElem?_eq_getElem hindex))).1
      · by_contra hlong
        have hlast := List.getElem?_eq_getElem (l := values) (i := 4096) (by omega)
        have := (h _ 4096 (List.mem_zipIdx_iff_getElem?.mpr hlast)).2
        omega
    · rintro ⟨hbounds, hcount⟩ value index hmem
      have hget := List.mem_zipIdx_iff_getElem?.mp hmem
      dsimp only at hget
      obtain ⟨hlt, rfl⟩ := List.getElem?_eq_some_iff.mp hget
      exact ⟨hbounds _ (List.getElem_mem hlt), by omega⟩
  constructor
  · rintro ⟨tokens, h⟩
    simp only [tokenize, check_bind_ok] at h
    obtain ⟨hclean, -, -, -, htokenized⟩ := h
    obtain ⟨hwords, hweight⟩ := htokens.mp ⟨tokens, htokenized⟩
    exact ⟨hcontrols.mp (Bool.eq_false_iff.mpr hclean), hwords, hweight⟩
  · rintro ⟨hclean, hwords, hweight⟩
    obtain ⟨tokens, htokenized⟩ := htokens.mpr ⟨hwords, hweight⟩
    refine ⟨tokens, ?_⟩
    simp only [tokenize, check_bind_ok]
    refine ⟨?_, by simp, by simp, by simp, htokenized⟩
    rw [hcontrols.mpr hclean]
    exact Bool.false_ne_true

end StockResearch.Retrieval
