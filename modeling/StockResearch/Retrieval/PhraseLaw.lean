import StockResearch.Core.Words
import StockResearch.Retrieval.SearchLaw
import StockResearch.Retrieval.Segments

/-!
# Phrases

A chunk is marked as a phrase match when its tokens contain those of the query, one after the other.
The tokens of a run of CJK characters begin with the run itself, so the tokens of a query that is a
part of a longer run are not among those of the run: a shorter run is not recognized inside it
(`financialRisk_not_phraseLaw`).  Words are compared whole, as `_SEGMENT` cuts them, and stopwords
are left out.

**Runs.**  `infix_values_run_iff` says in which texts the tokens of a run stand.

**Words.**  `infix_values_words_iff` says so of a query of words.

**`phraseLaw_iff`** puts them together: the mark is right exactly when a query that the text
contains can be recognized there.
-/

namespace StockResearch.Retrieval

open PyText PyDecimal Checked

/-! ## Tokens of a run -/

/-- The overlapping pairs of a run. -/
def pairs (s : Text) : List Text := (List.range (s.length - 1)).map fun index => (s.drop index).take 2

lemma pairs_cons_cons (c d : Char) (s : Text) : pairs (c :: d :: s) = [c, d] :: pairs (d :: s) := by
  unfold pairs
  simp only [List.length_cons, Nat.add_sub_cancel, List.range_succ_eq_map, List.map_cons,
    List.map_map, List.drop_zero]
  rfl

lemma pairs_of_prefix_of {q r : Text} (h : q <+: r) : pairs q <+: pairs r := by
  induction q generalizing r with
  | nil => exact List.nil_prefix
  | cons c q ih =>
      obtain ⟨t, rfl⟩ := h
      cases q with
      | nil => exact List.nil_prefix
      | cons d q =>
          rw [List.cons_append, List.cons_append, pairs_cons_cons, pairs_cons_cons,
            List.cons_prefix_cons]
          exact ⟨rfl, ih (List.prefix_append _ _)⟩

lemma pairs_infix {q r : Text} (h : q <:+: r) : pairs q <:+: pairs r := by
  induction r with
  | nil =>
      rw [List.infix_nil.mp h]
  | cons c r ih =>
      rw [List.infix_cons_iff] at h
      rcases h with h | h
      · exact (pairs_of_prefix_of h).isInfix
      · cases r with
        | nil =>
            rw [List.infix_nil.mp h]
            exact List.infix_rfl
        | cons d r =>
            rw [pairs_cons_cons]
            exact (ih h).trans (List.suffix_cons _ _).isInfix

lemma length_of_mem_pairs {s p : Text} (h : p ∈ pairs s) : p.length = 2 := by
  obtain ⟨index, hindex, rfl⟩ := List.mem_map.mp h
  rw [List.mem_range] at hindex
  rw [List.length_take, List.length_drop]
  omega

lemma pairs_ne_nil {s : Text} (h : 2 ≤ s.length) : pairs s ≠ [] := by
  rw [← List.length_pos_iff, pairs, List.length_map, List.length_range]
  omega

lemma getLast_pairs {s q : Text} (hq : q.length = 2) : (pairs s).getLast? = some q ↔ q <:+ s := by
  induction s with
  | nil =>
      refine iff_of_false (by simp [pairs]) fun h => ?_
      rw [List.suffix_nil.mp h] at hq
      cases hq
  | cons c s ih =>
      cases s with
      | nil =>
          refine iff_of_false (by simp [pairs]) fun h => ?_
          have := h.length_le
          rw [hq] at this
          simp at this
      | cons d s =>
          rw [pairs_cons_cons, List.suffix_cons_iff]
          cases s with
          | nil =>
              have hshort : ¬ q <:+ [d] := fun h => by
                have := h.length_le
                rw [hq] at this
                simp at this
              simp [pairs, hshort, eq_comm]
          | cons e s =>
              obtain ⟨p, ps, hps⟩ := List.exists_cons_of_ne_nil
                (pairs_ne_nil (s := d :: e :: s) (by simp))
              rw [← ih, hps, List.getLast?_cons_cons]
              refine ⟨Or.inr, ?_⟩
              rintro (rfl | h)
              · simp at hq
              · exact h

/-- The first pair is the beginning of the run. -/
lemma head_pairs {s q : Text} (hq : q.length = 2) : (pairs s).head? = some q ↔ q <+: s := by
  match s with
  | [] =>
      refine iff_of_false (by simp [pairs]) fun h => ?_
      rw [List.prefix_nil.mp h] at hq
      cases hq
  | [c] =>
      refine iff_of_false (by simp [pairs]) fun h => ?_
      have := h.length_le
      rw [hq] at this
      simp at this
  | c :: d :: s =>
      rw [pairs_cons_cons, List.head?_cons, Option.some.injEq]
      match q, hq with
      | [a, b], _ => simp [List.cons_prefix_cons, eq_comm]

/-- A pair is followed by itself where one character stands three times. -/
lemma twice_infix_pairs {s q : Text} :
    [q, q] <:+: pairs s ↔ ∃ a, q = [a, a] ∧ [a, a, a] <:+: s := by
  induction s with
  | nil => simp [pairs]
  | cons c s ih =>
      match s with
      | [] =>
          refine iff_of_false (by simp [pairs]) ?_
          rintro ⟨a, -, h⟩
          have := h.length_le
          simp at this
      | [d] =>
          refine iff_of_false (fun h => ?_) ?_
          · have := h.length_le
            simp [pairs] at this
          · rintro ⟨a, -, h⟩
            have := h.length_le
            simp at this
      | d :: e :: s =>
          rw [pairs_cons_cons, List.infix_cons_iff, ih, pairs_cons_cons]
          simp only [List.cons_prefix_cons, List.nil_prefix, and_true]
          constructor
          · rintro (⟨rfl, heq⟩ | ⟨a, rfl, h⟩)
            · rw [List.cons.injEq, List.cons.injEq] at heq
              obtain ⟨rfl, rfl, -⟩ := heq
              exact ⟨c, rfl, (List.prefix_append [c, c, c] s).isInfix⟩
            · exact ⟨a, rfl, h.trans (List.suffix_cons _ _).isInfix⟩
          · rintro ⟨a, rfl, h⟩
            rw [List.infix_cons_iff] at h
            rcases h with h | h
            · simp only [List.cons_prefix_cons, List.nil_prefix, and_true] at h
              obtain ⟨rfl, rfl, rfl⟩ := h
              exact Or.inl ⟨rfl, rfl⟩
            · exact Or.inr ⟨a, rfl, h⟩

/-! ## Tokens of a segment -/

lemma segmentValues_of_not_cjk {s : Text} (h : isCjk s = false) (hstop : s ∉ stopwords) :
    segmentValues s = [s] := by
  rw [segmentValues, if_neg (by simp [h]), if_neg hstop]

lemma segmentValues_of_one {s : Text} (h : isCjk s = true) (hone : s.length = 1) :
    segmentValues s = [s] := by
  rw [segmentValues, if_pos h, if_pos hone]

lemma segmentValues_of_short {s : Text} (h : isCjk s = true) (htwo : 2 ≤ s.length)
    (hshort : s.length ≤ 32) : segmentValues s = s :: pairs s := by
  rw [segmentValues, if_pos h, if_neg (by omega), if_pos hshort]
  rfl

lemma segmentValues_of_long {s : Text} (h : isCjk s = true) (hlong : 32 < s.length) :
    segmentValues s = pairs s := by
  rw [segmentValues, if_pos h, if_neg (by omega), if_neg (by omega)]
  rfl

lemma isCjk_iff {s : Text} : isCjk s = true ↔ s ≠ [] ∧ ∀ c ∈ s, isCjkChar c = true := by
  simp [isCjk]

lemma isCjk_of_infix {q s : Text} (h : isCjk s = true) (hne : q ≠ []) (hq : q <:+: s) :
    isCjk q = true :=
  isCjk_iff.mpr ⟨hne, fun c hc => (isCjk_iff.mp h).2 c (hq.subset hc)⟩

lemma infix_of_mem_pairs {s p : Text} (h : p ∈ pairs s) : p <:+: s := by
  obtain ⟨index, -, rfl⟩ := List.mem_map.mp h
  exact (List.take_prefix _ _).isInfix.trans (List.drop_suffix _ _).isInfix

/-- The tokens of a run are runs. -/
lemma isCjk_of_mem_segmentValues {s v : Text} (h : isCjk s = true) (hv : v ∈ segmentValues s) :
    isCjk v = true := by
  have hpairs : v ∈ pairs s → isCjk v = true := fun hmem =>
    isCjk_of_infix h (List.ne_nil_of_length_pos (by rw [length_of_mem_pairs hmem]; decide))
      (infix_of_mem_pairs hmem)
  have hpositive := List.length_pos_of_ne_nil (isCjk_iff.mp h).1
  rcases lt_trichotomy s.length 2 with hone | htwo | hmore
  · rw [segmentValues_of_one h (by omega), List.mem_singleton] at hv
    exact hv ▸ h
  · rw [segmentValues_of_short h (by omega) (by omega), List.mem_cons] at hv
    exact hv.elim (fun heq => heq ▸ h) hpairs
  · rcases le_or_gt s.length 32 with hshort | hlong
    · rw [segmentValues_of_short h (by omega) hshort, List.mem_cons] at hv
      exact hv.elim (fun heq => heq ▸ h) hpairs
    · rw [segmentValues_of_long h hlong] at hv
      exact hpairs hv

/-- A token that is not a pair is a segment. -/
lemma eq_of_mem_segmentValues {s v : Text} (h : v ∈ segmentValues s) (htwo : v.length ≠ 2) :
    v = s := by
  have hpairs : v ∉ pairs s := fun hmem => htwo (length_of_mem_pairs hmem)
  by_cases hcjk : isCjk s = true
  · have hpositive := List.length_pos_of_ne_nil (isCjk_iff.mp hcjk).1
    rcases Nat.lt_or_ge s.length 2 with hone | hmore
    · rw [segmentValues_of_one hcjk (by omega), List.mem_singleton] at h
      exact h
    · rcases le_or_gt s.length 32 with hshort | hlong
      · rw [segmentValues_of_short hcjk hmore hshort, List.mem_cons] at h
        exact h.resolve_right hpairs
      · rw [segmentValues_of_long hcjk hlong] at h
        exact absurd h hpairs
  · rw [segmentValues, if_neg hcjk] at h
    split_ifs at h
    · cases h
    · exact List.mem_singleton.mp h

lemma mem_segmentValues_self {s : Text} (hne : s ≠ []) (hstop : s ∉ stopwords)
    (hshort : s.length ≤ 32) : s ∈ segmentValues s := by
  have hpositive := List.length_pos_of_ne_nil hne
  by_cases hcjk : isCjk s = true
  · rcases Nat.lt_or_ge s.length 2 with hone | hmore
    · rw [segmentValues_of_one hcjk (by omega)]
      exact List.mem_singleton_self s
    · rw [segmentValues_of_short hcjk hmore hshort]
      exact List.mem_cons_self
  · rw [segmentValues_of_not_cjk (Bool.eq_false_iff.mpr hcjk) hstop]
    exact List.mem_singleton_self s

lemma not_mem_stopwords {s : Text} (h : isCjk s = true) : s ∉ stopwords := by
  intro hmem
  have hwords : ∀ word ∈ stopwords, isCjk word = false := by decide
  rw [hwords s hmem] at h
  cases h

lemma segmentValues_ne_nil {s : Text} (hne : s ≠ []) (hstop : s ∉ stopwords) :
    segmentValues s ≠ [] := by
  have hweight := length_segmentValues hne
  have hpositive := List.length_pos_of_ne_nil hne
  rw [← List.length_pos_iff, hweight, tokenWeight]
  split_ifs <;> omega

/-! ## Pairs among the tokens of a segment -/

section

variable {q s : Text} (hq : q.length = 2) (hrun : isCjk q = true)

include hq in
lemma ne_of_length_ne (h : s.length ≠ 2) : s ≠ q := fun heq => h (heq ▸ hq)

include hq hrun in
lemma twice_infix_segmentValues :
    [q, q] <:+: segmentValues s ↔ s = q ∨ isCjk s = true ∧ ∃ a, q = [a, a] ∧ [a, a, a] <:+: s := by
  by_cases hcjk : isCjk s = true
  · have hpositive := List.length_pos_of_ne_nil (isCjk_iff.mp hcjk).1
    have hthree : s.length ≤ 2 → ¬ ∃ a, q = [a, a] ∧ [a, a, a] <:+: s := by
      rintro hle ⟨a, -, h⟩
      have := h.length_le
      rw [List.length_cons, List.length_cons, List.length_singleton] at this
      omega
    rcases lt_trichotomy s.length 2 with hone | htwo | hmore
    · rw [segmentValues_of_one hcjk (by omega)]
      refine iff_of_false (fun h => ?_) ?_
      · have := h.length_le
        simp at this
      · rintro (h | ⟨-, h⟩)
        · exact ne_of_length_ne hq (by omega) h
        · exact hthree (by omega) h
    · have hpair : pairs s = [s] := by
        match s, htwo with
        | [c, d], _ => rfl
      rw [segmentValues_of_short hcjk (by omega) (by omega), hpair]
      constructor
      · intro h
        have heq := h.eq_of_length (by rfl)
        rw [List.cons.injEq] at heq
        exact Or.inl heq.1.symm
      · rintro (rfl | ⟨-, h⟩)
        · exact List.infix_rfl
        · exact absurd h (hthree (by omega))
    · have hne := ne_of_length_ne hq (s := s) (by omega)
      simp only [hne, hcjk, true_and, false_or]
      rcases le_or_gt s.length 32 with hshort | hlong
      · rw [segmentValues_of_short hcjk (by omega) hshort, List.infix_cons_iff,
          List.cons_prefix_cons, ← twice_infix_pairs]
        exact or_iff_right fun h => hne h.1.symm
      · rw [segmentValues_of_long hcjk hlong, twice_infix_pairs]
  · refine iff_of_false (fun h => ?_) ?_
    · have := h.length_le
      rw [segmentValues, if_neg hcjk] at this
      split_ifs at this <;> simp at this
    · rintro (rfl | ⟨h, -⟩)
      · exact hcjk hrun
      · exact hcjk h

include hq hrun in
lemma getLast_segmentValues :
    (segmentValues s).getLast? = some q ↔ isCjk s = true ∧ q <:+ s := by
  by_cases hcjk : isCjk s = true
  · have hpositive := List.length_pos_of_ne_nil (isCjk_iff.mp hcjk).1
    simp only [hcjk, true_and]
    rcases Nat.lt_or_ge s.length 2 with hone | hmore
    · rw [segmentValues_of_one hcjk (by omega)]
      refine iff_of_false (fun h => ?_) fun h => ?_
      · exact ne_of_length_ne hq (s := s) (by omega) (Option.some.inj h)
      · have := h.length_le
        omega
    · rw [← getLast_pairs hq]
      rcases le_or_gt s.length 32 with hshort | hlong
      · obtain ⟨p, ps, hps⟩ := List.exists_cons_of_ne_nil (pairs_ne_nil hmore)
        rw [segmentValues_of_short hcjk hmore hshort, hps, List.getLast?_cons_cons]
      · rw [segmentValues_of_long hcjk hlong]
  · refine iff_of_false (fun h => ?_) fun h => hcjk h.1
    rw [segmentValues, if_neg hcjk] at h
    split_ifs at h
    · cases h
    · have heq : s = q := Option.some.inj h
      exact hcjk (heq ▸ hrun)

include hq hrun in
lemma head_segmentValues :
    (segmentValues s).head? = some q ↔ s = q ∨ isCjk s = true ∧ 32 < s.length ∧ q <+: s := by
  by_cases hcjk : isCjk s = true
  · have hpositive := List.length_pos_of_ne_nil (isCjk_iff.mp hcjk).1
    rcases le_or_gt s.length 32 with hshort | hlong
    · have hhead : (segmentValues s).head? = some s := by
        rcases Nat.lt_or_ge s.length 2 with hone | hmore
        · rw [segmentValues_of_one hcjk (by omega)]
          rfl
        · rw [segmentValues_of_short hcjk hmore hshort]
          rfl
      rw [hhead, Option.some.injEq]
      exact (or_iff_left fun h => absurd h.2.1 (by omega)).symm
    · rw [segmentValues_of_long hcjk hlong, head_pairs hq]
      simp only [ne_of_length_ne hq (s := s) (by omega), hcjk, hlong, true_and, false_or]
  · refine iff_of_false (fun h => ?_) ?_
    · rw [segmentValues, if_neg hcjk] at h
      split_ifs at h
      · cases h
      · have heq : s = q := Option.some.inj h
        exact hcjk (heq ▸ hrun)
    · rintro (rfl | ⟨h, -⟩)
      · exact hcjk hrun
      · exact hcjk h

end

/-! ## Runs and words in a text -/

def tokenSegments (folding : Folding) (text : Text) : List Text :=
  (segmentsOf folding text).filter (· ∉ stopwords)

lemma values_of_tokenize {folding : Folding} {text : Text} {query : Bool}
    {tokens : List LexicalToken} (h : tokenize folding text query = .ok tokens) :
    tokens.map (·.value) = (tokenSegments folding text).flatMap segmentValues := by
  have hvalues : tokens.map (·.value) = (segmentsOf folding text).flatMap segmentValues := by
    simp only [tokenize, check_bind_ok] at h
    obtain ⟨-, -, -, -, htokens⟩ := h
    have hrelated := forall₂_mapM (fun _ _ => lexicalToken_ok) htokens
    rw [← map_eq_of_forall₂ hrelated fun _ _ hxy => hxy.1.symm, List.zipIdx_map_fst]
    rfl
  rw [hvalues, tokenSegments]
  induction segmentsOf folding text with
  | nil => rfl
  | cons s segments ih =>
      by_cases hstop : s ∈ stopwords
      · have hnone : segmentValues s = [] := by
          have hcjk : ¬ isCjk s = true := fun h => not_mem_stopwords h hstop
          rw [segmentValues, if_neg hcjk, if_pos hstop]
        rw [List.flatMap_cons, hnone, List.nil_append, ih,
          List.filter_cons_of_neg (by simpa using hstop)]
      · rw [List.flatMap_cons, ih, List.filter_cons_of_pos (by simpa using hstop),
          List.flatMap_cons]

/-- What `tokenSegments` gives: words that are no stopwords, and runs. -/
def Segmented (segments : List Text) : Prop :=
  ∀ s ∈ segments, s ≠ [] ∧ s ∉ stopwords ∧ (isCjk s = true ∨ ∀ c ∈ s, isCjkChar c = false)

lemma Cuts.run_or_word {t : Text} {segments : List Text} (h : Cuts t segments) :
    ∀ s ∈ segments, isCjk s = true ∨ ∀ c ∈ s, isCjkChar c = false := by
  induction h with
  | nil => simp
  | skip _ _ ih => exact ih
  | run hne hrun _ _ ih => exact List.forall_mem_cons.mpr ⟨Or.inl (isCjk_iff.mpr ⟨hne, hrun⟩), ih⟩
  | word _ hword _ ih => exact List.forall_mem_cons.mpr ⟨Or.inr hword, ih⟩

lemma segmented_tokenSegments (folding : Folding) (text : Text) :
    Segmented (tokenSegments folding text) := by
  intro s hs
  obtain ⟨hmem, hstop⟩ := List.mem_filter.mp hs
  have hcuts := cuts_segmentsOf folding text
  exact ⟨hcuts.ne_nil s hmem, by simpa using hstop, hcuts.run_or_word s hmem⟩

/-- **A run stands in one of the runs of a text.** -/
lemma Cuts.exists_run {t q : Text} {segments : List Text} (h : Cuts t segments)
    (hq : isCjk q = true) (hinside : q <:+: t) : ∃ r ∈ segments, q <:+: r := by
  obtain ⟨hne, hrun⟩ := isCjk_iff.mp hq
  have hother : ∀ c, isCjkChar c = false → c ∉ q := fun c hc hmem => by
    rw [hrun c hmem] at hc
    cases hc
  induction h with
  | nil => exact absurd (List.infix_nil.mp hinside) hne
  | @skip c cs segments hc _ ih =>
      exact ih (infix_of_infix_append_left hne (a := [c]) (by simpa using hother c hc) hinside)
  | run _ _ hrest _ ih =>
      rcases infix_or_infix_of_append hrun (fun c hc => by simp [hrest c hc]) hinside with h | h
      · exact ⟨_, List.mem_cons_self, h⟩
      · obtain ⟨r, hr, hqr⟩ := ih h
        exact ⟨r, List.mem_cons_of_mem _ hr, hqr⟩
  | word _ hword _ ih =>
      obtain ⟨r, hr, hqr⟩ := ih
        (infix_of_infix_append_left hne (fun c hc => hother c (hword c hc)) hinside)
      exact ⟨r, List.mem_cons_of_mem _ hr, hqr⟩

lemma Cuts.eq_nil {segments : List Text} (h : Cuts [] segments) : segments = [] := by
  generalize ht : ([] : Text) = t at h
  cases h with
  | nil => rfl
  | skip _ _ => cases ht
  | run hne _ _ _ => exact absurd (List.append_eq_nil_iff.mp ht.symm).1 hne
  | word hne _ _ => exact absurd (List.append_eq_nil_iff.mp ht.symm).1 hne

/-- A run is cut into itself. -/
lemma Cuts.eq_singleton {q : Text} {segments : List Text} (h : Cuts q segments)
    (hq : isCjk q = true) : segments = [q] := by
  obtain ⟨hne, hrun⟩ := isCjk_iff.mp hq
  cases h with
  | nil => exact absurd rfl hne
  | skip hc _ =>
      rw [hrun _ List.mem_cons_self] at hc
      cases hc
  | @run t rest segments _ _ hrest hcuts =>
      cases rest with
      | nil =>
          rw [hcuts.eq_nil, List.append_nil]
      | cons c rest =>
          have := hrest c rfl
          rw [hrun c (by simp)] at this
          cases this
  | @word t rest segments hne' hword _ =>
      obtain ⟨c, t, rfl⟩ := List.exists_cons_of_ne_nil hne'
      have := hword c List.mem_cons_self
      rw [hrun c (by simp)] at this
      cases this

variable {q : Text} {segments : List Text}

lemma run_of_subset (h : Segmented segments) (hq : isCjk q = true) {s : Text} (hs : s ∈ segments)
    {c : Char} (hc : c ∈ q) (hmem : c ∈ s) : isCjk s = true := by
  refine (h s hs).2.2.resolve_right fun hword => ?_
  have hnot := hword c hmem
  rw [(isCjk_iff.mp hq).2 c hc] at hnot
  cases hnot

/-- **Where the tokens of a run stand**: it is one of the runs, or, for two characters, a run has one
character three times, or a run that ends with them is followed by a long one that begins with
them. -/
lemma infix_values_run_iff (h : Segmented segments) (hq : isCjk q = true)
    (hshort : q.length ≤ 32) :
    segmentValues q <:+: segments.flatMap segmentValues ↔ q ∈ segments ∨ q.length = 2 ∧
      ((∃ a, q = [a, a] ∧ ∃ s ∈ segments, [a, a, a] <:+: s) ∨
        ∃ s s', [s, s'] <:+: segments ∧ q <:+ s ∧ q <+: s' ∧ 32 < s'.length) := by
  have hne := (isCjk_iff.mp hq).1
  have hpositive := List.length_pos_of_ne_nil hne
  have hself := mem_segmentValues_self hne (not_mem_stopwords hq) hshort
  by_cases htwo : q.length = 2
  · have hpair : pairs q = [q] := by
      match q, htwo with
      | [c, d], _ => rfl
    have hblocks : ∀ s ∈ segments, segmentValues s ≠ [] := fun s hs =>
      segmentValues_ne_nil (h s hs).1 (h s hs).2.1
    rw [segmentValues_of_short hq htwo.ge hshort, hpair, pair_infix_flatMap hblocks]
    simp only [twice_infix_segmentValues htwo hq, getLast_segmentValues htwo hq,
      head_segmentValues htwo hq, htwo, true_and]
    constructor
    · rintro (⟨s, hs, rfl | ⟨-, a, rfl, hthree⟩⟩ | ⟨s, s', hborder, ⟨-, hend⟩, rfl | ⟨-, hlong, hstart⟩⟩)
      · exact Or.inl hs
      · exact Or.inr (Or.inl ⟨a, rfl, s, hs, hthree⟩)
      · exact Or.inl (hborder.subset (by simp))
      · exact Or.inr (Or.inr ⟨s, s', hborder, hend, hstart, hlong⟩)
    · rintro (hmem | ⟨a, rfl, s, hs, hthree⟩ | ⟨s, s', hborder, hend, hstart, hlong⟩)
      · exact Or.inl ⟨q, hmem, Or.inl rfl⟩
      · have hrun := run_of_subset h hq hs (c := a) (by simp) (hthree.subset (by simp))
        exact Or.inl ⟨s, hs, Or.inr ⟨hrun, a, rfl, hthree⟩⟩
      · obtain ⟨c, t, rfl⟩ := List.exists_cons_of_ne_nil hne
        have hrun := run_of_subset h hq (hborder.subset (by simp)) (c := c) (by simp)
          (hend.subset (by simp))
        have hrun' := run_of_subset h hq (hborder.subset (by simp)) (c := c) (by simp)
          (hstart.subset (by simp))
        exact Or.inr ⟨s, s', hborder, ⟨hrun, hend⟩, Or.inr ⟨hrun', hlong, hstart⟩⟩
  · simp only [htwo, false_and, or_false]
    constructor
    · intro hinside
      obtain ⟨s, hs, hmem⟩ := List.mem_flatMap.mp (hinside.subset hself)
      rwa [eq_of_mem_segmentValues hmem htwo]
    · intro hmem
      obtain ⟨before, after, rfl⟩ := List.append_of_mem hmem
      rw [List.flatMap_append, List.flatMap_cons, ← List.append_assoc]
      exact ⟨_, _, rfl⟩

/-- A long run stands among the tokens of any run that it is a part of. -/
lemma infix_values_long {r : Text} (hmem : r ∈ segments) (hr : isCjk r = true) (hq : isCjk q = true)
    (hinside : q <:+: r) (hlong : 32 < q.length) :
    segmentValues q <:+: segments.flatMap segmentValues := by
  have hle := hinside.length_le
  obtain ⟨before, after, rfl⟩ := List.append_of_mem hmem
  have hpairs := pairs_infix hinside
  rw [segmentValues_of_long hq hlong, List.flatMap_append, List.flatMap_cons, ← List.append_assoc,
    segmentValues_of_long hr (by omega)]
  exact hpairs.trans ⟨_, _, rfl⟩

lemma prefix_values_words_iff {words : List Text} (h : Segmented segments)
    (hwords : ∀ word ∈ words, isCjk word = false) :
    words <+: segments.flatMap segmentValues ↔ words <+: segments := by
  induction segments generalizing words with
  | nil => rfl
  | cons s segments ih =>
      obtain ⟨hs, hsegments⟩ := List.forall_mem_cons.mp h
      cases words with
      | nil => exact iff_of_true List.nil_prefix List.nil_prefix
      | cons word words =>
          rw [List.forall_mem_cons] at hwords
          rw [List.flatMap_cons]
          by_cases hcjk : isCjk s = true
          · obtain ⟨v, vs, hv⟩ := List.exists_cons_of_ne_nil (segmentValues_ne_nil hs.1 hs.2.1)
            have hrun : isCjk v = true := isCjk_of_mem_segmentValues hcjk (by simp [hv])
            rw [hv, List.cons_append, List.cons_prefix_cons, List.cons_prefix_cons]
            refine iff_of_false (fun h => ?_) fun h => ?_
            · exact absurd (h.1 ▸ hrun) (by simp [hwords.1])
            · exact absurd (h.1 ▸ hcjk) (by simp [hwords.1])
          · rw [segmentValues_of_not_cjk (Bool.eq_false_iff.mpr hcjk) hs.2.1, List.singleton_append,
              List.cons_prefix_cons, List.cons_prefix_cons, ih hsegments hwords.2]

/-- **Where words stand**: where they are segments one after the other. -/
lemma infix_values_words_iff {words : List Text} (h : Segmented segments) (hne : words ≠ [])
    (hwords : ∀ word ∈ words, isCjk word = false) :
    words <:+: segments.flatMap segmentValues ↔ words <:+: segments := by
  induction segments with
  | nil => rfl
  | cons s segments ih =>
      obtain ⟨hs, hsegments⟩ := List.forall_mem_cons.mp h
      have hstarts := prefix_values_words_iff h hwords
      rw [List.infix_cons_iff, ← hstarts, ← ih hsegments]
      by_cases hcjk : isCjk s = true
      · rw [List.flatMap_cons]
        constructor
        · intro hinside
          refine Or.inr (infix_of_infix_append_left hne (fun v hv hmem => ?_) hinside)
          have hrun := isCjk_of_mem_segmentValues hcjk hv
          rw [hwords v hmem] at hrun
          cases hrun
        · rintro (hstart | hinside)
          · exact hstart.isInfix
          · exact hinside.trans (List.suffix_append _ _).isInfix
      · rw [List.flatMap_cons, segmentValues_of_not_cjk (Bool.eq_false_iff.mpr hcjk) hs.2.1,
          List.singleton_append, List.infix_cons_iff]

/-! ## The mark -/

lemma containsSequence_iff {values query : List Text} :
    containsSequence values query = true ↔ query ≠ [] ∧ query <:+: values := by
  unfold containsSequence
  by_cases hnil : query = []
  · simp [hnil]
  · by_cases hlong : values.length < query.length
    · rw [if_pos (Or.inr hlong)]
      exact iff_of_false Bool.false_ne_true fun h => absurd h.2.length_le (by omega)
    · rw [if_neg (not_or.mpr ⟨hnil, hlong⟩)]
      simp only [List.any_eq_true, List.mem_range, decide_eq_true_eq, ne_eq, hnil,
        not_false_eq_true, true_and]
      constructor
      · rintro ⟨index, -, heq⟩
        rw [← heq]
        exact (List.take_prefix _ _).isInfix.trans (List.drop_suffix _ _).isInfix
      · rintro ⟨before, after, rfl⟩
        have hpositive := List.length_pos_of_ne_nil hnil
        refine ⟨before.length, by simp only [List.length_append]; omega, ?_⟩
        rw [List.append_assoc, List.drop_left, List.take_left]

/-- A query of whole words: blanks are all that stands between its segments, and no segment is a
run. -/
structure WholeWords (folding : Folding) (value : Text) : Prop where
  words : ∀ word ∈ segmentsOf folding value, isCjk word = false
  joined : folding.normalize value = [' '].intercalate (segmentsOf folding value)

/-- A phrase stands in a text at word boundaries. -/
def StandsIn (phrase text : Text) : Prop :=
  ∃ before after, text = before ++ phrase ++ after ∧
    (∀ c ∈ before.getLast?, isLatinOrDigit c = false) ∧ ∀ c ∈ after.head?, isLatinOrDigit c = false

/-- **The normalized text contains the normalized query**: a run anywhere, words at word boundaries. -/
def Contained (folding : Folding) (value text : Text) : Prop :=
  if isCjk (folding.normalize value) then folding.normalize value <:+: folding.normalize text
  else StandsIn (folding.normalize value) (folding.normalize text)

/-- **The query can be recognized** in a text that contains it.

A run can if it is longer than 32 characters or one of the runs of the text; one of two characters
also if it is one character twice and a run has it three times, or if one run ends with it and the
next one is longer than 32 characters and begins with it.  Words can if they are segments of the
text, one after the other when stopwords are left out. -/
def Recognizable (folding : Folding) (value text : Text) : Prop :=
  if isCjk (folding.normalize value) then
    32 < (folding.normalize value).length ∨ folding.normalize value ∈ tokenSegments folding text ∨
      (folding.normalize value).length = 2 ∧
        ((∃ a, folding.normalize value = [a, a] ∧
            ∃ s ∈ tokenSegments folding text, [a, a, a] <:+: s) ∨
          ∃ s s', [s, s'] <:+: tokenSegments folding text ∧ folding.normalize value <:+ s ∧
            folding.normalize value <+: s' ∧ 32 < s'.length)
  else tokenSegments folding value <:+: tokenSegments folding text

/-- **A hit is marked** when its text contains the query, and only if its tokens do. -/
structure PhraseLaw (folding : Folding) (value : Text) (query : TokenizedQuery) (hit : LexicalHit) :
    Prop where
  marked : Contained folding value hit.text → hit.phraseMatch = true
  contiguous : hit.phraseMatch = true → ∃ tokens, tokenize folding hit.text false = .ok tokens ∧
    query.tokens.map (·.value) <:+: tokens.map (·.value)

lemma not_space_of_cjk {c : Char} (h : isCjkChar c = true) : isSpace c = false := by
  simp only [isCjkChar, Bool.and_eq_true, decide_eq_true_eq] at h
  unfold isSpace
  simp only [Bool.or_eq_false_iff, Bool.and_eq_false_iff, decide_eq_false_iff_not,
    beq_eq_false_iff_ne]
  omega

lemma values_of_tokenizeQuery {folding : Folding} {value : Text} {query : TokenizedQuery}
    (h : tokenizeQuery folding value = .ok query) :
    query.tokens.map (·.value) = (tokenSegments folding value).flatMap segmentValues ∧
      query.tokens.map (·.value) ≠ [] := by
  obtain ⟨tokens, htokens, h⟩ := bind_ok.mp h
  split_ifs at h
  cases h
  have hpositive : 0 < tokens.length := by omega
  refine ⟨values_of_tokenize htokens, fun hnil => ?_⟩
  have hnone : tokens = [] := List.map_eq_nil_iff.mp hnil
  rw [hnone] at hpositive
  cases hpositive

variable {folding : Folding} {value text : Text}

lemma tokenSegments_run (hrun : isCjk (folding.normalize value) = true) :
    tokenSegments folding value = [folding.normalize value] := by
  have hchars := (isCjk_iff.mp hrun).2
  have hstrip : strip (folding.casefold (folding.nfkc value)) = folding.normalize value :=
    strip_of_collapse (isCjk_iff.mp hrun).1 (fun c hc => not_space_of_cjk (hchars c hc)) rfl
  have hcuts := cuts_segmentsOf folding value
  rw [hstrip] at hcuts
  rw [tokenSegments, hcuts.eq_singleton hrun,
    List.filter_cons_of_pos (by simpa using not_mem_stopwords hrun), List.filter_nil]

/-- **When the tokens of a query are among those of a text that contains it.** -/
lemma infix_tokens_iff (hkind : isCjk (folding.normalize value) = true ∨ WholeWords folding value)
    (hne : (tokenSegments folding value).flatMap segmentValues ≠ []) :
    (Contained folding value text → (tokenSegments folding value).flatMap segmentValues <:+:
        (tokenSegments folding text).flatMap segmentValues) ↔
      (Contained folding value text → Recognizable folding value text) := by
  have hsegmented := segmented_tokenSegments folding text
  refine forall_congr' fun hcontained => ?_
  unfold Recognizable
  by_cases hrun : isCjk (folding.normalize value) = true
  · rw [if_pos hrun, tokenSegments_run hrun, List.flatMap_singleton]
    rw [Contained, if_pos hrun] at hcontained
    rcases le_or_gt (folding.normalize value).length 32 with hshort | hlong
    · rw [infix_values_run_iff hsegmented hrun hshort]
      exact (or_iff_right (by omega)).symm
    · obtain ⟨hnonempty, hchars⟩ := isCjk_iff.mp hrun
      have hstrip := infix_strip_of_infix_collapse
        (fun c hc => not_space_of_cjk (hchars c hc)) hnonempty hcontained
      obtain ⟨r, hr, hinside⟩ := (cuts_segmentsOf folding text).exists_run hrun hstrip
      obtain ⟨c, hc⟩ := List.exists_mem_of_ne_nil _ hnonempty
      have hrun' : isCjk r = true := by
        refine ((cuts_segmentsOf folding text).run_or_word r hr).resolve_right fun hword => ?_
        have hnot := hword c (hinside.subset hc)
        rw [hchars c hc] at hnot
        cases hnot
      have hmem : r ∈ tokenSegments folding text :=
        List.mem_filter.mpr ⟨hr, by simpa using not_mem_stopwords hrun'⟩
      exact iff_of_true (infix_values_long hmem hrun' hrun hinside hlong) (Or.inl hlong)
  · rw [if_neg hrun]
    have hwords : ∀ word ∈ tokenSegments folding value, isCjk word = false := fun word hword =>
      (hkind.resolve_left hrun).words word (List.mem_of_mem_filter hword)
    have hsame : (tokenSegments folding value).flatMap segmentValues =
        tokenSegments folding value := by
      have hsingle : ∀ word ∈ tokenSegments folding value, segmentValues word = [word] :=
        fun word hword => segmentValues_of_not_cjk (hwords word hword)
          (segmented_tokenSegments folding value word hword).2.1
      rw [List.flatMap_congr hsingle, List.flatMap_singleton']
    rw [hsame] at hne ⊢
    exact infix_values_words_iff hsegmented hne hwords

/-- What a chunk is marked by. -/
lemma phraseMatch_of_features {library : Library} {index : LexicalIndexResult} {query : List Text}
    {chunkIds : List Uuid} {average : Decimal} {chunkId : Uuid} {text : Text}
    {sectionTitle : Option Text} {features : Decimal × Bool × Nat}
    (h : featuresOf library index query chunkIds average chunkId text sectionTitle = .ok features) :
    ∃ tokens, tokenize library.folding text false = .ok tokens ∧
      features.2.1 = containsSequence (tokens.map (·.value)) query := by
  obtain ⟨tokens, htokens, h⟩ := bind_ok.mp h
  obtain ⟨scores, -, h⟩ := bind_ok.mp h
  obtain ⟨total, -, h⟩ := bind_ok.mp h
  obtain ⟨score, -, h⟩ := bind_ok.mp h
  refine ⟨tokens, htokens, ?_⟩
  dsimp only at h
  split at h
  · obtain ⟨headingTokens, -, h⟩ := bind_ok.mp h
    cases h
    rfl
  · split_ifs at h
    all_goals
      obtain ⟨headingTokens, -, h⟩ := bind_ok.mp h
      cases h
      rfl

/-- **The mark of a hit is right exactly when** a query that its text contains can be recognized. -/
theorem phraseLaw_iff {library : Library} {chunks : List IndexableChunk}
    {index : LexicalIndexResult} {citationIds : Uuid → Option Uuid} {request : LexicalSearchRequest}
    {hits : List LexicalHit} {hit : LexicalHit} {value : Text}
    (hquery : tokenizeQuery library.folding value = .ok request.tokenizedQuery)
    (hkind : isCjk (library.folding.normalize value) = true ∨ WholeWords library.folding value)
    (hsearch : search library chunks index citationIds request = .ok hits) (hmem : hit ∈ hits) :
    PhraseLaw library.folding value request.tokenizedQuery hit ↔
      (Contained library.folding value hit.text →
        Recognizable library.folding value hit.text) := by
  obtain ⟨drafts, draft, hdrafted, hdraft, hshown⟩ := exists_draft_of_hit hsearch hmem
  obtain ⟨average, hfeatures⟩ := hdrafted.features
  obtain ⟨features, hfeatures, hmade⟩ := map_ok.mp (hfeatures draft hdraft)
  obtain ⟨tokens, htokens, hmatch⟩ := phraseMatch_of_features hfeatures
  have hmark : hit.phraseMatch = containsSequence (tokens.map (·.value))
      (request.tokenizedQuery.tokens.map (·.value)) := by
    rw [hshown.phraseMatch, ← hmade]
    exact hmatch
  rw [← hshown.text] at htokens
  obtain ⟨hvalues, hne⟩ := values_of_tokenizeQuery hquery
  have hmarked : hit.phraseMatch = true ↔ request.tokenizedQuery.tokens.map (·.value) <:+:
      tokens.map (·.value) := by
    rw [hmark, containsSequence_iff]
    exact and_iff_right hne
  have hlaw : PhraseLaw library.folding value request.tokenizedQuery hit ↔
      (Contained library.folding value hit.text → hit.phraseMatch = true) :=
    ⟨fun h => h.marked, fun h => ⟨h, fun hmatch => ⟨tokens, htokens, hmarked.mp hmatch⟩⟩⟩
  rw [hlaw, hmarked, hvalues, values_of_tokenize htokens]
  exact infix_tokens_iff hkind (hvalues ▸ hne)

/-- A word that is the text of the hit. -/
theorem phraseLaw_oneWord : ∃ hit, search sampleLibrary [matchingChunk riskFilters] onePosting
      (fun _ => some 9) (searchFor riskFilters) = .ok [hit] ∧
    (PhraseLaw sampleLibrary.folding ['x'] oneWord hit ↔
      (Contained sampleLibrary.folding ['x'] hit.text →
        Recognizable sampleLibrary.folding ['x'] hit.text)) := by
  obtain ⟨hit, hsearch, -⟩ := exists_hit_matchingChunk riskFilters
  have hquery : tokenizeQuery sampleLibrary.folding ['x'] = .ok oneWord := by rfl
  have hwords : WholeWords sampleLibrary.folding ['x'] :=
    ⟨by decide +kernel, by decide +kernel⟩
  exact ⟨hit, hsearch, phraseLaw_iff hquery (Or.inr hwords) hsearch (List.mem_singleton_self hit)⟩

def riskQuery : TokenizedQuery where
  originalQuery := "风险".toList
  normalizedQuery := "风险".toList
  tokens := [⟨"风险".toList, 0, by decide, firstPosition_le⟩, ⟨"风险".toList, 1, by decide, by decide⟩]
  original_bounds := by decide
  normalized_bounds := by decide
  tokens_bounds := by decide

def riskSearch (index : LexicalIndexResult) : LexicalSearchRequest where
  indexVersionId := index.indexVersionId.getD 0
  tokenizedQuery := riskQuery
  filters := {
    securityId := 1
    snapshotId := none
    researchAsOfTime := some sampleTime
    documentTypes := []
    languages := []
    trustLevels := []
    sectionPaths := []
    strictUnknownPublication := true
    one_scope := asOf_scope }
  maxResults := 1
  results_bounds := oneResult_bounds

def financialRisk : List IndexableChunk := [parsedChunk 1 "财务风险".toList (by decide)]

/-- **Risk is not recognized in financial risk**, which it is a part of. -/
theorem financialRisk_not_phraseLaw :
    ∃ index service hits hit,
      (LexicalIndexService.new financialRisk).build sampleLibrary asOfRequest =
        .ok (index, service) ∧
      tokenizeQuery sampleLibrary.folding "风险".toList = .ok riskQuery ∧
      search sampleLibrary financialRisk index (fun _ => some 9) (riskSearch index) = .ok hits ∧
      hit ∈ hits ∧ ¬ PhraseLaw sampleLibrary.folding "风险".toList riskQuery hit := by
  have hrun : ((LexicalIndexService.new financialRisk).build sampleLibrary asOfRequest
      |>.bind fun built => (searchAmong sampleLibrary built.1 (riskSearch built.1)
        (searchable financialRisk built.1 (fun _ => some 9) (riskSearch built.1))).map fun hits =>
          (built.1.indexVersionId.isSome, hits.map fun hit => (hit.text, hit.phraseMatch))) =
      .ok (true, [("财务风险".toList, false)]) := by decide +kernel
  obtain ⟨⟨index, service⟩, hbuild, hrun⟩ := bind_ok.mp hrun
  obtain ⟨hits, hhits, hshown⟩ := map_ok.mp hrun
  rw [Prod.mk.injEq] at hshown
  obtain ⟨hversion, hshown⟩ := hshown
  have hsearch : search sampleLibrary financialRisk index (fun _ => some 9) (riskSearch index) =
      .ok hits := by
    obtain ⟨version, hversion⟩ := Option.isSome_iff_exists.mp hversion
    rw [search, if_neg (not_not_intro (by rw [riskSearch, hversion]; rfl))]
    exact hhits
  obtain ⟨hit, rest, rfl⟩ : ∃ hit rest, hits = hit :: rest := by
    cases hits with
    | nil => cases hshown
    | cons hit rest => exact ⟨hit, rest, rfl⟩
  rw [List.map_cons, List.cons.injEq, Prod.mk.injEq] at hshown
  obtain ⟨⟨htext, hmatch⟩, -⟩ := hshown
  refine ⟨index, service, hit :: rest, hit, hbuild, by rfl, hsearch, List.mem_cons_self, fun hlaw => ?_⟩
  have hcontained : Contained sampleLibrary.folding "风险".toList hit.text := by
    rw [htext, Contained, if_pos (by decide +kernel)]
    exact ⟨"财务".toList, [], by decide +kernel⟩
  rw [hlaw.marked hcontained] at hmatch
  cases hmatch

end StockResearch.Retrieval
