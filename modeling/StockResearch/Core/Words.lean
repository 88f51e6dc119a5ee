import StockResearch.Core.Unicode
import Mathlib.Data.List.Infix
import Mathlib.Data.List.TakeWhile

/-!
# Parts of texts

Where a text without blanks stands in another one, whether blanks have been collapsed or not, and
where two elements stand next to each other in a list that is put together from blocks.

* `infix_strip_of_infix_collapse`: collapsing blanks makes no new place for such a text.
* `strip_of_collapse`: a text of one word is that word between blanks.
* `infix_strip`: what neither starts nor ends with a blank survives stripping.
* `pair_infix_flatMap`: two neighbours are in one block or at the border of two.
-/

namespace PyText

variable {α β : Type}

/-! ## Infixes -/

/-- A text without a separator stands on one side of it. -/
lemma infix_or_infix_of_append_cons {q a b : List α} {c : α} (hq : c ∉ q)
    (h : q <:+: a ++ c :: b) : q <:+: a ∨ q <:+: b := by
  obtain ⟨s, t, h⟩ := h
  rw [List.append_assoc] at h
  rcases List.append_eq_append_iff.mp h with ⟨u, rfl, hu⟩ | ⟨u, rfl, hu⟩
  · rcases List.append_eq_append_iff.mp hu with ⟨v, rfl, -⟩ | ⟨v, hv, hv'⟩
    · left
      exact ⟨s, v, by rw [List.append_assoc]⟩
    · cases v with
      | nil =>
          left
          exact ⟨s, [], by rw [hv, List.append_nil, List.append_nil]⟩
      | cons d v =>
          rw [List.cons_append, List.cons.injEq] at hv'
          exact absurd (by rw [hv, hv'.1]; simp) hq
  · cases u with
    | nil =>
        cases q with
        | nil => exact Or.inl (List.nil_infix)
        | cons d q =>
            rw [List.nil_append, List.cons_append, List.cons.injEq] at hu
            exact absurd (by rw [hu.1]; simp) hq
    | cons d u =>
        rw [List.cons_append, List.cons.injEq] at hu
        right
        exact ⟨u, t, by rw [hu.2, List.append_assoc]⟩

/-- What shares nothing with a beginning stands behind it. -/
lemma infix_of_infix_append_left {q a b : List α} (hne : q ≠ []) (hq : ∀ x ∈ a, x ∉ q)
    (h : q <:+: a ++ b) : q <:+: b := by
  induction a with
  | nil => exact h
  | cons x a ih =>
      rw [List.forall_mem_cons] at hq
      rw [List.cons_append, List.infix_cons_iff] at h
      rcases h with hstarts | hinside
      · cases q with
        | nil => exact absurd rfl hne
        | cons y q =>
            rw [List.cons_prefix_cons] at hstarts
            exact absurd (by rw [hstarts.1]; simp) hq.1
      · exact ih hq.2 hinside

/-- What shares nothing with an end stands before it. -/
lemma infix_of_infix_append_right {q a b : List α} (hne : q ≠ []) (hq : ∀ x ∈ b, x ∉ q)
    (h : q <:+: a ++ b) : q <:+: a := by
  rw [← List.reverse_infix, List.reverse_append] at h
  rw [← List.reverse_infix]
  refine infix_of_infix_append_left (by simpa using hne) (fun x hx => ?_) h
  rw [List.mem_reverse] at hx ⊢
  exact hq x hx

/-- What is in a run of elements and what is not stand on one side of the end of the run. -/
lemma infix_or_infix_of_append {P : α → Prop} {q a b : List α} (hq : ∀ x ∈ q, P x)
    (hb : ∀ x ∈ b.head?, ¬ P x) (h : q <:+: a ++ b) : q <:+: a ∨ q <:+: b := by
  cases b with
  | nil => exact Or.inl (by rwa [List.append_nil] at h)
  | cons c b =>
      have hc : c ∉ q := fun hmem => hb c rfl (hq c hmem)
      rcases infix_or_infix_of_append_cons hc h with h | h
      · exact Or.inl h
      · exact Or.inr (h.trans (List.suffix_cons c b).isInfix)

/-! ## Neighbours in blocks -/

lemma pair_infix_append {x y : α} {a b : List α} :
    [x, y] <:+: a ++ b ↔ [x, y] <:+: a ∨ [x, y] <:+: b ∨
      (a.getLast? = some x ∧ b.head? = some y) := by
  induction a with
  | nil => simp
  | cons z a ih =>
      rw [List.cons_append, List.infix_cons_iff, List.infix_cons_iff, ih, List.cons_prefix_cons,
        List.cons_prefix_cons]
      cases a with
      | nil =>
          cases b with
          | nil => simp
          | cons w b =>
              have hborder : [z].getLast? = some x ∧ (w :: b).head? = some y ↔ x = z ∧ y = w := by
                simp [eq_comm]
              rw [hborder]
              simp [List.cons_prefix_cons]
              tauto
      | cons w a =>
          rw [List.getLast?_cons_cons, List.cons_append, List.cons_prefix_cons,
            List.cons_prefix_cons]
          simp only [List.nil_prefix, and_true]
          tauto

/-- **Two neighbours are in one block or at the border of two.** -/
lemma pair_infix_flatMap {f : α → List β} {x y : β} {blocks : List α}
    (hne : ∀ s ∈ blocks, f s ≠ []) :
    [x, y] <:+: blocks.flatMap f ↔ (∃ s ∈ blocks, [x, y] <:+: f s) ∨
      ∃ s s', [s, s'] <:+: blocks ∧ (f s).getLast? = some x ∧ (f s').head? = some y := by
  induction blocks with
  | nil => simp
  | cons s blocks ih =>
      rw [List.forall_mem_cons] at hne
      rw [List.flatMap_cons, pair_infix_append, ih hne.2]
      have hhead : (blocks.flatMap f).head? = some y ↔
          ∃ s', [s'] <+: blocks ∧ (f s').head? = some y := by
        cases blocks with
        | nil => simp
        | cons s' blocks =>
            obtain ⟨z, zs, hz⟩ := List.exists_cons_of_ne_nil (hne.2 s' List.mem_cons_self)
            simp [hz]
      rw [hhead]
      simp only [List.mem_cons, exists_eq_or_imp, List.infix_cons_iff, List.cons_prefix_cons]
      constructor
      · rintro (h | (h | ⟨u, u', h⟩) | ⟨hlast, s', hs', hfirst⟩)
        · exact Or.inl (Or.inl h)
        · exact Or.inl (Or.inr h)
        · exact Or.inr ⟨u, u', Or.inr h.1, h.2⟩
        · exact Or.inr ⟨s, s', Or.inl ⟨rfl, hs'⟩, hlast, hfirst⟩
      · rintro ((h | h) | ⟨u, u', ⟨rfl, hs'⟩ | h, hlast, hfirst⟩)
        · exact Or.inl h
        · exact Or.inr (Or.inl (Or.inl h))
        · exact Or.inr (Or.inr ⟨hlast, u', hs', hfirst⟩)
        · exact Or.inr (Or.inl (Or.inr ⟨u, u', h, hlast, hfirst⟩))

/-! ## Blanks -/

lemma split_cons_space {c : Char} (hc : isSpace c = true) (t : Text) : split (c :: t) = split t := by
  rw [split, split, List.splitOnP_cons_eq_if_modifyHead, if_pos hc]
  rfl

lemma split_word {w rest : Text} (hne : w ≠ []) (hw : ∀ c ∈ w, isSpace c = false)
    (hrest : ∀ c ∈ rest.head?, isSpace c = true) : split (w ++ rest) = w :: split rest := by
  cases rest with
  | nil =>
      rw [List.append_nil, split, List.splitOnP_eq_singleton hw]
      simp [split, hne]
  | cons c rest =>
      have hc := hrest c rfl
      rw [split_cons_space hc, split, split, List.splitOnP_append_cons_of_forall_mem hw c hc,
        List.filter_cons_of_pos (by simp [hne])]

/-- A text is blanks, then a word, then what is left after it. -/
lemma split_induction {P : Text → Prop} (nil : P [])
    (space : ∀ c t, isSpace c = true → P t → P (c :: t))
    (word : ∀ w rest, w ≠ [] → (∀ c ∈ w, isSpace c = false) →
      (∀ c ∈ rest.head?, isSpace c = true) → P rest → P (w ++ rest)) (t : Text) : P t := by
  induction hn : t.length using Nat.strong_induction_on generalizing t with
  | _ n ih =>
      cases t with
      | nil => exact nil
      | cons c cs =>
          rw [List.length_cons] at hn
          by_cases hc : isSpace c = true
          · exact space c cs hc (ih cs.length (by omega) cs rfl)
          · rw [← List.takeWhile_append_dropWhile (p := fun c => !isSpace c) (l := c :: cs)]
            refine word _ _ ?_ ?_ ?_ ?_
            · simp [hc]
            · intro d hd
              simpa using List.mem_takeWhile_imp hd
            · intro d hd
              have hnot := List.head?_dropWhile_not (fun c => !isSpace c) (c :: cs)
              rw [Option.mem_def.mp hd] at hnot
              simpa using hnot
            · refine ih _ ?_ _ rfl
              have := List.length_dropWhile_le (fun c => !isSpace c) cs
              rw [List.dropWhile_cons_of_pos (by simp [hc])]
              omega

lemma infix_of_mem_split {t w : Text} : w ∈ split t → w <:+: t := by
  induction t using split_induction with
  | nil => simp [split]
  | space c t hc ih =>
      intro h
      rw [split_cons_space hc] at h
      exact (ih h).trans (List.suffix_cons c t).isInfix
  | word v rest hne hv hrest ih =>
      intro h
      rw [split_word hne hv hrest, List.mem_cons] at h
      rcases h with rfl | h
      · exact (List.prefix_append _ _).isInfix
      · exact (ih h).trans (List.suffix_append _ _).isInfix

lemma infix_intercalate {q : Text} (hq : ∀ c ∈ q, isSpace c = false) (hne : q ≠ [])
    {words : List Text} (h : q <:+: [' '].intercalate words) : ∃ w ∈ words, q <:+: w := by
  induction words with
  | nil => exact absurd (List.infix_nil.mp h) hne
  | cons w words ih =>
      cases words with
      | nil => exact ⟨w, List.mem_singleton_self w, by simpa [List.intercalate] using h⟩
      | cons v words =>
          have hcons : [' '].intercalate (w :: v :: words) =
              w ++ ' ' :: [' '].intercalate (v :: words) := by
            simp [List.intercalate]
          rw [hcons] at h
          have hspace : ' ' ∉ q := fun hmem => absurd (hq ' ' hmem) (by decide)
          rcases infix_or_infix_of_append_cons hspace h with h | h
          · exact ⟨w, List.mem_cons_self, h⟩
          · obtain ⟨u, hu, hinside⟩ := ih h
            exact ⟨u, List.mem_cons_of_mem _ hu, hinside⟩

/-- Stripping takes blanks off both ends. -/
lemma exists_strip (t : Text) : ∃ before after, t = before ++ strip t ++ after ∧
    (∀ c ∈ before, isSpace c = true) ∧ ∀ c ∈ after, isSpace c = true := by
  refine ⟨t.takeWhile isSpace, ((t.dropWhile isSpace).reverse.takeWhile isSpace).reverse, ?_,
    fun c hc => List.mem_takeWhile_imp hc, fun c hc => ?_⟩
  · rw [strip, List.append_assoc, ← List.reverse_append, List.takeWhile_append_dropWhile,
      List.reverse_reverse, List.takeWhile_append_dropWhile]
  · rw [List.mem_reverse] at hc
    exact List.mem_takeWhile_imp hc

/-- **Collapsing blanks makes no new place** for a text without blanks. -/
lemma infix_strip_of_infix_collapse {q t : Text} (hq : ∀ c ∈ q, isSpace c = false) (hne : q ≠ [])
    (h : q <:+: collapse t) : q <:+: strip t := by
  obtain ⟨w, hw, hinside⟩ := infix_intercalate hq hne h
  obtain ⟨before, after, ht, hbefore, hafter⟩ := exists_strip t
  have hmem : q <:+: before ++ (strip t ++ after) := by
    rw [← List.append_assoc, ← ht]
    exact hinside.trans (infix_of_mem_split hw)
  have hblank : ∀ c, isSpace c = true → c ∉ q := fun c hc hmem => by
    rw [hq c hmem] at hc
    exact absurd hc Bool.false_ne_true
  exact infix_of_infix_append_right hne (fun c hc => hblank c (hafter c hc))
    (infix_of_infix_append_left hne (fun c hc => hblank c (hbefore c hc)) hmem)

lemma forall_space_of_split_eq_nil {t : Text} : split t = [] → ∀ c ∈ t, isSpace c = true := by
  induction t using split_induction with
  | nil => simp
  | space c t hc ih =>
      intro h
      rw [split_cons_space hc] at h
      exact List.forall_mem_cons.mpr ⟨hc, ih h⟩
  | word w rest hne hw hrest ih =>
      intro h
      rw [split_word hne hw hrest] at h
      cases h

/-- A text of one word is that word between blanks. -/
lemma exists_of_split_eq_singleton {t w : Text} : split t = [w] →
    w ≠ [] ∧ (∀ c ∈ w, isSpace c = false) ∧ ∃ before after, t = before ++ w ++ after ∧
      (∀ c ∈ before, isSpace c = true) ∧ ∀ c ∈ after, isSpace c = true := by
  induction t using split_induction with
  | nil => simp [split]
  | space c t hc ih =>
      intro h
      rw [split_cons_space hc] at h
      obtain ⟨hne, hw, before, after, rfl, hbefore, hafter⟩ := ih h
      exact ⟨hne, hw, c :: before, after, rfl, List.forall_mem_cons.mpr ⟨hc, hbefore⟩, hafter⟩
  | word v rest hne hv hrest ih =>
      intro h
      rw [split_word hne hv hrest, List.cons.injEq] at h
      obtain ⟨rfl, hnil⟩ := h
      exact ⟨hne, hv, [], rest, rfl, by simp, forall_space_of_split_eq_nil hnil⟩

lemma strip_between {before w after : Text} (hne : w ≠ []) (hw : ∀ c ∈ w, isSpace c = false)
    (hbefore : ∀ c ∈ before, isSpace c = true) (hafter : ∀ c ∈ after, isSpace c = true) :
    strip (before ++ w ++ after) = w := by
  have hfirst : (w ++ after).dropWhile isSpace = w ++ after := by
    cases w with
    | nil => exact absurd rfl hne
    | cons c w =>
        rw [List.cons_append, List.dropWhile_cons_of_neg (by simp [hw c])]
  have hlast : w.reverse.dropWhile isSpace = w.reverse := by
    rw [List.dropWhile_eq_self_iff]
    intro hpos hspace
    rw [hw _ (List.mem_reverse.mp (List.getElem_mem hpos))] at hspace
    cases hspace
  rw [strip, List.append_assoc, List.dropWhile_append_of_pos hbefore, hfirst, List.reverse_append,
    List.dropWhile_append_of_pos (fun c hc => hafter c (List.mem_reverse.mp hc)), hlast,
    List.reverse_reverse]

/-- **A text that collapses to one word** is that word between blanks. -/
lemma strip_of_collapse {t w : Text} (hne : w ≠ []) (hw : ∀ c ∈ w, isSpace c = false)
    (h : collapse t = w) : strip t = w := by
  have hsplit : split t = [w] := by
    unfold collapse at h
    cases hs : split t with
    | nil =>
        rw [hs] at h
        exact absurd h.symm hne
    | cons v words =>
        rw [hs] at h
        cases words with
        | nil => rw [← h]; simp [List.intercalate]
        | cons u words =>
            have hspace : ' ' ∈ w := by
              rw [← h]
              simp [List.intercalate]
            exact absurd (hw ' ' hspace) (by decide)
  obtain ⟨-, -, before, after, rfl, hbefore, hafter⟩ := exists_of_split_eq_singleton hsplit
  exact strip_between hne hw hbefore hafter

/-! ## Stripped texts -/

lemma infix_of_mem_intercalate {separator x : Text} {xs : List Text} (h : x ∈ xs) :
    x <:+: separator.intercalate xs := by
  induction xs with
  | nil => cases h
  | cons y ys ih =>
      cases ys with
      | nil =>
          obtain rfl := List.mem_singleton.mp h
          simp [List.intercalate]
      | cons z ys =>
          have hcons : separator.intercalate (y :: z :: ys) =
              y ++ (separator ++ separator.intercalate (z :: ys)) := by
            simp [List.intercalate]
          rw [hcons]
          rcases List.mem_cons.mp h with rfl | h
          · exact (List.prefix_append _ _).isInfix
          · exact (ih h).trans ((List.suffix_append _ _).trans (List.suffix_append _ _)).isInfix

/-- What neither starts nor ends with a blank survives stripping. -/
lemma infix_strip {piece t : Text} (hfirst : ∃ c ∈ piece.head?, isSpace c = false)
    (hlast : ∃ c ∈ piece.getLast?, isSpace c = false) (h : piece <:+: t) : piece <:+: strip t := by
  have hleft : ∀ (before u v : Text), (∃ c ∈ v.head?, isSpace c = false) →
      (∀ c ∈ before, isSpace c = true) → v <:+: before ++ u → v <:+: u := by
    intro before u v hv hbefore
    induction before with
    | nil => exact id
    | cons c before ih =>
        rw [List.forall_mem_cons] at hbefore
        intro h
        rw [List.cons_append, List.infix_cons_iff] at h
        refine h.elim (fun hstarts => ?_) (ih hbefore.2)
        obtain ⟨d, hd, hspace⟩ := hv
        cases v with
        | nil => cases hd
        | cons e v =>
            obtain rfl : e = d := Option.some.inj hd
            rw [List.cons_prefix_cons] at hstarts
            rw [hstarts.1, hbefore.1] at hspace
            cases hspace
  obtain ⟨before, after, ht, hbefore, hafter⟩ := exists_strip t
  rw [ht, List.append_assoc] at h
  have hmiddle := hleft before _ piece hfirst hbefore h
  rw [← List.reverse_infix, List.reverse_append] at hmiddle
  rw [← List.reverse_infix]
  exact hleft after.reverse _ piece.reverse (by rwa [List.head?_reverse])
    (fun c hc => hafter c (List.mem_reverse.mp hc)) hmiddle

/-- A stripped text neither starts nor ends with a blank. -/
lemma strip_ends {t : Text} (h : strip t ≠ []) :
    (∃ c ∈ (strip t).head?, isSpace c = false) ∧ ∃ c ∈ (strip t).getLast?, isSpace c = false := by
  have hhead : ∀ u : Text, ∀ c ∈ (u.dropWhile isSpace).head?, isSpace c = false := by
    intro u c hc
    have hnot := List.head?_dropWhile_not isSpace u
    rw [Option.mem_def.mp hc] at hnot
    simpa using hnot
  unfold strip at h ⊢
  generalize hw : (t.dropWhile isSpace).reverse.dropWhile isSpace = w at *
  have hsplit : t.dropWhile isSpace = w.reverse ++
      ((t.dropWhile isSpace).reverse.takeWhile isSpace).reverse := by
    rw [← List.reverse_append, ← hw, List.takeWhile_append_dropWhile, List.reverse_reverse]
  constructor
  · obtain ⟨c, v, hv⟩ := List.exists_cons_of_ne_nil h
    refine ⟨c, by rw [hv]; rfl, hhead t c ?_⟩
    rw [hsplit, hv]
    rfl
  · rw [List.getLast?_reverse]
    obtain ⟨c, v, hv⟩ := List.exists_cons_of_ne_nil (List.reverse_ne_nil_iff.mp h)
    refine ⟨c, by rw [hv]; rfl, hhead (t.dropWhile isSpace).reverse c ?_⟩
    rw [hw, hv]
    rfl

end PyText
