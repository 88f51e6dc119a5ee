import StockResearch.Core.Regex
import Mathlib.Data.List.Infix
import Mathlib.Tactic.Common

/-!
# What a search leaves over

`finditer` cuts matches off the front of a text.  A match takes a beginning of what is there
(`Takes`); which characters it can take is read off the expression (`Only`), and so is that it takes
one at least (`Consumes`).

* `Only.takes`, `Consumes.length_lt`: an expression by induction on its form.
* `Only.fullmatch`: what a full match is made of.
* `head_tries_rep`: a repeated character class takes the longest run.
-/

namespace Regex

/-- `s` is left over of `t` when characters with `p` are taken. -/
def Takes (p : Char → Prop) (t s : List Char) : Prop := ∃ taken, t = taken ++ s ∧ ∀ c ∈ taken, p c

/-- Every character that a match takes satisfies `p`. -/
def Only (p : Char → Prop) : Regex → Prop
  | .char q => ∀ c, q c = true → p c
  | .seq a b => a.Only p ∧ b.Only p
  | .alt a b => a.Only p ∧ b.Only p
  | .rep _ _ a => a.Only p

/-- Every match takes a character. -/
def Consumes : Regex → Prop
  | .char _ => True
  | .seq a b => a.Consumes ∨ b.Consumes
  | .alt a b => a.Consumes ∧ b.Consumes
  | .rep lo _ a => 0 < lo ∧ a.Consumes

variable {p : Char → Prop} {f : List Char → List (List Char)} {r : Regex} {t s u : List Char}

lemma Takes.refl (t : List Char) : Takes p t t := ⟨[], rfl, by simp⟩

lemma Takes.trans (h : Takes p t s) (h' : Takes p s u) : Takes p t u := by
  obtain ⟨first, rfl, hfirst⟩ := h
  obtain ⟨second, rfl, hsecond⟩ := h'
  refine ⟨first ++ second, (List.append_assoc ..).symm, fun c hc => ?_⟩
  rcases List.mem_append.mp hc with hc | hc
  · exact hfirst c hc
  · exact hsecond c hc

lemma Takes.length_le (h : Takes p t s) : s.length ≤ t.length := by
  obtain ⟨taken, rfl, -⟩ := h
  rw [List.length_append]
  omega

lemma takes_greedyUpTo (hf : ∀ t, ∀ s ∈ f t, Takes p t s) (n : Nat) :
    ∀ t, ∀ s ∈ greedyUpTo f n t, Takes p t s := by
  induction n with
  | zero =>
      intro t s hs
      rw [greedyUpTo, List.mem_singleton] at hs
      subst hs
      exact Takes.refl s
  | succ n ih =>
      intro t s hs
      rw [greedyUpTo, List.mem_append, List.mem_flatMap, List.mem_singleton] at hs
      rcases hs with ⟨u, hu, hs⟩ | rfl
      · exact (hf t u hu).trans (ih u s hs)
      · exact Takes.refl s

lemma takes_greedyRepeated (hf : ∀ t, ∀ s ∈ f t, Takes p t s) (more lo : Nat) :
    ∀ t, ∀ s ∈ greedyRepeated f more lo t, Takes p t s := by
  induction lo with
  | zero => exact takes_greedyUpTo hf more
  | succ lo ih =>
      intro t s hs
      rw [greedyRepeated, List.mem_flatMap] at hs
      obtain ⟨u, hu, hs⟩ := hs
      exact (hf t u hu).trans (ih u s hs)

/-- **What a match takes.** -/
lemma Only.takes (h : r.Only p) : ∀ t, ∀ s ∈ r.tries t, Takes p t s := by
  induction r with
  | char q =>
      intro t s hs
      cases t with
      | nil => simp [tries] at hs
      | cons c rest =>
          rw [tries] at hs
          split_ifs at hs with hq
          · obtain rfl := List.mem_singleton.mp hs
            exact ⟨[c], rfl, fun d hd => List.mem_singleton.mp hd ▸ h c hq⟩
          · simp at hs
  | seq a b iha ihb =>
      intro t s hs
      rw [tries, List.mem_flatMap] at hs
      obtain ⟨u, hu, hs⟩ := hs
      exact (iha h.1 t u hu).trans (ihb h.2 u s hs)
  | alt a b iha ihb =>
      intro t s hs
      rw [tries, List.mem_append] at hs
      exact hs.elim (iha h.1 t s) (ihb h.2 t s)
  | rep lo hi a ih =>
      intro t s hs
      rw [tries] at hs
      exact takes_greedyRepeated (ih h) _ _ t s hs

lemma only_true (r : Regex) : r.Only fun _ => True := by
  induction r with
  | char q => exact fun _ _ => trivial
  | seq a b iha ihb => exact ⟨iha, ihb⟩
  | alt a b iha ihb => exact ⟨iha, ihb⟩
  | rep lo hi a ih => exact ih

lemma length_le_of_tries (r : Regex) (hs : s ∈ r.tries t) : s.length ≤ t.length :=
  ((only_true r).takes t s hs).length_le

/-- **A match takes a character.** -/
lemma Consumes.length_lt (h : r.Consumes) : ∀ t, ∀ s ∈ r.tries t, s.length < t.length := by
  induction r with
  | char q =>
      intro t s hs
      cases t with
      | nil => simp [tries] at hs
      | cons c rest =>
          rw [tries] at hs
          split_ifs at hs
          · obtain rfl := List.mem_singleton.mp hs
            exact Nat.lt_succ_self _
          · simp at hs
  | seq a b iha ihb =>
      intro t s hs
      rw [tries, List.mem_flatMap] at hs
      obtain ⟨u, hu, hs⟩ := hs
      rcases h with ha | hb
      · exact (length_le_of_tries b hs).trans_lt (iha ha t u hu)
      · exact (ihb hb u s hs).trans_le (length_le_of_tries a hu)
  | alt a b iha ihb =>
      intro t s hs
      rw [tries, List.mem_append] at hs
      exact hs.elim (iha h.1 t s) (ihb h.2 t s)
  | rep lo hi a ih =>
      intro t s hs
      obtain ⟨lo, rfl⟩ : ∃ m, lo = m + 1 := ⟨lo - 1, by have := h.1; omega⟩
      rw [tries, greedyRepeated, List.mem_flatMap] at hs
      obtain ⟨u, hu, hs⟩ := hs
      have hrest := takes_greedyRepeated (fun t s hs => (only_true a).takes t s hs) _ _ u s hs
      exact hrest.length_le.trans_lt (ih h.2 t u hu)

/-! ## Full matches -/

lemma mem_upTo {g : List Char → List (List Char)} (hf : ∀ t s, s ∈ f t ↔ s ∈ g t) (n : Nat) :
    ∀ t s, s ∈ upTo f n t ↔ s ∈ greedyUpTo g n t := by
  induction n with
  | zero => simp [upTo, greedyUpTo]
  | succ n ih =>
      intro t s
      simp only [upTo, greedyUpTo, List.mem_cons, List.mem_flatMap, List.mem_append, hf, ih,
        List.not_mem_nil, or_false]
      exact or_comm

lemma mem_repeated {g : List Char → List (List Char)} (hf : ∀ t s, s ∈ f t ↔ s ∈ g t) (more lo : Nat) :
    ∀ t s, s ∈ repeated f more lo t ↔ s ∈ greedyRepeated g more lo t := by
  induction lo with
  | zero => exact mem_upTo hf more
  | succ lo ih =>
      intro t s
      simp only [repeated, greedyRepeated, List.mem_flatMap, hf, ih]

/-- The order of the attempts does not change what can be left over. -/
lemma mem_ends (r : Regex) : ∀ t s, s ∈ r.ends t ↔ s ∈ r.tries t := by
  induction r with
  | char q => exact fun _ _ => Iff.rfl
  | seq a b iha ihb =>
      intro t s
      simp only [ends, tries, List.mem_flatMap, iha, ihb]
  | alt a b iha ihb =>
      intro t s
      simp only [ends, tries, List.mem_append, iha, ihb]
  | rep lo hi a ih =>
      intro t s
      exact mem_repeated ih _ lo t s

/-- **What a full match is made of.** -/
lemma Only.fullmatch (h : r.Only p) (ht : r.fullmatch t = true) : ∀ c ∈ t, p c := by
  obtain ⟨s, hs, hempty⟩ := List.any_eq_true.mp ht
  obtain rfl := List.isEmpty_iff.mp hempty
  obtain ⟨taken, rfl, htaken⟩ := h.takes t [] ((r.mem_ends t []).mp hs)
  simpa using htaken

/-! ## Character classes -/

lemma mem_tries_char {q : Char → Bool} :
    s ∈ (Regex.char q).tries t ↔ ∃ c, t = c :: s ∧ q c = true := by
  cases t with
  | nil => simp [tries]
  | cons c cs =>
      rw [tries]
      split_ifs with hq
      · rw [List.mem_singleton]
        constructor
        · rintro rfl
          exact ⟨c, rfl, hq⟩
        · rintro ⟨d, heq, -⟩
          exact (List.cons.inj heq).2.symm
      · constructor
        · intro h
          cases h
        · rintro ⟨d, heq, hd⟩
          obtain ⟨rfl, -⟩ := List.cons.inj heq
          exact absurd hd hq

lemma mem_tries_seq {a b : Regex} : s ∈ (Regex.seq a b).tries t ↔ ∃ u ∈ a.tries t, s ∈ b.tries u :=
  List.mem_flatMap

lemma tries_char_of {q : Char → Bool} {c : Char} (hq : q c = true) (cs : List Char) :
    (Regex.char q).tries (c :: cs) = [cs] := by
  simp only [tries, hq, if_true]

lemma tries_char_of_not {q : Char → Bool} {c : Char} (hq : ¬ q c = true) (cs : List Char) :
    (Regex.char q).tries (c :: cs) = [] := by
  simp only [tries, hq, if_false, Bool.false_eq_true]

/-- A repeated character class prefers the longest run. -/
lemma head_greedyUpTo_char (q : Char → Bool) :
    ∀ (n : Nat) (t : List Char), t.length ≤ n →
      (greedyUpTo (Regex.char q).tries n t).head? = some (t.dropWhile q) := by
  intro n
  induction n with
  | zero =>
      intro t ht
      obtain rfl := List.length_eq_zero_iff.mp (Nat.le_zero.mp ht)
      rfl
  | succ n ih =>
      intro t ht
      cases t with
      | nil => rfl
      | cons c rest =>
          rw [List.dropWhile_cons]
          by_cases hq : q c = true
          · have htail := ih rest (Nat.le_of_succ_le_succ ht)
            rw [greedyUpTo, tries_char_of hq, List.flatMap_singleton, List.head?_append, htail, if_pos hq]
            rfl
          · rw [greedyUpTo, tries_char_of_not hq, if_neg hq]
            rfl

lemma head_tries_rep {q : Char → Bool} {c : Char} (hq : q c = true) (cs : List Char) :
    ((Regex.rep 1 none (.char q)).tries (c :: cs)).head? = some (cs.dropWhile q) := by
  rw [tries, greedyRepeated, tries_char_of hq, List.flatMap_singleton]
  exact head_greedyUpTo_char q cs.length cs le_rfl

lemma tries_rep_of_not {q : Char → Bool} {c : Char} (hq : ¬ q c = true) (cs : List Char) :
    (Regex.rep 1 none (.char q)).tries (c :: cs) = [] := by
  rw [tries, greedyRepeated, tries_char_of_not hq, List.flatMap_nil]

lemma finditerIn_none {n : Nat} {c : Char} {cs : List Char}
    (h : (r.tries (c :: cs)).head? = none) :
    r.finditerIn (n + 1) (c :: cs) = r.finditerIn n cs := by
  rw [finditerIn, h]

/-- A match is cut off. -/
lemma finditerIn_some {n : Nat} {c : Char} {cs taken rest : List Char}
    (h : (r.tries (c :: cs)).head? = some rest) (heq : c :: cs = taken ++ rest) :
    r.finditerIn (n + 1) (c :: cs) = taken :: r.finditerIn n rest := by
  rw [finditerIn, h]
  have hlength : cs.length + 1 - rest.length = taken.length := by
    have := congrArg List.length heq
    rw [List.length_cons, List.length_append] at this
    omega
  dsimp only
  rw [hlength, heq, List.take_left]

end Regex
