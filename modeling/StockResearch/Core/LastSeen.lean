import Mathlib.Data.List.Nodup
import Mathlib.Logic.Function.Basic
import Mathlib.Tactic.Common

/-!
# What differs from the last value under its key

A loop over pairs of a key and a value that remembers one value a key, the last one, and lets a pair
pass when its value is not the remembered one.

* `mem_fresh`: a pair passes at least once, unless its value was remembered from the start.
* **`nodup_fresh_iff`**: no pair passes twice exactly when no value of a key comes back after
  another one.
-/

namespace LastSeen

variable {K V : Type} [DecidableEq K] [DecidableEq V]

/-- The pairs that pass. -/
def fresh (last : K → Option V) : List (K × V) → List (K × V)
  | [] => []
  | p :: l =>
      if last p.1 = some p.2 then fresh last l
      else p :: fresh (Function.update last p.1 (some p.2)) l

/-- The values that are remembered at the end. -/
def after (last : K → Option V) : List (K × V) → K → Option V
  | [] => last
  | p :: l => after (Function.update last p.1 (some p.2)) l

/-- No value of a key comes back after another one. -/
def Grouped (l : List (K × V)) : Prop :=
  ∀ k a b, a ≠ b → ¬ [(k, a), (k, b), (k, a)].Sublist l

variable {last : K → Option V} {l m : List (K × V)} {p : K × V} {k : K} {v : V}

/-- Remembering a value twice changes nothing. -/
lemma update_of_eq (h : last k = some v) : Function.update last k (some v) = last := by
  rw [← h, Function.update_eq_self]

lemma fresh_append : fresh last (l ++ m) = fresh last l ++ fresh (after last l) m := by
  induction l generalizing last with
  | nil => rfl
  | cons p l ih =>
      simp only [List.cons_append, fresh, after]
      split_ifs with hsame
      · rw [ih, update_of_eq hsame]
      · rw [ih, List.cons_append]

lemma after_append : after last (l ++ m) = after (after last l) m := by
  induction l generalizing last with
  | nil => rfl
  | cons p l ih => exact ih

/-- What passes was in the list. -/
lemma mem_of_mem_fresh (h : p ∈ fresh last l) : p ∈ l := by
  induction l generalizing last with
  | nil => exact h
  | cons q l ih =>
      rw [fresh] at h
      split_ifs at h with hsame
      · exact List.mem_cons_of_mem _ (ih h)
      · rcases List.mem_cons.mp h with rfl | h
        · exact List.mem_cons_self ..
        · exact List.mem_cons_of_mem _ (ih h)

/-- A pair whose value is not the remembered one passes at its first place. -/
lemma mem_fresh (h : last p.1 ≠ some p.2) : p ∈ fresh last l ↔ p ∈ l := by
  refine ⟨mem_of_mem_fresh, fun hmem => ?_⟩
  induction l generalizing last with
  | nil => exact hmem
  | cons q l ih =>
      rw [fresh]
      rcases List.mem_cons.mp hmem with rfl | hmem
      · rw [if_neg h]
        exact List.mem_cons_self ..
      · split_ifs with hsame
        · exact ih h hmem
        · by_cases heq : p = q
          · rw [heq]
            exact List.mem_cons_self ..
          · refine List.mem_cons_of_mem _ (ih ?_ hmem)
            by_cases hk : p.1 = q.1
            · rw [hk, Function.update_self]
              intro hv
              exact heq (Prod.ext hk (Option.some.inj hv).symm)
            · rwa [Function.update_of_ne hk]

/-- No pair passes twice, and none that was remembered passes at all. -/
def Once (last : K → Option V) (l : List (K × V)) : Prop :=
  (fresh last l).Nodup ∧ ∀ k a, last k = some a → (k, a) ∉ fresh last l

/-- No value comes back after another one, where what is remembered comes first. -/
def GroupedAfter (last : K → Option V) (l : List (K × V)) : Prop :=
  Grouped l ∧ ∀ k a b, last k = some a → a ≠ b → ¬ [(k, b), (k, a)].Sublist l

/-- A pair with the remembered value changes nothing. -/
lemma groupedAfter_cons_of_eq (h : last p.1 = some p.2) :
    GroupedAfter last (p :: l) ↔ GroupedAfter last l := by
  constructor
  · rintro ⟨hgrouped, hlast⟩
    exact ⟨fun k a b hne hsub => hgrouped k a b hne (hsub.cons p),
      fun k a b hk hne hsub => hlast k a b hk hne (hsub.cons p)⟩
  · rintro ⟨hgrouped, hlast⟩
    refine ⟨fun k a b hne hsub => ?_, fun k a b hk hne hsub => ?_⟩
    · rcases List.sublist_cons_iff.mp hsub with hsub | ⟨_, hr, hsub⟩
      · exact hgrouped k a b hne hsub
      · obtain ⟨rfl, rfl⟩ := List.cons.inj hr
        exact hlast k a b h hne hsub
    · rcases List.sublist_cons_iff.mp hsub with hsub | ⟨_, hr, -⟩
      · exact hlast k a b hk hne hsub
      · obtain ⟨rfl, -⟩ := List.cons.inj hr
        rw [h] at hk
        exact hne (Option.some.inj hk).symm

/-- A pair with another value is remembered, and what it replaces must not come back. -/
lemma groupedAfter_cons_of_ne (h : last p.1 ≠ some p.2) :
    GroupedAfter last (p :: l) ↔ GroupedAfter (Function.update last p.1 (some p.2)) l ∧
      ∀ a, last p.1 = some a → (p.1, a) ∉ l := by
  constructor
  · rintro ⟨hgrouped, hlast⟩
    refine ⟨⟨fun k a b hne hsub => hgrouped k a b hne (hsub.cons p), fun k a b hk hne hsub => ?_⟩,
      fun a ha hmem => ?_⟩
    · by_cases hkey : k = p.1
      · subst hkey
        rw [Function.update_self] at hk
        obtain rfl := Option.some.inj hk
        exact hgrouped p.1 p.2 b hne (hsub.cons_cons p)
      · rw [Function.update_of_ne hkey] at hk
        exact hlast k a b hk hne (hsub.cons p)
    · have hne : a ≠ p.2 := by
        rintro rfl
        exact h ha
      exact hlast p.1 a p.2 ha hne ((List.singleton_sublist.mpr hmem).cons_cons p)
  · rintro ⟨⟨hgrouped, hlast⟩, hreplaced⟩
    refine ⟨fun k a b hne hsub => ?_, fun k a b hk hne hsub => ?_⟩
    · rcases List.sublist_cons_iff.mp hsub with hsub | ⟨_, hr, hsub⟩
      · exact hgrouped k a b hne hsub
      · obtain ⟨rfl, rfl⟩ := List.cons.inj hr
        exact hlast k a b (by rw [Function.update_self]) hne hsub
    · rcases List.sublist_cons_iff.mp hsub with hsub | ⟨_, hr, hsub⟩
      · by_cases hkey : k = p.1
        · subst hkey
          exact hreplaced a hk (hsub.subset (by simp))
        · exact hlast k a b (by rwa [Function.update_of_ne hkey]) hne hsub
      · obtain ⟨rfl, rfl⟩ := List.cons.inj hr
        exact hreplaced a hk (List.singleton_sublist.mp hsub)

/-- The same for the pairs that pass. -/
lemma once_cons_of_ne (h : last p.1 ≠ some p.2) :
    Once last (p :: l) ↔ Once (Function.update last p.1 (some p.2)) l ∧
      ∀ a, last p.1 = some a → (p.1, a) ∉ l := by
  have hfresh : ∀ a, a ≠ p.2 →
      ((p.1, a) ∈ fresh (Function.update last p.1 (some p.2)) l ↔ (p.1, a) ∈ l) := by
    intro a hne
    refine mem_fresh ?_
    rw [Function.update_self]
    exact fun hv => hne (Option.some.inj hv).symm
  have hother : ∀ a, last p.1 = some a → a ≠ p.2 := by
    rintro a ha rfl
    exact h ha
  unfold Once
  rw [fresh, if_neg h, List.nodup_cons]
  constructor
  · rintro ⟨⟨hnot, hnodup⟩, hlast⟩
    refine ⟨⟨hnodup, fun k a hk => ?_⟩, fun a ha hmem => ?_⟩
    · by_cases hkey : k = p.1
      · subst hkey
        rw [Function.update_self] at hk
        obtain rfl := Option.some.inj hk
        exact hnot
      · rw [Function.update_of_ne hkey] at hk
        exact fun hmem => hlast k a hk (List.mem_cons_of_mem _ hmem)
    · exact hlast p.1 a ha (List.mem_cons_of_mem _ ((hfresh a (hother a ha)).mpr hmem))
  · rintro ⟨⟨hnodup, hlast⟩, hreplaced⟩
    refine ⟨⟨hlast p.1 p.2 (by rw [Function.update_self]), hnodup⟩, fun k a hk hmem => ?_⟩
    rcases List.mem_cons.mp hmem with heq | hmem
    · subst heq
      exact h hk
    · by_cases hkey : k = p.1
      · subst hkey
        exact hreplaced a hk ((hfresh a (hother a hk)).mp hmem)
      · exact hlast k a (by rwa [Function.update_of_ne hkey]) hmem

lemma once_iff_groupedAfter : Once last l ↔ GroupedAfter last l := by
  induction l generalizing last with
  | nil => simp [Once, GroupedAfter, Grouped, fresh]
  | cons p l ih =>
      by_cases hsame : last p.1 = some p.2
      · rw [groupedAfter_cons_of_eq hsame, ← ih, Once, Once, fresh, if_pos hsame]
      · rw [groupedAfter_cons_of_ne hsame, once_cons_of_ne hsame, ih]

/-- **No pair passes twice exactly when the values of every key are grouped.** -/
theorem nodup_fresh_iff : (fresh (fun _ => none) l).Nodup ↔ Grouped l := by
  have h : Once (fun _ => none) l ↔ GroupedAfter (fun _ => none) l := once_iff_groupedAfter
  simpa [Once, GroupedAfter] using h

/-- What is remembered under a key with only one value. -/
lemma after_of_unique (hmem : (k, v) ∈ l) (hunique : ∀ a, (k, a) ∈ l → a = v) :
    after last l k = some v := by
  induction l generalizing last with
  | nil => cases hmem
  | cons p l ih =>
      rw [after]
      by_cases hin : (k, v) ∈ l
      · exact ih hin fun a ha => hunique a (List.mem_cons_of_mem _ ha)
      · rcases List.mem_cons.mp hmem with rfl | hmem
        · have hkeep : ∀ (m : List (K × V)) (last : K → Option V), (∀ a, (k, a) ∉ m) →
              after last m k = last k := by
            intro m
            induction m with
            | nil => exact fun _ _ => rfl
            | cons q m ihm =>
                intro last hnone
                rw [after, ihm _ fun a ha => hnone a (List.mem_cons_of_mem _ ha)]
                refine Function.update_of_ne ?_ _ _
                rintro rfl
                exact hnone q.2 (List.mem_cons_self ..)
          rw [hkeep l _ fun a ha => ?_]
          · exact Function.update_self ..
          · obtain rfl := hunique a (List.mem_cons_of_mem _ ha)
            exact hin ha
        · exact absurd hmem hin

end LastSeen
