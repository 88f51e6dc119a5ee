import Mathlib.Data.List.Basic
import Mathlib.Tactic.Common

/-!
# The last match

`for item in reversed(items)` with a `return` in its body stops at the last item for which the body
returns.

* `IsLast.unique`: there is one such position.
* `findSome?_reverse_iff`: a search from the end finds it.
* **`IsLast.rel`**: in a sorted list it comes after every other match.
-/

namespace LastMatch

variable {α β : Type} {p : α → Prop} {xs : List α} {a b : α}

/-- The element is the last of the list for which `p` holds. -/
def IsLast (p : α → Prop) (xs : List α) (a : α) : Prop :=
  ∃ before after, xs = before ++ a :: after ∧ p a ∧ ∀ b ∈ after, ¬ p b

lemma IsLast.holds (h : IsLast p xs a) : p a := by
  obtain ⟨_, _, -, hp, -⟩ := h
  exact hp

lemma IsLast.mem (h : IsLast p xs a) : a ∈ xs := by
  obtain ⟨before, after, rfl, -⟩ := h
  simp

lemma IsLast.congr {q : α → Prop} (h : IsLast p xs a) (hpq : ∀ x ∈ xs, p x ↔ q x) :
    IsLast q xs a := by
  obtain ⟨before, after, rfl, ha, hafter⟩ := h
  refine ⟨before, after, rfl, (hpq a (by simp)).mp ha, fun b hb hq => ?_⟩
  exact hafter b hb ((hpq b (by simp [hb])).mpr hq)

/-- Every other match stands before the last one. -/
lemma IsLast.rel {r : α → α → Prop} (hsorted : xs.Pairwise r) (h : IsLast p xs a) (hb : b ∈ xs)
    (hp : p b) : b = a ∨ r b a := by
  obtain ⟨before, after, rfl, -, hafter⟩ := h
  rw [List.mem_append, List.mem_cons] at hb
  rcases hb with hbefore | rfl | hbehind
  · rw [List.pairwise_append] at hsorted
    exact .inr (hsorted.2.2 b hbefore a (List.mem_cons_self ..))
  · exact .inl rfl
  · exact absurd hp (hafter b hbehind)

lemma IsLast.unique (ha : IsLast p xs a) (hb : IsLast p xs b) : a = b := by
  obtain ⟨before, after, rfl, hpa, hafter⟩ := ha
  obtain ⟨before', after', heq, hpb, hafter'⟩ := hb
  rcases List.append_eq_append_iff.mp heq with ⟨rest, rfl, hrest⟩ | ⟨rest, rfl, hrest⟩
  · cases rest with
    | nil => exact (List.cons.inj hrest).1
    | cons x rest =>
        -- The second match would stand behind the first one.
        obtain ⟨rfl, rfl⟩ := List.cons.inj hrest
        exact absurd hpb (hafter b (by simp))
  · cases rest with
    | nil => exact (List.cons.inj hrest).1.symm
    | cons x rest =>
        obtain ⟨rfl, rfl⟩ := List.cons.inj hrest
        exact absurd hpa (hafter' a (by simp))

/-- **A search from the end stops at the last match.** -/
theorem findSome?_reverse_iff {f : α → Option β} {r : β} :
    xs.reverse.findSome? f = some r ↔ ∃ a, IsLast (fun x => f x ≠ none) xs a ∧ f a = some r := by
  rw [List.findSome?_eq_some_iff]
  constructor
  · rintro ⟨before, a, after, heq, ha, hbefore⟩
    refine ⟨a, ⟨after.reverse, before.reverse, ?_, by simp [ha], ?_⟩, ha⟩
    · rw [← List.reverse_reverse xs, heq]
      simp
    · intro b hb
      simpa using hbefore b (List.mem_reverse.mp hb)
  · rintro ⟨a, ⟨before, after, rfl, -, hafter⟩, ha⟩
    refine ⟨after.reverse, a, before.reverse, by simp, ha, fun b hb => ?_⟩
    simpa using hafter b (List.mem_reverse.mp hb)

lemma findSome?_reverse_none_iff {f : α → Option β} :
    xs.reverse.findSome? f = none ↔ ∀ x ∈ xs, f x = none := by
  simp [List.findSome?_eq_none_iff]

end LastMatch
