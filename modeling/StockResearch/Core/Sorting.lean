import Mathlib.Data.List.Perm.Basic
import Mathlib.Data.List.Sort
import Mathlib.Tactic.Common

/-!
# Sorting on a key

`sorted(xs, key=…)` keeps elements with equal keys in the order in which they stand.  `insertionSort`
does the same, so it can stand for it; what follows is what stability gives.

* `insertionSort_congr`: sorting by a linear order forgets the order of a list.
* `insertionSort_insertionSort`: sorting first by an order that does not separate less changes
  nothing.
* `flatMap_filter_perm`: the groups of a list by a key hold its elements.
* **`map_insertionSort_congr`**: two keys that disagree only on elements with the same image sort a
  list to the same images.
-/

namespace Sorting

/-- Sorting by a linear order forgets the order of a list. -/
lemma insertionSort_congr {κ : Type} [LinearOrder κ] {l l' : List κ} (h : l.Perm l') :
    l.insertionSort (· ≤ ·) = l'.insertionSort (· ≤ ·) := by
  refine List.Perm.eq_of_pairwise ?_ (List.pairwise_insertionSort _ l)
    (List.pairwise_insertionSort _ l') ?_
  · intro a b _ _ hab hba
    exact le_antisymm hab hba
  · exact (List.perm_insertionSort _ _).trans (h.trans (List.perm_insertionSort _ _).symm)

/-- The groups of a list by a key hold its elements. -/
lemma flatMap_filter_perm {α κ : Type} [DecidableEq κ] (key : α → κ) {keys : List κ}
    (hnodup : keys.Nodup) {l : List α} (h : ∀ a ∈ l, key a ∈ keys) :
    (keys.flatMap fun k => l.filter (key · = k)).Perm l := by
  induction keys generalizing l with
  | nil =>
      have hnil : l = [] := List.eq_nil_iff_forall_not_mem.mpr fun a ha => by simpa using h a ha
      simp [hnil]
  | cons k keys ih =>
      obtain ⟨hk, hnodup⟩ := List.nodup_cons.mp hnodup
      have hrest : ∀ a ∈ l.filter (fun a => ! decide (key a = k)), key a ∈ keys := by
        intro a ha
        simp only [List.mem_filter, Bool.not_eq_true', decide_eq_false_iff_not] at ha
        exact (List.mem_cons.mp (h a ha.1)).resolve_left ha.2
      -- A later group has no element of the first one.
      have hgroup : ∀ k' ∈ keys, l.filter (key · = k') =
          (l.filter (fun a => ! decide (key a = k))).filter (key · = k') := by
        intro k' hk'
        rw [List.filter_filter]
        refine List.filter_congr fun a _ => ?_
        have hne : k' ≠ k := fun heq => hk (heq ▸ hk')
        by_cases ha : key a = k'
        · simp [ha, hne]
        · simp [ha]
      rw [List.flatMap_cons, List.flatMap_congr hgroup]
      exact ((ih hnodup hrest).append_left _).trans (List.filter_append_perm _ _)

variable {α β : Type} (r s : α → α → Prop) [DecidableRel r] [DecidableRel s]

/-- Insertions of elements in a strict order can be swapped. -/
lemma orderedInsert_comm (htotal : ∀ a b, r a b ∨ r b a) (htrans : ∀ a b c, r a b → r b c → r a c)
    {a b : α} (hab : ¬ (r a b ∧ r b a)) (l : List α) :
    (l.orderedInsert r a).orderedInsert r b = (l.orderedInsert r b).orderedInsert r a := by
  induction l with
  | nil =>
      by_cases h : r a b
      · have hba : ¬ r b a := fun hba => hab ⟨h, hba⟩
        simp [h, hba]
      · have hba : r b a := (htotal a b).resolve_left h
        simp [h, hba]
  | cons c l ih =>
      by_cases hac : r a c <;> by_cases hbc : r b c <;> by_cases h : r a b
      all_goals
        have hba : (r b a ↔ ¬ r a b) :=
          ⟨fun hba hab' => hab ⟨hab', hba⟩, (htotal a b).resolve_left⟩
      all_goals simp [hac, hbc, h, hba, ih]
      · exact absurd (htrans b a c (hba.mpr h) hac) hbc
      · exact absurd (htrans a b c h hbc) hac

/-- Sorting by a finer order first changes nothing. -/
lemma insertionSort_insertionSort (htotal : ∀ a b, s a b ∨ s b a)
    (htrans : ∀ a b c, s a b → s b c → s a c) (hequiv : ∀ a b, s a b → s b a → r a b)
    (l : List α) : (l.insertionSort r).insertionSort s = l.insertionSort s := by
  have hinsert : ∀ (a : α) (l : List α),
      (l.orderedInsert r a).insertionSort s = (l.insertionSort s).orderedInsert s a := by
    intro a l
    induction l with
    | nil => rfl
    | cons b l ih =>
        by_cases h : r a b
        · simp [h]
        · have hstrict : ¬ (s a b ∧ s b a) := fun hab => h (hequiv a b hab.1 hab.2)
          simp only [List.orderedInsert_cons, h, if_false, List.insertionSort_cons, ih]
          exact orderedInsert_comm s htotal htrans hstrict _
  induction l with
  | nil => rfl
  | cons a l ih => rw [List.insertionSort_cons, hinsert, ih, List.insertionSort_cons]

/-- An element that goes only past elements with its own image. -/
lemma map_orderedInsert {e : α → β} {a : α} {l : List α} (h : ∀ b ∈ l, s a b ∨ e a = e b) :
    (l.orderedInsert s a).map e = e a :: l.map e := by
  induction l with
  | nil => rfl
  | cons b l ih =>
      rw [List.orderedInsert_cons]
      split
      · rfl
      · have hab : e a = e b := (h b (by simp)).resolve_left ‹_›
        rw [List.map_cons, ih fun c hc => h c (by simp [hc]), List.map_cons, hab]

/-- A list that is in order but for elements with the same image. -/
lemma map_insertionSort_of_pairwise {e : α → β} {l : List α}
    (h : l.Pairwise fun a b => s a b ∨ e a = e b) : (l.insertionSort s).map e = l.map e := by
  induction l with
  | nil => rfl
  | cons a l ih =>
      obtain ⟨ha, hl⟩ := List.pairwise_cons.mp h
      rw [List.insertionSort_cons, map_orderedInsert, ih hl, List.map_cons]
      intro b hb
      exact ha b ((List.perm_insertionSort s l).mem_iff.mp hb)

/-- **Keys that agree on what can be told apart.** -/
lemma map_insertionSort_congr {κ : Type} [LinearOrder κ] {e : α → β} {key key' : α → κ} {l : List α}
    (hequiv : ∀ a b, key' a = key' b → key a = key b)
    (h : ∀ a ∈ l, ∀ b ∈ l, key a ≤ key b → key' a ≤ key' b ∨ e a = e b) :
    (l.insertionSort fun a b => key a ≤ key b).map e =
      (l.insertionSort fun a b => key' a ≤ key' b).map e := by
  have hsorted : (l.insertionSort fun a b => key a ≤ key b).Pairwise fun a b => key a ≤ key b := by
    have : Std.Total fun a b : α => key a ≤ key b := ⟨fun a b => le_total _ _⟩
    have : IsTrans α fun a b => key a ≤ key b := ⟨fun a b c => le_trans⟩
    exact List.pairwise_insertionSort _ l
  have hmem : ∀ a, a ∈ l.insertionSort (fun a b => key a ≤ key b) ↔ a ∈ l :=
    fun a => (List.perm_insertionSort _ l).mem_iff
  have hpair : (l.insertionSort fun a b => key a ≤ key b).Pairwise
      fun a b => key' a ≤ key' b ∨ e a = e b :=
    hsorted.imp_of_mem fun ha hb hab => h _ ((hmem _).mp ha) _ ((hmem _).mp hb) hab
  rw [← insertionSort_insertionSort (fun a b => key a ≤ key b) (fun a b => key' a ≤ key' b)
    (fun a b => le_total _ _) (fun a b c => le_trans)
    (fun a b hab hba => (hequiv a b (le_antisymm hab hba)).le),
    map_insertionSort_of_pairwise _ hpair]

end Sorting
