import Mathlib.Algebra.GroupWithZero.Nat
import Mathlib.Data.List.TakeWhile
import Mathlib.Tactic.Common

/-!
# Labels in brackets

Texts that hold labels such as `[A-1]`.  What counts as a label is a parameter; no label holds a
bracket itself, so a label in brackets starts right after an opening bracket and ends at the next
closing one, and two of them never overlap.

* `labels` lists the labels of a text, and `rename` renames them in place.
* **`labels_rename`**: renaming the labels of a text renames the list of its labels.
* `rename_rename` composes renamings, and `rename_eq_self` says when nothing changes.
-/

namespace Bracketed

variable (isLabel : List Char → Bool)

/-- The label at the start of what follows an opening bracket. -/
def label? (segment : List Char) : Option (List Char) :=
  let l := segment.takeWhile (· != ']')
  if isLabel l = true ∧ l.length < segment.length then some l else none

/-- `[match.group(0)[1:-1] for match in pattern.finditer(text)]` -/
def labels (t : List Char) : List (List Char) := (t.splitOn '[').tail.filterMap (label? isLabel)

/-- What follows an opening bracket, with its label renamed. -/
def renameSegment (r : List Char → List Char) (segment : List Char) : List Char :=
  match label? isLabel segment with
  | some l => r l ++ segment.drop l.length
  | none => segment

/-- `pattern.sub(lambda match: f"[{r(match.group(0)[1:-1])}]", text)` -/
def rename (r : List Char → List Char) (t : List Char) : List Char :=
  ['['].intercalate ((t.splitOn '[').headD [] ::
    (t.splitOn '[').tail.map (renameSegment isLabel r))

variable {isLabel} {r s : List Char → List Char} {t segment l : List Char}

/-! ## Segments -/

lemma not_mem_of_mem_splitOn {a : Char} (t : List Char) : ∀ segment ∈ t.splitOn a, a ∉ segment := by
  induction t with
  | nil => simp
  | cons c t ih =>
      rw [List.splitOn_cons_eq_if_modifyHead]
      intro segment hsegment
      split at hsegment
      · rcases List.mem_cons.mp hsegment with rfl | hsegment
        · simp
        · exact ih segment hsegment
      · next hc =>
        cases hsplit : t.splitOn a with
        | nil => exact absurd hsplit (List.splitOn_ne_nil a t)
        | cons head tail =>
            rw [hsplit] at hsegment ih
            rcases List.mem_cons.mp hsegment with rfl | hsegment
            · have hne : a ≠ c := by
                rintro rfl
                simp at hc
              simp [hne, ih head List.mem_cons_self]
            · exact ih segment (List.mem_cons_of_mem _ hsegment)

lemma label?_eq_some : label? isLabel segment = some l ↔
    isLabel l = true ∧ ']' ∉ l ∧ ∃ rest, segment = l ++ ']' :: rest := by
  unfold label?
  constructor
  · intro h
    dsimp only at h
    split at h
    · next hl =>
      obtain rfl := Option.some.inj h
      have hsplit := List.takeWhile_append_dropWhile (p := (· != ']')) (l := segment)
      refine ⟨hl.1, ?_, ?_⟩
      · intro hmem
        simpa using List.mem_takeWhile_imp hmem
      · cases hdrop : segment.dropWhile (· != ']') with
        | nil =>
            rw [hdrop, List.append_nil] at hsplit
            rw [hsplit] at hl
            exact absurd hl.2 (Nat.lt_irrefl _)
        | cons c rest =>
            have hc := List.head_dropWhile_not (· != ']') (l := segment) (by simp [hdrop])
            simp only [hdrop, List.head_cons, bne_eq_false_iff_eq] at hc
            subst hc
            exact ⟨rest, by rw [← hdrop, hsplit]⟩
    · cases h
  · rintro ⟨hlabel, hplain, rest, rfl⟩
    have hall : ∀ c ∈ l, (c != ']') = true := by
      intro c hc
      simpa using ne_of_mem_of_not_mem hc hplain
    have htake : (l ++ ']' :: rest).takeWhile (· != ']') = l := by
      rw [List.takeWhile_append_of_pos hall]
      simp
    dsimp only
    rw [htake, if_pos ⟨hlabel, by simp⟩]

/-- A renaming keeps the brackets. -/
lemma mem_rename (h : '[' ∈ t) : '[' ∈ rename isLabel r t := by
  have hjoin := @List.intercalate_splitOn _ t _ _ '['
  cases hsplit : t.splitOn '[' with
  | nil => exact absurd hsplit (List.splitOn_ne_nil _ _)
  | cons first rest =>
      cases rest with
      | nil =>
          rw [hsplit, List.intercalate_singleton] at hjoin
          subst hjoin
          exact absurd h (not_mem_of_mem_splitOn first first (by simp [hsplit]))
      | cons segment rest =>
          rw [rename, hsplit, List.headD_cons, List.tail_cons, List.map_cons,
            List.intercalate_cons_cons]
          simp

variable (hplain : ∀ l, isLabel l = true → '[' ∉ l ∧ ']' ∉ l)
  (hr : ∀ l, isLabel l = true → isLabel (r l) = true)
include hplain hr

lemma label?_renameSegment :
    label? isLabel (renameSegment isLabel r segment) = (label? isLabel segment).map r := by
  unfold renameSegment
  split
  · next l h =>
    obtain ⟨hlabel, -, rest, rfl⟩ := label?_eq_some.mp h
    rw [h, Option.map_some, List.drop_left, label?_eq_some]
    exact ⟨hr l hlabel, (hplain _ (hr l hlabel)).2, rest, rfl⟩
  · next h => rw [h, Option.map_none]

lemma not_mem_renameSegment (h : '[' ∉ segment) : '[' ∉ renameSegment isLabel r segment := by
  unfold renameSegment
  split
  · next l hl =>
    obtain ⟨hlabel, -, rest, rfl⟩ := label?_eq_some.mp hl
    rw [List.drop_left, List.mem_append, not_or]
    rw [List.mem_append, not_or] at h
    exact ⟨(hplain _ (hr l hlabel)).1, h.2⟩
  · exact h

/-! ## Texts -/

/-- The segments of a renamed text are the renamed segments. -/
lemma splitOn_rename : (rename isLabel r t).splitOn '[' =
    (t.splitOn '[').headD [] :: (t.splitOn '[').tail.map (renameSegment isLabel r) := by
  have hsegments := not_mem_of_mem_splitOn (a := '[') t
  refine List.splitOn_intercalate _ ?_ (by simp)
  intro segment hsegment
  rcases List.mem_cons.mp hsegment with rfl | hsegment
  · cases hsplit : t.splitOn '[' with
    | nil => simp
    | cons first rest => exact hsegments first (by simp [hsplit])
  · obtain ⟨segment, hmem, rfl⟩ := List.mem_map.mp hsegment
    exact not_mem_renameSegment hplain hr (hsegments segment (List.mem_of_mem_tail hmem))

/-- **Renaming the labels of a text renames the list of its labels.** -/
theorem labels_rename : labels isLabel (rename isLabel r t) = (labels isLabel t).map r := by
  unfold labels
  rw [splitOn_rename hplain hr, List.tail_cons, List.filterMap_map, List.map_filterMap]
  congr 1
  funext segment
  exact label?_renameSegment hplain hr

/-- Two renamings, one after the other. -/
theorem rename_rename :
    rename isLabel s (rename isLabel r t) = rename isLabel (fun l => s (r l)) t := by
  have hsegment : ∀ segment, renameSegment isLabel s (renameSegment isLabel r segment) =
      renameSegment isLabel (fun l => s (r l)) segment := by
    intro segment
    have hlabel : label? isLabel (renameSegment isLabel r segment) =
        (label? isLabel segment).map r := label?_renameSegment hplain hr
    cases h : label? isLabel segment with
    | none =>
        have hsame : ∀ q, renameSegment isLabel q segment = segment := by
          intro q
          rw [renameSegment, h]
        rw [hsame, hsame, hsame]
    | some l =>
        have hrename : ∀ q, renameSegment isLabel q segment = q l ++ segment.drop l.length := by
          intro q
          rw [renameSegment, h]
        rw [h] at hlabel
        rw [hrename, hrename] at *
        rw [renameSegment, hlabel]
        simp
  rw [rename, splitOn_rename hplain hr, List.headD_cons, List.tail_cons, List.map_map, rename]
  simp only [Function.comp_def, hsegment]

omit hplain hr

lemma renameSegment_eq_self (h : ∀ l, label? isLabel segment = some l → r l = l) :
    renameSegment isLabel r segment = segment := by
  unfold renameSegment
  split
  · next l hl =>
    obtain ⟨-, -, rest, rfl⟩ := label?_eq_some.mp hl
    rw [h l hl, List.drop_left]
  · rfl

/-- The segments of a text, joined again. -/
lemma intercalate_segments (t : List Char) :
    ['['].intercalate ((t.splitOn '[').headD [] :: (t.splitOn '[').tail) = t := by
  have hjoin := @List.intercalate_splitOn _ t _ _ '['
  cases hsplit : t.splitOn '[' with
  | nil => exact absurd hsplit (List.splitOn_ne_nil _ _)
  | cons first rest =>
      rw [hsplit] at hjoin
      exact hjoin

/-- Labels that keep their names. -/
theorem rename_eq_self (h : ∀ l ∈ labels isLabel t, r l = l) : rename isLabel r t = t := by
  have hsame : ∀ segment ∈ (t.splitOn '[').tail, renameSegment isLabel r segment = segment := by
    intro segment hsegment
    refine renameSegment_eq_self fun l hl => h l ?_
    exact List.mem_filterMap.mpr ⟨segment, hsegment, hl⟩
  rw [rename, List.map_congr_left hsame, List.map_id']
  exact intercalate_segments t

lemma labels_of_not_mem (h : '[' ∉ t) : labels isLabel t = [] := by
  rw [labels, List.splitOn_eq_singleton h]
  rfl

lemma rename_of_not_mem (h : '[' ∉ t) : rename isLabel r t = t := by
  refine rename_eq_self ?_
  simp [labels_of_not_mem h]

end Bracketed
