import Mathlib.Algebra.GroupWithZero.Nat
import Mathlib.Data.List.Flatten
import Mathlib.Data.List.TakeDrop
import Mathlib.Tactic.Common

/-!
# Slices, and lists joined by a separator

`slice` is `xs[start:stop]`, with Python's reading of negative and of overlong bounds.

`laidOut` walks over pieces with a cursor and notes where each of them stands when all are joined by
a separator.  **`slice_of_mem_laidOut`**: the slice of the joined list between the noted bounds is
the piece.
-/

namespace Slice

variable {α β : Type}

/-- The position that a bound of a slice names in a list of length `n`. -/
def position (n : Nat) (i : Int) : Nat := if i < 0 then (i + n).toNat else min i.toNat n

/-- `xs[start:stop]` -/
def slice (xs : List α) (start stop : Int) : List α :=
  (xs.take (position xs.length stop)).drop (position xs.length start)

/-- `xs[i]`, from the end for a negative index. -/
def at? (xs : List α) (i : Int) : Option α :=
  if i < 0 then if 0 ≤ i + xs.length then xs[(i + xs.length).toNat]? else none else xs[i.toNat]?

lemma position_of_le {n : Nat} {i : Int} (h₀ : 0 ≤ i) (hn : i ≤ n) : position n i = i.toNat := by
  unfold position
  split <;> omega

lemma slice_of_le {xs : List α} {start stop : Int} (h₀ : 0 ≤ start) (hle : start ≤ stop)
    (hn : stop ≤ xs.length) : slice xs start stop = (xs.take stop.toNat).drop start.toNat := by
  rw [slice, position_of_le h₀ (by omega), position_of_le (by omega) hn]

lemma length_slice {xs : List α} {start stop : Int} (h₀ : 0 ≤ start) (hle : start ≤ stop)
    (hn : stop ≤ xs.length) : ((slice xs start stop).length : Int) = stop - start := by
  rw [slice_of_le h₀ hle hn, List.length_drop, List.length_take]
  omega

@[simp] lemma slice_zero_length (xs : List α) : slice xs 0 xs.length = xs := by
  rw [slice_of_le (by omega) (by omega) (by omega)]
  simp

lemma slice_slice {xs : List α} {a b s e : Int} (ha : 0 ≤ a) (hs : 0 ≤ s) (hse : s ≤ e)
    (he : e ≤ b - a) (hb : b ≤ xs.length) :
    slice (slice xs a b) s e = slice xs (a + s) (a + e) := by
  have hlen := length_slice ha (show a ≤ b by omega) hb
  rw [slice_of_le hs hse (by omega), slice_of_le ha (by omega) hb,
    slice_of_le (by omega) (by omega) (by omega), List.take_drop, List.take_take, List.drop_drop]
  congr 2 <;> omega

/-! ## Joining -/

/-- Where each piece stands, from a cursor on, with a gap after each. -/
def laidOut (piece : α → List β) (gap : Nat) : Nat → List α → List (α × Nat × Nat)
  | _, [] => []
  | cursor, a :: as =>
      (a, cursor, cursor + (piece a).length) ::
        laidOut piece gap (cursor + (piece a).length + gap) as

lemma map_fst_laidOut (piece : α → List β) (gap cursor : Nat) (as : List α) :
    (laidOut piece gap cursor as).map Prod.fst = as := by
  induction as generalizing cursor with
  | nil => rfl
  | cons a as ih => simp [laidOut, ih]

lemma laidOut_map {γ : Type} (f : γ → α) (piece : α → List β) (gap cursor : Nat) (xs : List γ) :
    laidOut piece gap cursor (xs.map f) =
      (laidOut (piece ∘ f) gap cursor xs).map fun x => (f x.1, x.2) := by
  induction xs generalizing cursor with
  | nil => rfl
  | cons x xs ih => simp [laidOut, ih]

/-- The bounds of a piece after anything of the length of the cursor. -/
lemma bounds_of_mem_laidOut {piece : α → List β} {sep before : List β} {as : List α} {a : α}
    {s e : Nat} (h : (a, s, e) ∈ laidOut piece sep.length before.length as) :
    e = s + (piece a).length ∧
      e ≤ (before ++ sep.intercalate (as.map piece)).length ∧
      ((before ++ sep.intercalate (as.map piece)).take e).drop s = piece a := by
  induction as generalizing before with
  | nil => simp [laidOut] at h
  | cons b as ih =>
      rcases List.mem_cons.mp h with heq | hmem
      · cases heq
        cases as <;> simp [List.intercalate, List.take_append]
      · cases as with
        | nil => simp [laidOut] at hmem
        | cons c as =>
            have hjoin : before ++ sep.intercalate ((b :: c :: as).map piece) =
                before ++ piece b ++ sep ++ sep.intercalate ((c :: as).map piece) := by
              simp [List.intercalate]
            have hcursor : before.length + (piece b).length + sep.length =
                (before ++ piece b ++ sep).length := by simp [Nat.add_assoc]
            rw [hcursor] at hmem
            rw [hjoin]
            exact ih hmem

/-- **A piece is the slice of the joined list between its bounds.** -/
theorem slice_of_mem_laidOut {piece : α → List β} {sep : List β} {as : List α} {a : α} {s e : Nat}
    (h : (a, s, e) ∈ laidOut piece sep.length 0 as) :
    slice (sep.intercalate (as.map piece)) s e = piece a ∧ e = s + (piece a).length ∧
      e ≤ (sep.intercalate (as.map piece)).length := by
  have hbounds := @bounds_of_mem_laidOut _ _ piece sep [] as a s e h
  rw [List.nil_append] at hbounds
  rcases hbounds with ⟨heq, hle, hslice⟩
  refine ⟨?_, heq, hle⟩
  rw [slice_of_le (by omega) (by omega) (by omega)]
  simpa using hslice

/-- The pieces stand one after the other. -/
lemma pairwise_laidOut (piece : α → List β) (gap cursor : Nat) (as : List α) :
    (laidOut piece gap cursor as).Pairwise (fun x y => x.2.2 ≤ y.2.1) ∧
      ∀ x ∈ laidOut piece gap cursor as, cursor ≤ x.2.1 := by
  induction as generalizing cursor with
  | nil => exact ⟨List.Pairwise.nil, by simp [laidOut]⟩
  | cons a as ih =>
      obtain ⟨hpairwise, hcursor⟩ := ih (cursor + (piece a).length + gap)
      refine ⟨List.pairwise_cons.mpr ⟨fun x hx => ?_, hpairwise⟩, fun x hx => ?_⟩
      · have := hcursor x hx
        dsimp only
        omega
      · rcases List.mem_cons.mp hx with rfl | hx
        · exact Nat.le_refl cursor
        · have := hcursor x hx
          omega

/-- The length of a list of pieces joined with one element between. -/
lemma length_intercalate (x : α) (as : List (List α)) :
    ([x].intercalate as).length = (as.map List.length).sum + (as.length - 1) := by
  induction as with
  | nil => rfl
  | cons a as ih =>
      cases as with
      | nil => simp
      | cons b as =>
          rw [List.intercalate_cons_cons, List.length_append, List.length_append, ih]
          simp only [List.map_cons, List.sum_cons, List.length_cons, List.length_nil]
          omega

end Slice
