import Mathlib.Data.List.Range
import Mathlib.Tactic.Common

/-!
# Consecutive intervals

`tiles width start last` cuts the days from `start` to `last` into intervals of `width` days; the
last one may be shorter.

* `lt_count_iff`: an interval is there when its first day is.
* **`tiles_drop`**: the intervals after the first `k` are those that start where the `k`-th would.
-/

namespace Tiling

/-- The interval number `i`. -/
def tile (width start last i : Nat) : Nat × Nat :=
  (start + i * width, min (start + i * width + (width - 1)) last)

/-- The number of intervals. -/
def count (width start last : Nat) : Nat := (last + 1 - start + (width - 1)) / width

/-- The intervals from `start` to `last`. -/
def tiles (width start last : Nat) : List (Nat × Nat) :=
  (List.range (count width start last)).map (tile width start last)

variable {width start last i k : Nat}

/-- An interval is there when its first day is. -/
lemma lt_count_iff (hw : 0 < width) : i < count width start last ↔ start + i * width ≤ last := by
  unfold count
  rw [Nat.lt_div_iff_mul_lt hw]
  have hsplit : i * width + width = (i + 1) * width := (Nat.succ_mul i width).symm
  constructor
  · intro h
    omega
  · intro h
    omega

lemma length_tiles : (tiles width start last).length = count width start last := by
  simp [tiles]

lemma take_tiles : (tiles width start last).take k =
    (List.range (min k (count width start last))).map (tile width start last) := by
  rw [tiles, ← List.map_take, List.take_range]

/-- **The intervals after the first `k`.** -/
lemma tiles_drop (hw : 0 < width) (hk : k ≤ count width start last) :
    (tiles width start last).drop k = tiles width (start + k * width) last := by
  have hcount : count width start last = k + count width (start + k * width) last := by
    refine Nat.le_antisymm ?_ ?_
    · by_contra hlt
      push Not at hlt
      have hin := (lt_count_iff hw).mp hlt
      rw [Nat.add_mul, ← Nat.add_assoc] at hin
      exact absurd ((lt_count_iff hw).mpr hin) (lt_irrefl _)
    · rcases Nat.eq_zero_or_pos (count width (start + k * width) last) with hzero | hpos
      · rw [hzero]
        exact hk
      · obtain ⟨m, hm⟩ := Nat.exists_eq_add_of_lt hpos
        have hlast : m < count width (start + k * width) last := by omega
        have hin := (lt_count_iff hw).mp hlast
        have hsame : start + (k + m) * width ≤ last := by
          rw [Nat.add_mul, ← Nat.add_assoc]
          exact hin
        have := (lt_count_iff hw).mpr hsame
        omega
  have htile : ∀ i, tile width start last (k + i) = tile width (start + k * width) last i := by
    intro i
    simp only [tile, Nat.add_mul, Nat.add_assoc]
  rw [tiles, tiles, ← List.map_drop, hcount, List.range_add, List.drop_left' (by simp),
    List.map_map]
  exact List.map_congr_left fun i _ => htile i

end Tiling
