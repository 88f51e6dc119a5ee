import Mathlib.Algebra.BigOperators.Group.List.Basic
import Mathlib.Algebra.Order.Field.Basic
import Mathlib.Data.List.Chain
import Mathlib.Tactic.Linarith
import Mathlib.Tactic.Ring

/-!
# Paced starts

Work is started at moments of time, a number of units at a time.  The starts are paced when each one
comes late enough after the one just before it for its own units at a given rate.  Only neighbours
are compared, and only with the units of the later one.

* **`units_window_le`**: nevertheless no window that opens at a start, or after it, gets more units
  than the rate allows for its length, whatever the sizes are.
-/

namespace Pacing

variable {K : Type} [Field K] [LinearOrder K] [IsStrictOrderedRing K]

/-- So many units are started at a time. -/
structure Start (K : Type) where
  time : K
  units : K

/-- The units of all starts together. -/
def units (l : List (Start K)) : K := (l.map Start.units).sum

/-- The starts after `s` and no later than `t`. -/
def window (s t : K) (l : List (Start K)) : List (Start K) :=
  l.filter fun e => s < e.time ∧ e.time ≤ t

/-- `b` leaves the time after `a` that its units take. -/
def Follows (rate : K) (a b : Start K) : Prop := 0 < b.units ∧ b.units ≤ rate * (b.time - a.time)

/-- Every start leaves its time after the one before it. -/
def Paced (rate : K) (l : List (Start K)) : Prop := l.IsChain (Follows rate)

variable {rate s t : K} {a b : Start K} {l : List (Start K)}

omit [LinearOrder K] [IsStrictOrderedRing K] in
@[simp] lemma units_nil : units ([] : List (Start K)) = 0 := rfl

omit [LinearOrder K] [IsStrictOrderedRing K] in
@[simp] lemma units_cons : units (a :: l) = a.units + units l := by simp [units]

lemma Follows.lt (hrate : 0 < rate) (h : Follows rate a b) : a.time < b.time := by
  have hpos : 0 < rate * (b.time - a.time) := h.1.trans_le h.2
  exact sub_pos.mp (pos_of_mul_pos_right hpos hrate.le)

/-- All that comes after the first start is later. -/
lemma Paced.lt_of_mem (hrate : 0 < rate) (h : Paced rate (a :: l)) (hb : b ∈ l) :
    a.time < b.time := by
  induction l generalizing a with
  | nil => cases hb
  | cons c l ih =>
      obtain ⟨hc, hl⟩ := List.isChain_cons_cons.mp h
      have hlt := hc.lt hrate
      rcases List.mem_cons.mp hb with rfl | hb
      · exact hlt
      · exact hlt.trans (ih hl hb)

omit [Field K] [IsStrictOrderedRing K] in
/-- A window that is over when the starts begin is empty. -/
lemma window_eq_nil (h : ∀ e ∈ l, t < e.time) : window s t l = [] := by
  rw [window, List.filter_eq_nil_iff]
  intro e he
  have hlater := h e he
  simp [hlater]

/-- A window that opens at the start before the first one. -/
lemma units_window_head_le (hrate : 0 < rate) (h : Paced rate (a :: l)) (ht : a.time ≤ t) :
    units (window a.time t l) ≤ rate * (t - a.time) := by
  induction l generalizing a with
  | nil => exact mul_nonneg hrate.le (sub_nonneg.mpr ht)
  | cons b l ih =>
      obtain ⟨hb, hl⟩ := List.isChain_cons_cons.mp h
      have hlt := hb.lt hrate
      have hlater : ∀ e ∈ l, b.time < e.time := fun e he => Paced.lt_of_mem hrate hl he
      by_cases hbt : b.time ≤ t
      · have hwindow : window a.time t (b :: l) = b :: window b.time t l := by
          rw [window, List.filter_cons_of_pos (by simp [hlt, hbt]), window]
          refine congrArg _ (List.filter_congr fun e he => ?_)
          simp [hlater e he, hlt.trans (hlater e he)]
        rw [hwindow, units_cons]
        calc b.units + units (window b.time t l)
            ≤ rate * (b.time - a.time) + rate * (t - b.time) := add_le_add hb.2 (ih hl hbt)
          _ = rate * (t - a.time) := by ring
      · have hover : ∀ e ∈ b :: l, t < e.time := by
          intro e he
          rcases List.mem_cons.mp he with rfl | he
          · exact not_le.mp hbt
          · exact (not_le.mp hbt).trans (hlater e he)
        rw [window_eq_nil hover]
        exact mul_nonneg hrate.le (sub_nonneg.mpr ht)

/-- **No window that opens at a start gets more units than the rate allows for its length.** -/
theorem units_window_le (hrate : 0 < rate) (h : Paced rate l) (ha : a ∈ l) (ht : a.time ≤ t) :
    units (window a.time t l) ≤ rate * (t - a.time) := by
  induction l with
  | nil => cases ha
  | cons b l ih =>
      rcases List.mem_cons.mp ha with rfl | ha
      · rw [window, List.filter_cons_of_neg (by simp)]
        exact units_window_head_le hrate h ht
      · have hbefore := Paced.lt_of_mem hrate h ha
        rw [window, List.filter_cons_of_neg (by simp [hbefore.le])]
        exact ih h.tail ha

end Pacing
