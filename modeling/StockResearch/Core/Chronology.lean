import StockResearch.Core.Calendar
import Mathlib.Order.Defs.LinearOrder

/-!
# The order of dates and times

Dates are ordered by year, month and day, and times of UTC by date and time of day.  Both orders
are linear: `rank` counts them off in a way that agrees with the comparison.
-/

namespace PyTime

namespace Date

/-- A number that grows with the date. -/
def rank (d : Date) : Nat := (d.year * 13 + d.month) * 32 + d.day

lemma lt_iff_rank {a b : Date} : a < b ↔ a.rank < b.rank := by
  have ha := daysInMonth_le a.year a.month
  have hb := daysInMonth_le b.year b.month
  have := a.validMonth
  have := b.validMonth
  have := a.validDay
  have := b.validDay
  change (a.year < b.year ∨ a.year = b.year ∧ (a.month < b.month ∨
    a.month = b.month ∧ a.day < b.day)) ↔ _
  unfold rank
  omega

lemma rank_inj {a b : Date} (h : a.rank = b.rank) : a = b := by
  have ha := daysInMonth_le a.year a.month
  have hb := daysInMonth_le b.year b.month
  obtain ⟨y, m, d, hy, hm, hd⟩ := a
  obtain ⟨y', m', d', hy', hm', hd'⟩ := b
  simp only [rank] at h ha hb
  simp only [mk.injEq]
  omega

instance : LinearOrder Date where
  le a b := a.rank ≤ b.rank
  lt a b := a < b
  le_refl a := le_refl a.rank
  le_trans _ _ _ := Nat.le_trans
  le_antisymm _ _ hab hba := rank_inj (Nat.le_antisymm hab hba)
  le_total a b := Nat.le_total a.rank b.rank
  lt_iff_le_not_ge a b := by
    rw [lt_iff_rank]
    change a.rank < b.rank ↔ a.rank ≤ b.rank ∧ ¬ b.rank ≤ a.rank
    omega
  toDecidableLE a b := inferInstanceAs (Decidable (a.rank ≤ b.rank))
  toDecidableLT _ _ := inferInstance

/-- `d + timedelta(days=1)`; an `OverflowError` is `none`. -/
def nextDay (d : Date) : Option Date :=
  if d.day < daysInMonth d.year d.month then make? d.year d.month (d.day + 1)
  else if d.month < 12 then make? d.year (d.month + 1) 1
  else make? (d.year + 1) 1 1

end Date

namespace Instant

lemma ofDay_lt (t : Instant) : t.ofDay < 86400000000 := by
  have := t.validHour
  have := t.validMinute
  have := t.validSecond
  have := t.validMicrosecond
  unfold ofDay
  omega

/-- A number that grows with the time. -/
def rank (t : Instant) : Nat := t.date.rank * 86400000000 + t.ofDay

lemma lt_iff_rank {a b : Instant} : a < b ↔ a.rank < b.rank := by
  have ha := a.ofDay_lt
  have hb := b.ofDay_lt
  change (a.date < b.date ∨ a.date = b.date ∧ a.ofDay < b.ofDay) ↔ _
  have heq : a.date = b.date ↔ a.date.rank = b.date.rank := ⟨congrArg _, Date.rank_inj⟩
  rw [Date.lt_iff_rank, heq]
  unfold rank
  omega

lemma rank_inj {a b : Instant} (h : a.rank = b.rank) : a = b := by
  have ha := a.ofDay_lt
  have hb := b.ofDay_lt
  have hdate : a.date = b.date := Date.rank_inj (by unfold rank at h; omega)
  obtain ⟨d, hr, mi, se, us, h₁, h₂, h₃, h₄⟩ := a
  obtain ⟨d', hr', mi', se', us', h₁', h₂', h₃', h₄'⟩ := b
  simp only at hdate
  subst hdate
  simp only [rank, ofDay] at h
  simp only [mk.injEq, true_and]
  omega

instance : LinearOrder Instant where
  le a b := a.rank ≤ b.rank
  lt a b := a < b
  le_refl a := le_refl a.rank
  le_trans _ _ _ := Nat.le_trans
  le_antisymm _ _ hab hba := rank_inj (Nat.le_antisymm hab hba)
  le_total a b := Nat.le_total a.rank b.rank
  lt_iff_le_not_ge a b := by
    rw [lt_iff_rank]
    change a.rank < b.rank ↔ a.rank ≤ b.rank ∧ ¬ b.rank ≤ a.rank
    omega
  toDecidableLE a b := inferInstanceAs (Decidable (a.rank ≤ b.rank))
  toDecidableLT _ _ := inferInstance

end Instant

end PyTime
