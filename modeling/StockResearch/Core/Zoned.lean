import StockResearch.Core.Chronology
import Mathlib.Data.Rat.Defs

/-!
# Times with a UTC offset

`datetime.fromisoformat` for every text that it reads, whether or not the text states an offset.  A
time with an offset is a moment, counted in microseconds; only the moments of the years 1 to 9999
can be written as a time of UTC.

* **`DateTime.microseconds_utc`**: `astimezone(UTC)` keeps the moment.
-/

namespace PyTime

lemma Date.ofOrdinal_ok {years : List Nat} {n : Nat} {d : Date} (h : ofOrdinal years n = some d) :
    ordinal d.year d.month d.day = n := by
  obtain ⟨year, -, hyear⟩ := List.exists_of_findSome?_eq_some h
  obtain ⟨m, -, hm⟩ := List.exists_of_findSome?_eq_some hyear
  split_ifs at hm with hlt
  unfold make? at hm
  split_ifs at hm
  cases hm
  have hday : ∀ k, ordinal year (m + 1) k = ordinal year (m + 1) 0 + k := by
    intro k
    simp [ordinal]
  have hsplit := hday (n - ordinal year (m + 1) 0)
  dsimp only
  omega

/-- A day in microseconds. -/
def dayLength : Int := 86400000000

/-- The moment of a time of UTC. -/
def Instant.microseconds (t : Instant) : Int :=
  Date.ordinal t.date.year t.date.month t.date.day * dayLength + t.ofDay

/-- `(now - previous).total_seconds()`, without rounding. -/
def secondsBetween (previous now : Instant) : ℚ :=
  (now.microseconds - previous.microseconds : Int) / 1000000

/-- The time of UTC of a moment, looked for in the given years. -/
def Instant.ofMicroseconds (years : List Nat) (n : Int) : Option Instant := do
  let date ← Date.ofOrdinal years (n / dayLength).toNat
  let ofDay := (n % dayLength).toNat
  make? date
    { hour := ofDay / 3600000000
      minute := ofDay / 60000000 % 60
      second := ofDay / 1000000 % 60
      microsecond := ofDay % 1000000 }

lemma Instant.microseconds_ofMicroseconds {years : List Nat} {n : Int} {t : Instant}
    (h : ofMicroseconds years n = some t) : t.microseconds = n := by
  simp only [ofMicroseconds, Option.bind_eq_bind, Option.bind_eq_some_iff] at h
  obtain ⟨date, hdate, h⟩ := h
  have hordinal := Date.ofOrdinal_ok hdate
  have hpos : 1 ≤ (n / dayLength).toNat := by
    have hday := date.validDay
    rw [← hordinal, Date.ordinal]
    omega
  unfold make? at h
  split_ifs at h
  cases h
  have hmod := Int.emod_nonneg n (b := dayLength) (by decide)
  have hlt := Int.emod_lt_of_pos n (b := dayLength) (by decide)
  have hdiv := Int.emod_add_mul_ediv n dayLength
  simp only [microseconds, hordinal, ofDay]
  unfold dayLength at *
  omega

/-- A `datetime`: what the clock shows, and by how many microseconds it is ahead of UTC. -/
structure DateTime where
  wall : Instant
  offset : Option Int
deriving DecidableEq

namespace DateTime

/-- The moment, if an offset is stated. -/
def microseconds (d : DateTime) : Option Int := d.offset.map (d.wall.microseconds - ·)

/-- `d.astimezone(UTC)`; an `OverflowError` is `none`. -/
def utc (d : DateTime) (offset : Int) : Option Instant :=
  let year := d.wall.date.year
  Instant.ofMicroseconds [year - 1, year, year + 1] (d.wall.microseconds - offset)

/-- **The time of UTC is the same moment.** -/
theorem microseconds_utc {d : DateTime} {offset : Int} {t : Instant}
    (h : d.utc offset = some t) : t.microseconds = d.wall.microseconds - offset :=
  Instant.microseconds_ofMicroseconds h

/-- `d > bound`, for a time with an offset. -/
def later (bound : Instant) (d : DateTime) : Prop := ∃ n ∈ d.microseconds, bound.microseconds < n

instance (bound : Instant) (d : DateTime) : Decidable (later bound d) :=
  decidable_of_iff (d.microseconds.any (bound.microseconds < ·) = true)
    (by simp [later, Option.any_eq_true])

/-- `parse_isoformat_time`: the time of day and the offset. -/
def parseTime (cs : List Char) : Option (Clock × Option Int) := do
  let zone := cs.dropWhile fun c => !Instant.isZoneMark c
  let clock ← parseClock (zone != []) (cs.takeWhile fun c => !Instant.isZoneMark c)
  match zone with
  | [] => if clock.leftOver then none else some (clock, none)
  | 'Z' :: rest => if stops false rest then none else some (clock, some 0)
  | mark :: rest =>
      let offset ← parseClock false rest
      let seconds := offset.hour * 3600 + offset.minute * 60 + offset.second
      let ahead : Int := if mark = '-' then -1 else 1
      if offset.leftOver then none
      -- An offset of zero seconds is UTC, whatever its fraction.
      else if seconds = 0 then some (clock, some 0)
      else some (clock, some (ahead * (seconds * 1000000 + offset.microsecond)))

/-- `datetime.fromisoformat` -/
def fromIsoformat (s : String) : Option DateTime := do
  let cs := s.toList
  if Date.byteLength cs < 7 then none
  else
    let location ← Instant.separatorAt cs
    let date ← Date.parseIso location cs
    -- A date alone, or one with a single byte behind it, is a midnight.
    let (clock, offset) ← if Date.byteLength (cs.drop location) ≤ 1 then some ({}, none)
      else parseTime (cs.drop (location + 1))
    let wall ← Instant.make? date clock
    if offset.all fun n => n.natAbs < 86400000000 then some ⟨wall, offset⟩ else none

example : (fromIsoformat "2024-01-01T08:30:00+02:00").bind microseconds =
    (fromIsoformat "20240101 063000Z").bind microseconds := by decide +kernel

end DateTime

end PyTime
