import Mathlib.Algebra.GroupWithZero.Nat
import Mathlib.Data.List.Basic
import Mathlib.Data.String.Basic
import Mathlib.Tactic.Common

/-!
# Dates, times and their ISO 8601 texts

Calendar dates and UTC times of day as Python's `datetime` module has them, with the readings and
the writings that CPython 3.12 implements.

* `Date.fromIsoformat` reads `YYYY-MM-DD`, `YYYYMMDD` and the week dates `YYYY-Www-D`, `YYYYWwwD`,
  `YYYY-Www` and `YYYYWww`.  It looks at the length of the text and then at its first characters
  only, so a date of eight characters may have two more bytes behind it.
* `Instant.fromIsoformat` reads a date, any one separator, and a time with a UTC offset of zero.
* **`Date.fromIsoformat_isoformat`**: what `isoformat` writes is read back as the same date.
* **`Instant.isoformat_inj`**: the text of an instant determines it.
-/

namespace PyTime

/-! ## Digits -/

/-- A number in decimal, filled up with zeros on the left: `f"{n:0{width}d}"`. -/
def padded (width n : Nat) : List Char := (Nat.toDigits 10 n).leftpad width '0'

lemma ofDigitChars_padded (width n : Nat) : Nat.ofDigitChars 10 (padded width n) 0 = n := by
  simp [padded, List.leftpad, Nat.ofDigitChars_append, Nat.ofDigitChars_replicate_zero,
    Nat.ofDigitChars_ten_toDigits]

lemma padded_inj {v w m n : Nat} (h : padded v m = padded w n) : m = n := by
  rw [← ofDigitChars_padded v m, h, ofDigitChars_padded]

lemma isDigit_of_mem_padded {width n : Nat} {c : Char} (h : c ∈ padded width n) :
    c.isDigit = true := by
  simp only [padded, List.leftpad, List.mem_append, List.mem_replicate] at h
  rcases h with ⟨-, rfl⟩ | h
  · rfl
  · exact Nat.isDigit_of_mem_toDigits (by decide) (by decide) h

lemma length_padded {width n : Nat} (hwidth : 0 < width) (h : n < 10 ^ width) :
    (padded width n).length = width := by
  have hlength := (Nat.length_toDigits_le_iff (b := 10) (by decide) hwidth).mpr h
  simp [padded, hlength]

/-- `parse_digits`: a number of exactly so many digits, and the rest of the text. -/
def parseDigits (width : Nat) (cs : List Char) : Option (Nat × List Char) :=
  if width ≤ cs.length ∧ (cs.take width).all Char.isDigit then
    some (Nat.ofDigitChars 10 (cs.take width) 0, cs.drop width)
  else none

lemma parseDigits_padded {width n : Nat} (hwidth : 0 < width) (h : n < 10 ^ width)
    (rest : List Char) : parseDigits width (padded width n ++ rest) = some (n, rest) := by
  have hlength := length_padded hwidth h
  have htake : (padded width n ++ rest).take width = padded width n := by
    rw [List.take_append_of_le_length hlength.ge, List.take_of_length_le hlength.le]
  have hdrop : (padded width n ++ rest).drop width = rest := by
    rw [List.drop_append_of_le_length hlength.ge, List.drop_of_length_le hlength.le,
      List.nil_append]
  have hdigits : (padded width n).all Char.isDigit = true :=
    List.all_eq_true.mpr fun c hc => isDigit_of_mem_padded hc
  rw [parseDigits, htake, hdrop, if_pos ⟨by simp [hlength], hdigits⟩, ofDigitChars_padded]

/-! ## Dates -/

def isLeap (year : Nat) : Bool := year % 4 == 0 && (year % 100 != 0 || year % 400 == 0)

def daysInMonth (year month : Nat) : Nat :=
  if month = 2 then if isLeap year then 29 else 28
  else if month = 4 ∨ month = 6 ∨ month = 9 ∨ month = 11 then 30
  else 31

lemma daysInMonth_le (year month : Nat) : daysInMonth year month ≤ 31 := by
  unfold daysInMonth
  split_ifs <;> omega

/-- A `datetime.date`. -/
structure Date where
  year : Nat
  month : Nat
  day : Nat
  validYear : 1 ≤ year ∧ year ≤ 9999
  validMonth : 1 ≤ month ∧ month ≤ 12
  validDay : 1 ≤ day ∧ day ≤ daysInMonth year month
deriving DecidableEq

namespace Date

/-- `date(year, month, day)`; a `ValueError` is `none`. -/
def make? (year month day : Nat) : Option Date :=
  if h : (1 ≤ year ∧ year ≤ 9999) ∧ (1 ≤ month ∧ month ≤ 12) ∧
      (1 ≤ day ∧ day ≤ daysInMonth year month) then
    some ⟨year, month, day, h.1, h.2.1, h.2.2⟩
  else none

@[simp] lemma make?_self (d : Date) : make? d.year d.month d.day = some d := by
  rw [make?, dif_pos ⟨d.validYear, d.validMonth, d.validDay⟩]

instance : LT Date where
  lt a b := a.year < b.year ∨ a.year = b.year ∧ (a.month < b.month ∨
    a.month = b.month ∧ a.day < b.day)

instance (a b : Date) : Decidable (a < b) :=
  inferInstanceAs (Decidable (_ ∨ _))

/-- The days before the first of January of a year. -/
def daysBeforeYear (year : Nat) : Nat :=
  (year - 1) * 365 + (year - 1) / 4 - (year - 1) / 100 + (year - 1) / 400

/-- The proleptic Gregorian ordinal of a day of a month, 1 for the first of January of year 1. -/
def ordinal (year month day : Nat) : Nat :=
  daysBeforeYear year + ((List.range (month - 1)).map fun m => daysInMonth year (m + 1)).sum + day

/-- The date with the given ordinal, if it is in one of the given years. -/
def ofOrdinal (years : List Nat) (n : Nat) : Option Date :=
  years.findSome? fun year => (List.range 12).findSome? fun m =>
    if ordinal year (m + 1) 0 < n then make? year (m + 1) (n - ordinal year (m + 1) 0) else none

/-- The weekday of the first of January, 0 for a Monday. -/
def firstWeekday (year : Nat) : Nat := (ordinal year 1 1 + 6) % 7

/-- `iso_to_ymd`: the day of an ISO week. -/
def ofIsoWeek (year week day : Nat) : Option Date :=
  let long := firstWeekday year = 3 ∨ firstWeekday year = 2 ∧ isLeap year
  let week1Monday := ordinal year 1 1 - firstWeekday year +
    if 3 < firstWeekday year then 7 else 0
  if year = 0 ∨ week = 0 ∨ 53 < week ∨ week = 53 ∧ ¬ long ∨ day = 0 ∨ 7 < day then none
  else ofOrdinal [year - 1, year, year + 1] (week1Monday + (week - 1) * 7 + (day - 1))

/-- The text after a hyphen that stands at its start. -/
def skipHyphen : List Char → Option (List Char)
  | '-' :: cs => some cs
  | _ => none

/-- `parse_isoformat_date` on a text whose date takes up `length` bytes. -/
def parseIso (length : Nat) (cs : List Char) : Option Date := do
  let (year, cs) ← parseDigits 4 cs
  let hyphen := cs.head? = some '-'
  let cs := if hyphen then cs.tail else cs
  let separator := fun cs => if hyphen then skipHyphen cs else some cs
  match cs with
  | 'W' :: cs =>
      let (week, cs) ← parseDigits 2 cs
      if (if hyphen then 8 else 7) < length then
        let cs ← separator cs
        let (day, _) ← parseDigits 1 cs
        ofIsoWeek year week day
      else ofIsoWeek year week 1
  | cs =>
      let (month, cs) ← parseDigits 2 cs
      let cs ← separator cs
      let (day, _) ← parseDigits 2 cs
      make? year month day

/-- The length of a text in UTF-8. -/
def byteLength (cs : List Char) : Nat := (cs.map Char.utf8Size).sum

/-- `date.fromisoformat` -/
def fromIsoformat (s : String) : Option Date :=
  let length := byteLength s.toList
  if length = 7 ∨ length = 8 ∨ length = 10 then parseIso length s.toList else none

def isoChars (d : Date) : List Char :=
  padded 4 d.year ++ '-' :: (padded 2 d.month ++ '-' :: padded 2 d.day)

/-- `date.isoformat` -/
def isoformat (d : Date) : String := String.ofList d.isoChars

lemma bounds (d : Date) : d.year < 10 ^ 4 ∧ d.month < 10 ^ 2 ∧ d.day < 10 ^ 2 := by
  have hyear := d.validYear
  have hmonth := d.validMonth
  have hday := d.validDay
  have hle := daysInMonth_le d.year d.month
  omega

lemma byteLength_padded {width n : Nat} (hwidth : 0 < width) (h : n < 10 ^ width) :
    byteLength (padded width n) = width := by
  have hone : ∀ c ∈ padded width n, c.utf8Size = 1 := by
    intro c hc
    have hdigit := isDigit_of_mem_padded hc
    simp only [Char.isDigit, ge_iff_le, Bool.and_eq_true, decide_eq_true_eq] at hdigit
    rw [Char.utf8Size_eq_one_iff]
    exact UInt32.le_trans hdigit.2 (by decide)
  rw [byteLength, List.map_congr_left hone]
  simp [length_padded hwidth h]

lemma byteLength_isoChars (d : Date) : byteLength d.isoChars = 10 := by
  obtain ⟨hyear, hmonth, hday⟩ := d.bounds
  have hy := byteLength_padded (by decide) hyear
  have hm := byteLength_padded (by decide) hmonth
  have hd := byteLength_padded (by decide) hday
  have hhyphen : Char.utf8Size '-' = 1 := by decide
  simp only [byteLength] at hy hm hd ⊢
  simp only [isoChars, List.map_append, List.map_cons, List.sum_append, List.sum_cons, hy, hm, hd,
    hhyphen]

/-- **What `isoformat` writes, `fromisoformat` reads.** -/
theorem fromIsoformat_isoformat (d : Date) : fromIsoformat d.isoformat = some d := by
  obtain ⟨hyear, hmonth, hday⟩ := d.bounds
  have hday' := parseDigits_padded (by decide) hday []
  rw [List.append_nil] at hday'
  have hmonthHead : ∀ cs, padded 2 d.month ++ cs ≠ 'W' :: (padded 2 d.month ++ cs).tail := by
    intro cs h
    have hlength := length_padded (by decide) hmonth
    cases hp : padded 2 d.month with
    | nil => simp [hp] at hlength
    | cons c ds =>
        have hmem : c ∈ padded 2 d.month := by simp [hp]
        have hdigit := isDigit_of_mem_padded hmem
        rw [hp, List.cons_append] at h
        rw [List.head_eq_of_cons_eq h] at hdigit
        exact absurd hdigit (by decide)
  simp only [fromIsoformat, isoformat, String.toList_ofList, byteLength_isoChars]
  rw [if_pos (by simp), parseIso, isoChars, parseDigits_padded (by decide) hyear]
  simp only [Option.bind_eq_bind, Option.bind_some, List.head?_cons, if_true, List.tail_cons]
  split
  · rename_i cs heq
    exact absurd (by rw [heq, List.tail_cons]) (hmonthHead ('-' :: padded 2 d.day))
  · rw [parseDigits_padded (by decide) hmonth]
    simp [skipHyphen, hday']

lemma isoChars_inj {d e : Date} (h : d.isoChars = e.isoChars) : d = e := by
  have hread := fromIsoformat_isoformat d
  rw [isoformat, h, ← isoformat, fromIsoformat_isoformat] at hread
  exact (Option.some.inj hread).symm

lemma length_isoChars (d : Date) : d.isoChars.length = 10 := by
  obtain ⟨hyear, hmonth, hday⟩ := d.bounds
  simp [isoChars, length_padded (Nat.succ_pos _) hyear, length_padded (Nat.succ_pos _) hmonth,
    length_padded (Nat.succ_pos _) hday]

end Date

/-! ## Times -/

/-- The parts of a time of day that `parse_hh_mm_ss_ff` has read, and whether it stopped before the
end of the text. -/
structure Clock where
  hour : Nat := 0
  minute : Nat := 0
  second : Nat := 0
  microsecond : Nat := 0
  leftOver : Bool := false
deriving DecidableEq, Repr

/-- Whether anything is left of a C string: `*p != '\0'`. -/
def stops (follows : Bool) : List Char → Bool
  | [] => follows
  | c :: _ => c != '\x00'

/-- The fraction of a second: six digits count, fewer are filled up, more are skipped. -/
def parseFraction (follows : Bool) (cs : List Char) : Option (Nat × Bool) := do
  let width := min 6 cs.length
  if width = 0 then none
  else
    let (n, cs) ← parseDigits width cs
    let cs := cs.dropWhile Char.isDigit
    return (n * 10 ^ (6 - width), stops follows cs)

/-- What follows the digits of one component: the end of the text, another component, or the
fraction. -/
inductive Next where
  | done (leftOver : Bool)
  | component (colon : Bool) (cs : List Char)
  | fraction (cs : List Char)

/-- One round of the loop of `parse_hh_mm_ss_ff`, after the digits of a component; `colon?` is
unknown in the first round.  `follows` says whether text follows the part that is read. -/
def nextComponent (follows : Bool) (colon? : Option Bool) : List Char → Option Next
  | [] => some (.done follows)
  | [c] => some (.done (stops follows [c]))
  | c :: cs =>
      let colon := colon?.getD (c = ':')
      if colon ∧ c = ':' then some (.component colon cs)
      else if c = '.' ∨ c = ',' then some (.fraction cs)
      else if colon then none
      else some (.component colon (c :: cs))

/-- `parse_hh_mm_ss_ff` -/
def parseClock (follows : Bool) (cs : List Char) : Option Clock := do
  let (hour, cs) ← parseDigits 2 cs
  match ← nextComponent follows none cs with
  | .done leftOver => return { hour, leftOver }
  | .fraction cs =>
      let (microsecond, leftOver) ← parseFraction follows cs
      return { hour, microsecond, leftOver }
  | .component colon cs =>
      let (minute, cs) ← parseDigits 2 cs
      match ← nextComponent follows (some colon) cs with
      | .done leftOver => return { hour, minute, leftOver }
      | .fraction cs =>
          let (microsecond, leftOver) ← parseFraction follows cs
          return { hour, minute, microsecond, leftOver }
      | .component colon cs =>
          let (second, cs) ← parseDigits 2 cs
          match ← nextComponent follows (some colon) cs with
          | .done leftOver => return { hour, minute, second, leftOver }
          -- The loop is over: what follows is read as a fraction, whatever introduces it.
          | .fraction cs | .component _ cs =>
              let (microsecond, leftOver) ← parseFraction follows cs
              return { hour, minute, second, microsecond, leftOver }

/-- A `datetime` in UTC. -/
structure Instant where
  date : Date
  hour : Nat
  minute : Nat
  second : Nat
  microsecond : Nat
  validHour : hour < 24
  validMinute : minute < 60
  validSecond : second < 60
  validMicrosecond : microsecond < 1000000
deriving DecidableEq

namespace Instant

/-- The time of day in microseconds. -/
def ofDay (t : Instant) : Nat :=
  ((t.hour * 60 + t.minute) * 60 + t.second) * 1000000 + t.microsecond

instance : LT Instant where
  lt a b := a.date < b.date ∨ a.date = b.date ∧ a.ofDay < b.ofDay

instance (a b : Instant) : Decidable (a < b) :=
  inferInstanceAs (Decidable (_ ∨ _))

/-- No earlier than something that is no earlier. -/
lemma not_lt_trans {a b c : Instant} (hab : ¬ b < a) (hbc : ¬ c < b) : ¬ c < a := by
  have hdate : ∀ d e : Date, d = e ↔ d.year = e.year ∧ d.month = e.month ∧ d.day = e.day := by
    rintro ⟨⟩ ⟨⟩
    simp
  simp only [LT.lt, hdate] at hab hbc ⊢
  simp only [Nat.lt_eq] at hab hbc ⊢
  omega

def make? (date : Date) (c : Clock) : Option Instant :=
  if h : c.hour < 24 ∧ c.minute < 60 ∧ c.second < 60 ∧ c.microsecond < 1000000 then
    some ⟨date, c.hour, c.minute, c.second, c.microsecond, h.1, h.2.1, h.2.2.1, h.2.2.2⟩
  else none

/-- `_find_isoformat_datetime_separator`: how many characters the date takes up. -/
def separatorAt (cs : List Char) : Option Nat :=
  if Date.byteLength cs = 7 then some 7
  else if cs.getD 4 ' ' = '-' then
    if cs.getD 5 ' ' = 'W' then
      if cs.getD 8 ' ' = '-' then
        if cs.length = 9 then none
        else if (cs.getD 10 ' ').isDigit then some 8
        else some 10
      else some 8
    else some 10
  else if cs.getD 4 ' ' = 'W' then
    let digits := 7 + ((cs.drop 7).takeWhile Char.isDigit).length
    if digits < 9 then some digits
    else if digits % 2 = 0 then some 7
    else some 8
  else some 8

def isZoneMark (c : Char) : Bool := c == '+' || c == '-' || c == 'Z'

/-- `parse_isoformat_time` where the offset must be present and zero seconds. -/
def parseUtcTime (cs : List Char) : Option Clock := do
  let zone := cs.dropWhile fun c => !isZoneMark c
  let clock ← parseClock (zone != []) (cs.takeWhile fun c => !isZoneMark c)
  match zone with
  | [] => none
  | 'Z' :: rest => if stops false rest then none else some clock
  | _ :: rest =>
      let offset ← parseClock false rest
      if offset.leftOver ∨ offset.hour * 3600 + offset.minute * 60 + offset.second ≠ 0 then none
      else some clock

/-- `datetime.fromisoformat` of a text that states a UTC offset of zero. -/
def fromIsoformat (s : String) : Option Instant := do
  let cs := s.toList
  if Date.byteLength cs < 7 then none
  else
    let location ← separatorAt cs
    let date ← Date.parseIso location cs
    let clock ← parseUtcTime (cs.drop (location + 1))
    make? date clock

def isoChars (t : Instant) : List Char :=
  t.date.isoChars ++ 'T' :: (padded 2 t.hour ++ ':' :: (padded 2 t.minute ++ ':' ::
    (padded 2 t.second ++
      if t.microsecond = 0 then ['Z'] else '.' :: (padded 6 t.microsecond ++ ['Z']))))

/-- `t.isoformat().replace("+00:00", "Z")` -/
def isoformat (t : Instant) : String := String.ofList t.isoChars

/-- A two-digit field at the front of two equal texts is the same number. -/
lemma padded_append_inj {m n : Nat} {cs ds : List Char} (hm : m < 60) (hn : n < 60)
    (h : padded 2 m ++ cs = padded 2 n ++ ds) : m = n ∧ cs = ds := by
  have hlength : (padded 2 m).length = (padded 2 n).length := by
    rw [length_padded (by decide) (by omega), length_padded (by decide) (by omega)]
  obtain ⟨hfield, hrest⟩ := List.append_inj h hlength
  exact ⟨padded_inj hfield, hrest⟩

/-- **The text of an instant determines it.** -/
theorem isoformat_inj {s t : Instant} (h : s.isoformat = t.isoformat) : s = t := by
  have hchars : s.isoChars = t.isoChars := String.ofList_injective h
  have hdates : s.date.isoChars.length = t.date.isoChars.length := by
    rw [Date.length_isoChars, Date.length_isoChars]
  obtain ⟨hdate, hrest⟩ := List.append_inj hchars hdates
  have hs := s.validHour
  have ht := t.validHour
  obtain ⟨hhour, hrest⟩ :=
    padded_append_inj (by omega) (by omega) (List.tail_eq_of_cons_eq hrest)
  obtain ⟨hminute, hrest⟩ :=
    padded_append_inj s.validMinute t.validMinute (List.tail_eq_of_cons_eq hrest)
  obtain ⟨hsecond, hrest⟩ :=
    padded_append_inj s.validSecond t.validSecond (List.tail_eq_of_cons_eq hrest)
  have hmicrosecond : s.microsecond = t.microsecond := by
    split_ifs at hrest with hs0 ht0
    · omega
    · simp at hrest
    · simp at hrest
    · exact padded_inj (List.append_cancel_right (List.tail_eq_of_cons_eq hrest))
  cases s
  cases t
  simp only [Instant.mk.injEq]
  exact ⟨Date.isoChars_inj hdate, hhour, hminute, hsecond, hmicrosecond⟩

end Instant

/-! ## Dates of examples -/

lemma validYear_2023 : 1 ≤ 2023 ∧ 2023 ≤ 9999 := by decide

lemma validYear_2024 : 1 ≤ 2024 ∧ 2024 ≤ 9999 := by decide

lemma validYear_2025 : 1 ≤ 2025 ∧ 2025 ≤ 9999 := by decide

lemma validYear_2026 : 1 ≤ 2026 ∧ 2026 ≤ 9999 := by decide

lemma validMonth_1 : 1 ≤ 1 ∧ 1 ≤ 12 := by decide

lemma validMonth_3 : 1 ≤ 3 ∧ 3 ≤ 12 := by decide

lemma validMonth_6 : 1 ≤ 6 ∧ 6 ≤ 12 := by decide

lemma validMonth_7 : 1 ≤ 7 ∧ 7 ≤ 12 := by decide

lemma validMonth_8 : 1 ≤ 8 ∧ 8 ≤ 12 := by decide

lemma validMonth_9 : 1 ≤ 9 ∧ 9 ≤ 12 := by decide

lemma validMonth_12 : 1 ≤ 12 ∧ 12 ≤ 12 := by decide

lemma validDay_2023_1_1 : 1 ≤ 1 ∧ 1 ≤ daysInMonth 2023 1 := by decide

lemma validDay_2023_12_31 : 1 ≤ 31 ∧ 31 ≤ daysInMonth 2023 12 := by decide

lemma validDay_2024_1_1 : 1 ≤ 1 ∧ 1 ≤ daysInMonth 2024 1 := by decide

lemma validDay_2024_1_2 : 1 ≤ 2 ∧ 2 ≤ daysInMonth 2024 1 := by decide

lemma validDay_2024_3_31 : 1 ≤ 31 ∧ 31 ≤ daysInMonth 2024 3 := by decide

lemma validDay_2024_6_30 : 1 ≤ 30 ∧ 30 ≤ daysInMonth 2024 6 := by decide

lemma validDay_2024_8_31 : 1 ≤ 31 ∧ 31 ≤ daysInMonth 2024 8 := by decide

lemma validDay_2024_9_30 : 1 ≤ 30 ∧ 30 ≤ daysInMonth 2024 9 := by decide

lemma validDay_2024_12_31 : 1 ≤ 31 ∧ 31 ≤ daysInMonth 2024 12 := by decide

lemma validDay_2025_3_31 : 1 ≤ 31 ∧ 31 ≤ daysInMonth 2025 3 := by decide

lemma validHour_0 : 0 < 24 := by decide

lemma validHour_8 : 8 < 24 := by decide

lemma validHour_12 : 12 < 24 := by decide

/-- The start of an hour, and of a minute. -/
lemma validMinute_0 : 0 < 60 := by decide

lemma validMicrosecond_0 : 0 < 1000000 := by decide

end PyTime
