import StockResearch.Core.Slice
import StockResearch.Documents.Schemas

/-!
# The chunker

`DocumentChunker.chunk` cuts a document into segments (its pages, its sections, or the whole text),
each segment into ranges, and makes a draft of every range.

`_ranges` is a loop that looks for white space.  It need not end: where the overlap takes it back to
where it was, it cuts the same range again.  The model runs it with fuel, and out of fuel it has no
result.

**When the loop returns, its ranges fit** (`fits_of_ranges`): they lie inside the text, are not empty
and no longer than the maximum.  A round that does not get ahead repeats itself without end
(`rangesFrom_stuck`), so in a loop that returns every round starts further on than the one before,
and no range starts before the text does.
-/

namespace StockResearch.Documents

open PyText Slice

/-! ## Ranges -/

/-- `text[index].isspace()`.  No index is ever further back than the length of the text. -/
def spaceAt (text : Text) (index : Int) : Bool := (at? text index).any isSpace

/-- `_last_boundary`, over the last so many positions after `lower`. -/
def lastBoundaryFrom (text : Text) (lower : Int) : Nat → Option Int
  | 0 => none
  | k + 1 => if spaceAt text (lower + k) then some (lower + k + 1) else lastBoundaryFrom text lower k

def lastBoundary (text : Text) (lower upper : Int) : Option Int :=
  lastBoundaryFrom text lower (upper - lower).toNat

/-- `_first_boundary`, over so many positions from `index` on. -/
def firstBoundaryFrom (text : Text) (index : Int) : Nat → Option Int
  | 0 => none
  | k + 1 => if spaceAt text index then some (index + 1) else firstBoundaryFrom text (index + 1) k

def firstBoundary (text : Text) (lower upper : Int) : Option Int :=
  firstBoundaryFrom text (max lower 0) (upper - max lower 0).toNat

structure Range where
  start : Int
  stop : Int
  forced : Bool
deriving DecidableEq, Repr

/-- Where a range that starts at `start` stops, and whether it had to. -/
def stopOf (text : Text) (config : ChunkConfig) (start : Int) : Int × Bool :=
  if text.length - start ≤ config.maximumCharacters then (text.length, false)
  else
    let target := min (start + config.targetCharacters) text.length
    let lower := min (start + config.minimumCharacters) target
    match lastBoundary text lower target with
    | some boundary => (boundary, false)
    | none => (min (start + config.maximumCharacters) text.length, true)

/-- Where the next range starts after one that stops at `stop`. -/
def nextStart (text : Text) (config : ChunkConfig) (stop : Int) : Int :=
  let overlap := min config.overlapCharacters (config.targetCharacters / 5)
  match firstBoundary text (stop - overlap) stop with
  | some boundary => if boundary < stop then boundary else stop - overlap
  | none => stop - overlap

/-- What a round of the loop comes to: its ranges, or a start for the next round.  The ranges have
the last one first. -/
inductive Round where
  | finished (ranges : List Range)
  | next (start : Int) (ranges : List Range)

/-- The end of a round, which notes its range. -/
def noteRange (text : Text) (config : ChunkConfig) (ranges : List Range) (range : Range) : Round :=
  if range.stop = text.length then .finished (range :: ranges)
  else .next (nextStart text config range.stop) (range :: ranges)

/-- A round of the loop. -/
def round (text : Text) (config : ChunkConfig) (start : Int) (ranges : List Range) : Round :=
  let (stop, forced) := stopOf text config start
  match ranges with
  | [] => noteRange text config [] ⟨start, stop, forced⟩
  | previous :: earlier =>
      if stop - start < config.minimumCharacters then
        -- too short: it joins the range before it, or reaches back into it
        if stop - previous.start ≤ config.maximumCharacters then
          .finished (⟨previous.start, stop, previous.forced || forced⟩ :: earlier)
        else noteRange text config (previous :: earlier)
          ⟨max (previous.start + 1) (stop - config.minimumCharacters), stop, forced⟩
      else noteRange text config (previous :: earlier) ⟨start, stop, forced⟩

/-- The loop of `_ranges`, with fuel. -/
def rangesFrom (text : Text) (config : ChunkConfig) : Nat → Int → List Range → Option (List Range)
  | 0, _, _ => none
  | fuel + 1, start, ranges =>
      if start < text.length then
        match round text config start ranges with
        | .finished ranges => some ranges.reverse
        | .next start ranges => rangesFrom text config fuel start ranges
      else some ranges.reverse

/-- `_ranges`, with fuel. -/
def ranges (fuel : Nat) (text : Text) (config : ChunkConfig) : Option (List Range) :=
  if text.length ≤ config.maximumCharacters then some [⟨0, text.length, false⟩]
  else rangesFrom text config fuel 0 []

/-! ### When the loop returns -/

section Ranges

variable {text : Text} {config : ChunkConfig}

lemma lastBoundaryFrom_eq_some {lower b : Int} {k : Nat} :
    lastBoundaryFrom text lower k = some b ↔ lower < b ∧ b ≤ lower + k ∧
      spaceAt text (b - 1) = true ∧ ∀ i, b ≤ i → i < lower + k → spaceAt text i = false := by
  induction k with
  | zero =>
      simp only [lastBoundaryFrom, reduceCtorEq, false_iff]
      rintro ⟨hlower, hupper, -⟩
      omega
  | succ k ih =>
      by_cases hspace : spaceAt text (lower + k) = true
      · simp only [lastBoundaryFrom, hspace, if_true, Option.some.injEq]
        constructor
        · rintro rfl
          refine ⟨by omega, by omega, by simpa using hspace, ?_⟩
          intro i hi hlt
          omega
        · rintro ⟨hlower, hupper, hb, hrest⟩
          by_contra hne
          have hfalse := hrest (lower + k) (by omega) (by omega)
          simp [hspace] at hfalse
      · simp only [lastBoundaryFrom, hspace, if_false, Bool.false_eq_true, ih]
        rw [Bool.not_eq_true] at hspace
        constructor
        · rintro ⟨hlower, hupper, hb, hrest⟩
          refine ⟨hlower, by omega, hb, ?_⟩
          intro i hi hlt
          by_cases hik : i = lower + k
          · rw [hik, hspace]
          · exact hrest i hi (by omega)
        · rintro ⟨hlower, hupper, hb, hrest⟩
          have hne : b - 1 ≠ lower + k := by
            intro heq
            simp [heq, hspace] at hb
          exact ⟨hlower, by omega, hb, fun i hi hlt => hrest i hi (by omega)⟩

/-- The last boundary follows a white space, and none follows it. -/
lemma lastBoundary_eq_some {lower upper b : Int} :
    lastBoundary text lower upper = some b ↔ lower < b ∧ b ≤ upper ∧
      spaceAt text (b - 1) = true ∧ ∀ i, b ≤ i → i < upper → spaceAt text i = false := by
  rw [lastBoundary, lastBoundaryFrom_eq_some]
  constructor
  · rintro ⟨hlower, hupper, hb, hrest⟩
    exact ⟨hlower, by omega, hb, fun i hi hlt => hrest i hi (by omega)⟩
  · rintro ⟨hlower, hupper, hb, hrest⟩
    exact ⟨hlower, by omega, hb, fun i hi hlt => hrest i hi (by omega)⟩

lemma lt_of_firstBoundaryFrom {index b : Int} {k : Nat}
    (h : firstBoundaryFrom text index k = some b) : index < b := by
  induction k generalizing index with
  | zero => simp [firstBoundaryFrom] at h
  | succ k ih =>
      simp only [firstBoundaryFrom] at h
      split at h
      · simp only [Option.some.injEq] at h
        omega
      · have := ih h
        omega

/-- The next range reaches back by a fifth of the target at most. -/
lemma le_nextStart (text : Text) (config : ChunkConfig) (stop : Int) :
    stop - (config.targetCharacters / 5 : Nat) ≤ nextStart text config stop := by
  have hoverlap := config.overlap_le
  simp only [nextStart]
  split
  · next b hb =>
      have := lt_of_firstBoundaryFrom hb
      split <;> omega
  · omega

/-- **A round either takes what is left, or stops at a boundary, or is cut off.** -/
lemma stopOf_cases (text : Text) (config : ChunkConfig) (start : Int) :
    (text.length - start ≤ config.maximumCharacters ∧
      stopOf text config start = ((text.length : Int), false)) ∨
    (config.maximumCharacters < text.length - start ∧ ∃ stop,
      lastBoundary text (start + config.minimumCharacters) (start + config.targetCharacters) =
        some stop ∧ stopOf text config start = (stop, false)) ∨
    (config.maximumCharacters < text.length - start ∧
      lastBoundary text (start + config.minimumCharacters) (start + config.targetCharacters) =
        none ∧ stopOf text config start = (start + config.maximumCharacters, true)) := by
  have hminimum := config.minimum_le
  have htarget := config.target_le
  by_cases hshort : (text.length : Int) - start ≤ config.maximumCharacters
  · exact Or.inl ⟨hshort, by simp [stopOf, hshort]⟩
  · have hupper : min (start + config.targetCharacters) (text.length : Int) =
        start + config.targetCharacters := by omega
    have hlower : min (start + config.minimumCharacters) (start + config.targetCharacters) =
        start + (config.minimumCharacters : Int) := by omega
    have hcut : min (start + config.maximumCharacters) (text.length : Int) =
        start + config.maximumCharacters := by omega
    right
    simp only [stopOf, hshort, if_false, hupper, hlower, hcut]
    rcases hb : lastBoundary text (start + config.minimumCharacters)
        (start + config.targetCharacters) with _ | stop
    · exact Or.inr ⟨by omega, rfl, rfl⟩
    · exact Or.inl ⟨by omega, stop, rfl, rfl⟩

/-- A round that is led back to its start or before it cuts the same range again. -/
lemma round_stuck {start stop : Int}
    (hlong : config.maximumCharacters < text.length - start)
    (hstop : lastBoundary text (start + config.minimumCharacters)
      (start + config.targetCharacters) = some stop)
    (hback : nextStart text config stop ≤ start) (ranges : List Range) :
    round text config (nextStart text config stop) ranges =
      .next (nextStart text config stop) (⟨nextStart text config stop, stop, false⟩ :: ranges) := by
  have hahead := le_nextStart text config stop
  have hminimum := config.minimum_le
  have htarget := config.target_le
  have hfifth : config.targetCharacters / 5 ≤ config.targetCharacters := Nat.div_le_self _ _
  rcases lastBoundary_eq_some.mp hstop with ⟨hlower, hupper, hspace, hrest⟩
  have hagain : lastBoundary text (nextStart text config stop + config.minimumCharacters)
      (nextStart text config stop + config.targetCharacters) = some stop := by
    refine lastBoundary_eq_some.mpr ⟨by omega, by omega, hspace, ?_⟩
    intro i hi hlt
    exact hrest i hi (by omega)
  have hsame : stopOf text config (nextStart text config stop) = (stop, false) := by
    rcases stopOf_cases text config (nextStart text config stop) with
      ⟨hshort, -⟩ | ⟨-, stop', hstop', heq⟩ | ⟨-, hnone, -⟩
    · omega
    · rw [hagain, Option.some.injEq] at hstop'
      rw [heq, hstop']
    · rw [hagain] at hnone
      cases hnone
  have hlength : ¬ stop - nextStart text config stop < config.minimumCharacters := by omega
  have hend : stop ≠ text.length := by omega
  cases ranges <;> simp [round, hsame, noteRange, hlength, hend]

/-- A loop whose round comes back to the same start does not return. -/
lemma rangesFrom_stuck {start : Int} (hstart : start < text.length)
    (hround : ∀ ranges, ∃ ranges', round text config start ranges = .next start ranges')
    (fuel : Nat) (ranges : List Range) : rangesFrom text config fuel start ranges = none := by
  induction fuel generalizing ranges with
  | zero => rfl
  | succ fuel ih =>
      rcases hround ranges with ⟨ranges', hnext⟩
      simp [rangesFrom, hstart, hnext, ih]

/-- A range inside a text, neither empty nor too long. -/
structure Range.Fits (text : Text) (config : ChunkConfig) (range : Range) : Prop where
  start : 0 ≤ range.start
  lt : range.start < range.stop
  stop : range.stop ≤ text.length
  short : range.stop - range.start ≤ config.maximumCharacters

/-- Where a round stops is further on, inside the text and not too far. -/
lemma fits_stopOf (config : ChunkConfig) {start : Int} (h₀ : 0 ≤ start) (hstart : start < text.length) (forced : Bool) :
    Range.Fits text config ⟨start, (stopOf text config start).1, forced⟩ := by
  have htarget := config.target_le
  have hmaximum := config.maximum_ok.1
  rcases stopOf_cases text config start with ⟨hshort, heq⟩ | ⟨hlong, stop, hstop, heq⟩ |
    ⟨hlong, -, heq⟩
  · rw [heq]
    exact ⟨h₀, hstart, le_rfl, hshort⟩
  · rcases lastBoundary_eq_some.mp hstop with ⟨hlower, hupper, -, -⟩
    rw [heq]
    exact ⟨h₀, by dsimp only; omega, by dsimp only; omega, by dsimp only; omega⟩
  · rw [heq]
    exact ⟨h₀, by dsimp only; omega, by dsimp only; omega, by dsimp only; omega⟩

/-- A range shorter than the minimum is the last one. -/
lemma stopOf_of_short {start : Int}
    (hshort : (stopOf text config start).1 - start < config.minimumCharacters) :
    stopOf text config start = ((text.length : Int), false) := by
  have hminimum := config.minimum_le
  have htarget := config.target_le
  rcases stopOf_cases text config start with ⟨-, heq⟩ | ⟨-, stop, hstop, heq⟩ | ⟨-, -, heq⟩
  · exact heq
  · rcases lastBoundary_eq_some.mp hstop with ⟨hlower, -⟩
    simp only [heq] at hshort
    omega
  · simp only [heq] at hshort
    omega

/-- **What a round does.**  It ends the loop, or it goes on after a stop that is not the end of the
text; its ranges fit if those before it do. -/
lemma round_cases {start : Int} {ranges : List Range} (h₀ : 0 ≤ start) (hstart : start < text.length)
    (hfits : ∀ r ∈ ranges, r.Fits text config) :
    ∃ ranges' : List Range, (∀ r ∈ ranges', r.Fits text config) ∧
      (round text config start ranges = .finished ranges' ∨
        round text config start ranges =
          .next (nextStart text config (stopOf text config start).1) ranges' ∧
          (stopOf text config start).1 ≠ text.length) := by
  have hnew := fits_stopOf config h₀ hstart (stopOf text config start).2
  by_cases hlong : ranges = [] ∨
      ¬ (stopOf text config start).1 - start < config.minimumCharacters
  · -- the range is noted as it is
    refine ⟨_, List.forall_mem_cons.mpr ⟨hnew, hfits⟩, ?_⟩
    have hround : round text config start ranges = noteRange text config ranges
        ⟨start, (stopOf text config start).1, (stopOf text config start).2⟩ := by
      cases ranges with
      | nil => rfl
      | cons previous earlier =>
          have hlong : ¬ (stopOf text config start).1 - start < config.minimumCharacters := by
            simpa using hlong
          simp [round, hlong]
    rw [hround, noteRange]
    split
    · exact Or.inl rfl
    · exact Or.inr ⟨rfl, by assumption⟩
  · rw [not_or, not_not] at hlong
    rcases hlong with ⟨hsome, hshort⟩
    have hend := stopOf_of_short hshort
    have hminimum := config.minimum_le
    have htarget := config.target_le
    have hpositive := config.minimum_ok.1
    cases ranges with
    | nil => exact absurd rfl hsome
    | cons previous earlier =>
        rcases List.forall_mem_cons.mp hfits with ⟨hprevious, hearlier⟩
        have hpstart := hprevious.start
        have hplt := hprevious.lt
        have hpstop := hprevious.stop
        simp only [hend] at hshort
        by_cases hjoin : (text.length : Int) - previous.start ≤ config.maximumCharacters
        · refine ⟨⟨previous.start, text.length, previous.forced⟩ :: earlier, ?_, ?_⟩
          · refine List.forall_mem_cons.mpr ⟨⟨hpstart, ?_, le_rfl, hjoin⟩, hearlier⟩
            exact lt_of_lt_of_le hplt hpstop
          · exact Or.inl (by simp [round, hend, hshort, hjoin])
        · refine ⟨⟨max (previous.start + 1) (text.length - config.minimumCharacters), text.length,
            false⟩ :: previous :: earlier, ?_, ?_⟩
          · refine List.forall_mem_cons.mpr ⟨⟨?_, ?_, le_rfl, ?_⟩, hfits⟩ <;> dsimp only <;> omega
          · exact Or.inl (by simp [round, hend, hshort, hjoin, noteRange])

/-- A round that goes on starts the next one further on, or the loop does not return. -/
lemma stuck_or_lt {start : Int} (hstart : start < text.length)
    (hend : (stopOf text config start).1 ≠ text.length) :
    start < nextStart text config (stopOf text config start).1 ∨ ∀ fuel ranges,
      rangesFrom text config fuel (nextStart text config (stopOf text config start).1) ranges =
        none := by
  have hmaximum := config.maximum_ok.1
  have htarget := config.target_le
  rcases stopOf_cases text config start with ⟨-, heq⟩ | ⟨hlong, stop, hstop, heq⟩ |
    ⟨hlong, -, heq⟩
  · simp [heq] at hend
  · rw [heq]
    dsimp only
    by_cases hback : nextStart text config stop ≤ start
    · exact Or.inr (rangesFrom_stuck (by omega) fun ranges => ⟨_, round_stuck hlong hstop hback ranges⟩)
    · exact Or.inl (by omega)
  · have hahead := le_nextStart text config (start + config.maximumCharacters)
    rw [heq]
    exact Or.inl (by dsimp only; omega)

/-- When the loop returns, its ranges fit if those it started with do. -/
lemma fits_of_rangesFrom {fuel : Nat} {start : Int} {noted result : List Range} (h₀ : 0 ≤ start)
    (hnoted : ∀ r ∈ noted, r.Fits text config)
    (h : rangesFrom text config fuel start noted = some result) :
    ∀ r ∈ result, r.Fits text config := by
  induction fuel generalizing start noted with
  | zero => simp [rangesFrom] at h
  | succ fuel ih =>
      simp only [rangesFrom] at h
      split at h
      · next hstart =>
        rcases round_cases h₀ hstart hnoted with ⟨ranges', hfits, hround | ⟨hround, hend⟩⟩
        · simp only [hround, Option.some.injEq] at h
          rw [← h]
          simpa using hfits
        · simp only [hround] at h
          rcases stuck_or_lt hstart hend with hlt | hstuck
          · exact ih (by omega) hfits h
          · rw [hstuck] at h
            cases h
      · simp only [Option.some.injEq] at h
        rw [← h]
        simpa using hnoted

/-- **When `_ranges` returns, its ranges fit.** -/
theorem fits_of_ranges {fuel : Nat} {result : List Range} (htext : text ≠ [])
    (h : ranges fuel text config = some result) : ∀ r ∈ result, r.Fits text config := by
  have hpositive := List.length_pos_of_ne_nil htext
  unfold ranges at h
  split at h
  · next hshort =>
    cases h
    simp only [List.mem_singleton, forall_eq]
    exact ⟨le_rfl, by dsimp only; omega, le_rfl, by dsimp only; omega⟩
  · exact fits_of_rangesFrom le_rfl (by simp) h

lemma noteRange_ne_nil {noted : List Range} {range : Range} :
    (∀ result, noteRange text config noted range = .finished result → result ≠ []) ∧
      ∀ start result, noteRange text config noted range = .next start result → result ≠ [] := by
  unfold noteRange
  split
  · simp
  · simp

/-- Every round notes a range. -/
lemma round_ne_nil {start : Int} {noted : List Range} :
    (∀ result, round text config start noted = .finished result → result ≠ []) ∧
      ∀ start' result, round text config start noted = .next start' result → result ≠ [] := by
  unfold round
  cases noted with
  | nil => exact noteRange_ne_nil
  | cons previous earlier =>
      dsimp only
      split_ifs
      · simp
      · exact noteRange_ne_nil
      · exact noteRange_ne_nil

lemma rangesFrom_ne_nil {fuel : Nat} {start : Int} {noted result : List Range}
    (hstart : noted ≠ [] ∨ start < text.length)
    (h : rangesFrom text config fuel start noted = some result) : result ≠ [] := by
  induction fuel generalizing start noted with
  | zero => simp [rangesFrom] at h
  | succ fuel ih =>
      simp only [rangesFrom] at h
      split at h
      · cases hround : round text config start noted with
        | finished ranges' =>
            simp only [hround, Option.some.injEq] at h
            have hne := round_ne_nil.1 ranges' hround
            simpa [← h] using hne
        | next start' ranges' =>
            simp only [hround] at h
            exact ih (Or.inl (round_ne_nil.2 start' ranges' hround)) h
      · next hend =>
        simp only [Option.some.injEq] at h
        have hne := hstart.resolve_right hend
        simpa [← h] using hne

/-- A text is not cut into nothing. -/
lemma ranges_ne_nil {fuel : Nat} {result : List Range}
    (h : ranges fuel text config = some result) : result ≠ [] := by
  unfold ranges at h
  split at h
  · cases h
    simp
  · exact rangesFrom_ne_nil (Or.inr (by omega)) h

/-- More fuel does not change what the loop returns. -/
lemma rangesFrom_mono {fuel fuel' : Nat} {start : Int} {noted result : List Range}
    (hle : fuel ≤ fuel') (h : rangesFrom text config fuel start noted = some result) :
    rangesFrom text config fuel' start noted = some result := by
  induction fuel generalizing fuel' start noted with
  | zero => simp [rangesFrom] at h
  | succ fuel ih =>
      cases fuel' with
      | zero => omega
      | succ fuel' =>
          simp only [rangesFrom] at h ⊢
          split at h
          · next hstart =>
            rw [if_pos hstart]
            cases hround : round text config start noted with
            | finished ranges' => simpa [hround] using h
            | next start' ranges' =>
                simp only [hround] at h ⊢
                exact ih (by omega) h
          · next hstart =>
            rw [if_neg hstart]
            exact h

lemma ranges_mono {fuel fuel' : Nat} {result : List Range} (hle : fuel ≤ fuel')
    (h : ranges fuel text config = some result) : ranges fuel' text config = some result := by
  unfold ranges at h ⊢
  split at h
  · next hshort => rwa [if_pos hshort]
  · next hlong =>
    rw [if_neg hlong]
    exact rangesFrom_mono hle h

end Ranges

/-! ## Segments -/

/-- `_Segment`, with its place in the document in a locator that has no offsets. -/
structure Segment where
  start : Int
  stop : Int
  locatorType : LocatorType
  contentKind : ContentKind
  sectionPath : Option String
  htmlAnchor : Option String
  jsonPointer : Option String
  startPage : Option Int
  endPage : Option Int
deriving DecidableEq

/-- The segment of a page, unless the page is empty. -/
def pageSegment (page : ParsedPage × Nat × Nat) : Option Segment :=
  if page.2.1 < page.2.2 then some {
    start := page.2.1
    stop := page.2.2
    locatorType := .pdfPageRange
    contentKind := .text
    sectionPath := none
    htmlAnchor := none
    jsonPointer := none
    startPage := some (page.1.1.pageNumber : Int)
    endPage := some (page.1.1.pageNumber : Int) }
  else none

def sectionSegment (s : ParsedSection) : Option Segment :=
  match s.1.startOffset, s.1.endOffset with
  | some start, some stop =>
      if start < stop then some {
        start := start
        stop := stop
        locatorType := s.1.locatorType
        contentKind := s.1.contentKind
        sectionPath := some s.1.sectionPath
        htmlAnchor := if s.1.locatorType = .htmlAnchorRange then some s.1.sectionPath else none
        jsonPointer := if s.1.locatorType = .jsonPointer then some s.1.sectionPath else none
        startPage := s.1.startPage
        endPage := s.1.endPage }
      else none
  | _, _ => none

/-- The segment of a document without pages and sections. -/
def wholeSegment (text : Text) : Segment where
  start := 0
  stop := text.length
  locatorType := .textOffsetRange
  contentKind := .text
  sectionPath := none
  htmlAnchor := none
  jsonPointer := none
  startPage := none
  endPage := none

def segments (parsed : ParsedDocument) : List Segment :=
  if parsed.pages ≠ [] then (laidOut (·.1.text) 3 0 parsed.pages).filterMap pageSegment
  else if parsed.sections ≠ [] then parsed.sections.filterMap sectionSegment
  else [wholeSegment parsed.canonicalText]

/-! ## Drafts -/

/-- `[\u3400-\u9fff]` -/
def isCjk (c : Char) : Bool := 0x3400 ≤ c.toNat && c.toNat ≤ 0x9fff

/-- `[A-Za-z0-9]` -/
def isWordChar (c : Char) : Bool := c.isAlphanum

/-- Where a scan for tokens stands: outside of a word, in one, or after a sign inside one. -/
inductive TokenScan where
  | outside | word | joint
deriving DecidableEq

/-- The number of tokens that start from here on. -/
def tokensFrom : TokenScan → Text → Nat
  | _, [] => 0
  | scan, c :: cs =>
      if isWordChar c then (if scan = .outside then 1 else 0) + tokensFrom .word cs
      else if scan = .word ∧ c ∈ ['.', ':', '%', '-'] then tokensFrom .joint cs
      else if isCjk c then 1 + tokensFrom .outside cs
      else tokensFrom .outside cs

/-- `len(_TOKEN.findall(text))` -/
def tokenCount (text : Text) : Nat := tokensFrom .outside text

def language (text : Text) : DocumentLanguage :=
  if text.any isCjk then if text.any Char.isAlpha then .mixed else .zhCn
  else if text.any Char.isAlpha then .enUs
  else .unknown

def jsonInt : Option Int → PyJson.Value
  | some n => .int n
  | none => .null

def jsonStr : Option String → PyJson.Value
  | some s => .str s
  | none => .null

/-- `config.model_dump(mode="json")` -/
def ChunkConfig.payload (config : ChunkConfig) : PyJson.Value := .obj [
  ("chunk_version", .str config.chunkVersion),
  ("target_characters", .int config.targetCharacters),
  ("maximum_characters", .int config.maximumCharacters),
  ("minimum_characters", .int config.minimumCharacters),
  ("overlap_characters", .int config.overlapCharacters)]

/-- What the checksum of a chunk is taken of. -/
def descriptor (parsed : ParsedDocument) (config : ChunkConfig) (segment : Segment)
    (index : Nat) (start stop : Int) (text : Text) : PyJson.Value := .obj [
  ("canonical_text_checksum", .str parsed.canonicalTextChecksum),
  ("parser_metadata", .obj (parsed.parserMetadata.map fun f => (f.1, .str f.2))),
  ("chunk_config", config.payload),
  ("chunk_version", .str config.chunkVersion),
  ("chunk_index", .int index),
  ("locator_type", .str segment.locatorType.value),
  ("section_path", jsonStr segment.sectionPath),
  ("html_anchor", jsonStr segment.htmlAnchor),
  ("json_pointer", jsonStr segment.jsonPointer),
  ("start_page", jsonInt segment.startPage),
  ("end_page", jsonInt segment.endPage),
  ("start_offset", .int start),
  ("end_offset", .int stop),
  ("text", .str (String.ofList text))]

section Chunk

variable (folding : Folding) (hash : PyJson.IdealHash) (parsed : ParsedDocument)
  (config : ChunkConfig)

def draftFields (segment : Segment) (range : Range) (index : Nat) : ChunkFields :=
  let start := segment.start + range.start
  let stop := segment.start + range.stop
  let text := slice parsed.canonicalText start stop
  { chunkVersion := config.chunkVersion
    chunkIndex := index
    text := text
    normalizedText := folding.normalize text
    language := language text
    contentKind := segment.contentKind
    sectionPath := segment.sectionPath
    locator := {
      locatorType := segment.locatorType
      startPage := segment.startPage
      endPage := segment.endPage
      htmlAnchor := segment.htmlAnchor
      jsonPointer := segment.jsonPointer
      startOffset := some start
      endOffset := some stop }
    tokenCount := tokenCount text
    checksum := hash.digest
      (PyJson.asciiText (descriptor parsed config segment index start stop text))
    warnings := if range.forced then ["FORCED_TOKEN_SPLIT"] else [] }

/-- Why there are no chunks: the loop of `_ranges` has not returned, or a draft was refused. -/
inductive ChunkError where
  | running
  | invalid (field : String)

/-- `DocumentChunkDraft(…)` for one range of a segment, after the results so far. -/
def addDraft (results : List DocumentChunkDraft) (piece : Segment × Range) :
    Except ChunkError (List DocumentChunkDraft) :=
  match Checked.validated ChunkFields.validate
      (draftFields folding hash parsed config piece.1 piece.2 results.length) with
  | .ok draft => .ok (results ++ [draft])
  | .error field => .error (.invalid field)

/-- The drafts of one segment, after the results so far. -/
def addSegment (fuel : Nat) (results : List DocumentChunkDraft) (segment : Segment) :
    Except ChunkError (List DocumentChunkDraft) :=
  match ranges fuel (slice parsed.canonicalText segment.start segment.stop) config with
  | none => .error .running
  | some ranges => (ranges.map (segment, ·)).foldlM (addDraft folding hash parsed config) results

/-- `DocumentChunker.chunk` -/
def chunk (fuel : Nat) : Except ChunkError (List DocumentChunkDraft) :=
  if parsed.canonicalText = [] then .ok []
  else (segments parsed).foldlM (addSegment folding hash parsed config fuel) []

end Chunk

/-! ## What the chunker returns -/

section Returned

variable {folding : Folding} {hash : PyJson.IdealHash} {parsed : ParsedDocument}
  {config : ChunkConfig} {fuel : Nat}

/-- The ranges of a segment, each with the segment. -/
def piecesOf (parsed : ParsedDocument) (config : ChunkConfig) (fuel : Nat) (segment : Segment) :
    List (Segment × Range) :=
  ((ranges fuel (slice parsed.canonicalText segment.start segment.stop) config).getD []).map
    (segment, ·)

/-- Every piece that a document is cut into, in order. -/
def pieces (parsed : ParsedDocument) (config : ChunkConfig) (fuel : Nat) : List (Segment × Range) :=
  (segments parsed).flatMap (piecesOf parsed config fuel)

/-- The range computation terminates on every segment, with so much fuel. -/
def Cut (parsed : ParsedDocument) (config : ChunkConfig) (fuel : Nat) : Prop :=
  ∀ segment ∈ segments parsed,
    (ranges fuel (slice parsed.canonicalText segment.start segment.stop) config).isSome

/-- The fields of the draft of a piece with its index. -/
def fieldsOf (folding : Folding) (hash : PyJson.IdealHash) (parsed : ParsedDocument)
    (config : ChunkConfig) (piece : (Segment × Range) × Nat) : ChunkFields :=
  draftFields folding hash parsed config piece.1.1 piece.1.2 piece.2

lemma foldlM_addDraft {ps : List (Segment × Range)} {results drafts : List DocumentChunkDraft} :
    ps.foldlM (addDraft folding hash parsed config) results = .ok drafts ↔
      drafts.map (·.1) = results.map (·.1) ++
        (ps.zipIdx results.length).map (fieldsOf folding hash parsed config) := by
  induction ps generalizing results with
  | nil =>
      have hinj : Function.Injective fun d : DocumentChunkDraft => d.1 := Subtype.val_injective
      simp only [List.foldlM_nil, List.zipIdx_nil, List.map_nil, List.append_nil,
        hinj.list_map.eq_iff]
      constructor
      · intro h
        cases h
        rfl
      · rintro rfl
        rfl
  | cons piece ps ih =>
      rw [List.foldlM_cons, Checked.bind_ok]
      constructor
      · rintro ⟨results', hadd, hrest⟩
        unfold addDraft at hadd
        split at hadd
        · next draft hdraft =>
          cases hadd
          rw [ih] at hrest
          rw [Checked.validated_ok] at hdraft
          simp [hrest, hdraft, List.zipIdx_cons, fieldsOf]
        · cases hadd
      · intro hmap
        have hmem : fieldsOf folding hash parsed config (piece, results.length) ∈
            drafts.map (·.1) := by
          rw [hmap]
          simp [List.zipIdx_cons]
        rcases List.mem_map.mp hmem with ⟨draft, -, hdraft⟩
        refine ⟨results ++ [draft], ?_, ?_⟩
        · simp only [fieldsOf] at hdraft
          unfold addDraft
          rw [Checked.validated_ok.mpr hdraft]
        · rw [ih, hmap]
          simp [List.zipIdx_cons, hdraft]

lemma foldlM_addSegment {segs : List Segment} {results drafts : List DocumentChunkDraft} :
    segs.foldlM (addSegment folding hash parsed config fuel) results = .ok drafts ↔
      (∀ segment ∈ segs,
        (ranges fuel (slice parsed.canonicalText segment.start segment.stop) config).isSome) ∧
      (segs.flatMap (piecesOf parsed config fuel)).foldlM (addDraft folding hash parsed config)
        results = .ok drafts := by
  induction segs generalizing results with
  | nil => simp
  | cons segment segs ih =>
      rw [List.foldlM_cons, List.flatMap_cons, List.foldlM_append, Checked.bind_ok]
      rcases hranges : ranges fuel (slice parsed.canonicalText segment.start segment.stop) config
        with _ | rs
      · simp [addSegment, hranges]
      · simp only [addSegment, hranges, ih, List.forall_mem_cons, Option.isSome_some, true_and,
          piecesOf, Option.getD_some, Checked.bind_ok]
        constructor
        · rintro ⟨results', hhead, hsome, htail⟩
          exact ⟨hsome, results', hhead, htail⟩
        · rintro ⟨hsome, results', hhead, htail⟩
          exact ⟨results', hhead, hsome, htail⟩

/-- **What `chunk` returns**: the drafts of the pieces, numbered in order. -/
theorem chunk_ok {drafts : List DocumentChunkDraft} (htext : parsed.canonicalText ≠ []) :
    chunk folding hash parsed config fuel = .ok drafts ↔
      Cut parsed config fuel ∧
        drafts.map (·.1) =
          (pieces parsed config fuel).zipIdx.map (fieldsOf folding hash parsed config) := by
  rw [chunk, if_neg htext, foldlM_addSegment, foldlM_addDraft]
  simp [Cut, pieces]

lemma exists_piece_of_mem_chunk {drafts : List DocumentChunkDraft}
    (h : chunk folding hash parsed config fuel = .ok drafts) {draft : DocumentChunkDraft}
    (hdraft : draft ∈ drafts) :
    ∃ piece ∈ pieces parsed config fuel, ∃ index,
      draft.1 = draftFields folding hash parsed config piece.1 piece.2 index := by
  by_cases htext : parsed.canonicalText = []
  · simp only [chunk, htext, if_true, Except.ok.injEq] at h
    rw [← h] at hdraft
    cases hdraft
  · have hmem := List.mem_map_of_mem (f := fun d : DocumentChunkDraft => d.1) hdraft
    rw [((chunk_ok htext).mp h).2] at hmem
    rcases List.mem_map.mp hmem with ⟨⟨piece, index⟩, hpiece, heq⟩
    exact ⟨piece, List.fst_mem_of_mem_zipIdx hpiece, index, heq.symm⟩

lemma exists_mem_chunk_of_piece (htext : parsed.canonicalText ≠ [])
    {drafts : List DocumentChunkDraft} (h : chunk folding hash parsed config fuel = .ok drafts)
    {piece : Segment × Range} (hpiece : piece ∈ pieces parsed config fuel) :
    ∃ draft ∈ drafts, ∃ index,
      draft.1 = draftFields folding hash parsed config piece.1 piece.2 index := by
  rw [← List.zipIdx_map_fst 0 (pieces parsed config fuel)] at hpiece
  rcases List.mem_map.mp hpiece with ⟨⟨piece, index⟩, hindex, rfl⟩
  have hmem := List.mem_map_of_mem (f := fieldsOf folding hash parsed config) hindex
  rw [← ((chunk_ok htext).mp h).2] at hmem
  rcases List.mem_map.mp hmem with ⟨draft, hdraft, heq⟩
  exact ⟨draft, hdraft, index, heq⟩

/-- What is checked of a draft does not depend on its index. -/
lemma validate_draftFields (segment : Segment) (range : Range) (index : Nat) :
    (draftFields folding hash parsed config segment range index).validate =
      (draftFields folding hash parsed config segment range 0).validate := rfl

/-- The chunker returns, exactly when every piece makes a draft. -/
lemma exists_chunk_iff (htext : parsed.canonicalText ≠ []) (hcut : Cut parsed config fuel) :
    (∃ drafts, chunk folding hash parsed config fuel = .ok drafts) ↔
      ∀ piece ∈ pieces parsed config fuel,
        (draftFields folding hash parsed config piece.1 piece.2 0).validate = .ok () := by
  constructor
  · rintro ⟨drafts, hchunk⟩ piece hpiece
    rcases exists_mem_chunk_of_piece htext hchunk hpiece with ⟨draft, -, index, heq⟩
    rw [← validate_draftFields _ _ index, ← heq]
    exact draft.2
  · intro hvalid
    simp only [chunk_ok htext, hcut, true_and]
    have hfields : ∀ f ∈ (pieces parsed config fuel).zipIdx.map (fieldsOf folding hash parsed config),
        f.validate = .ok () := by
      intro f hf
      rcases List.mem_map.mp hf with ⟨⟨piece, index⟩, hindex, rfl⟩
      rw [fieldsOf, validate_draftFields]
      exact hvalid piece (List.fst_mem_of_mem_zipIdx hindex)
    exact ⟨List.attachWith _ _ hfields, by simp⟩

end Returned

end StockResearch.Documents
