import StockResearch.Documents.Chunking
import Mathlib.Data.List.Chain

/-!
# What the loop of `_ranges` guarantees

**Progress.**  A round that stops behind a white space can be led back: its overlap reaches back to
where it started, and the first white space in the overlap is before that start, or there is none
but the one it stopped behind (`LedBack`).  Such a round cuts its range again without end, with a
start that may be negative.  While no round is led back, every start is further on than the one
before, and so is every stop: a stop that were no further on would lead the next round back
(`nextStart_mono`).

* **`loopProgress_iff`**: the loop ends, with growing stops and all starts inside the text, exactly
  when no round that it comes to is led back.

**Coverage.**  A loop that returns was never led back, so its ranges follow one another.

* **`rangesCover`**: they cover the text in order, each within the limits, and they overlap by no
  more than the overlap, except for a last range that had to be extended to the minimum.
-/

namespace StockResearch.Documents

open PyText Slice

variable {text : Text} {config : ChunkConfig}

/-! ## Where the next round starts -/

lemma firstBoundaryFrom_eq_some {index b : Int} {k : Nat} :
    firstBoundaryFrom text index k = some b ↔ index < b ∧ b ≤ index + k ∧
      spaceAt text (b - 1) = true ∧ ∀ i, index ≤ i → i < b - 1 → spaceAt text i = false := by
  induction k generalizing index with
  | zero =>
      simp only [firstBoundaryFrom, reduceCtorEq, false_iff]
      rintro ⟨hlower, hupper, -⟩
      omega
  | succ k ih =>
      rw [firstBoundaryFrom]
      split_ifs with hspace
      · rw [Option.some.injEq]
        constructor
        · rintro rfl
          exact ⟨by omega, by omega, by rwa [Int.add_sub_cancel], fun i hi hlt => by omega⟩
        · rintro ⟨hlower, hupper, hb, hrest⟩
          by_contra hne
          have hfalse := hrest index le_rfl (by omega)
          rw [hspace] at hfalse
          cases hfalse
      · rw [Bool.not_eq_true] at hspace
        rw [ih]
        constructor
        · rintro ⟨hlower, hupper, hb, hrest⟩
          refine ⟨by omega, by omega, hb, fun i hi hlt => ?_⟩
          rcases hi.eq_or_lt with rfl | hi
          · exact hspace
          · exact hrest i (by omega) hlt
        · rintro ⟨hlower, hupper, hb, hrest⟩
          have hne : b - 1 ≠ index := by
            intro heq
            rw [heq, hspace] at hb
            cases hb
          exact ⟨by omega, by omega, hb, fun i hi hlt => hrest i (by omega) hlt⟩

lemma firstBoundaryFrom_eq_none {index : Int} {k : Nat} :
    firstBoundaryFrom text index k = none ↔
      ∀ i, index ≤ i → i < index + k → spaceAt text i = false := by
  induction k generalizing index with
  | zero =>
      refine iff_of_true rfl fun i hi hlt => ?_
      omega
  | succ k ih =>
      rw [firstBoundaryFrom]
      split_ifs with hspace
      · refine iff_of_false (by simp) fun hnone => ?_
        rw [hnone index le_rfl (by omega)] at hspace
        cases hspace
      · rw [Bool.not_eq_true] at hspace
        rw [ih]
        constructor
        · intro h i hi hlt
          rcases hi.eq_or_lt with rfl | hi
          · exact hspace
          · exact h i (by omega) (by omega)
        · exact fun h i hi hlt => h i (by omega) (by omega)

/-- White space in the overlap before a stop that does not lead to the stop itself. -/
def Opens (text : Text) (config : ChunkConfig) (stop i : Int) : Prop :=
  stop - config.overlapCharacters ≤ i ∧ 0 ≤ i ∧ i + 1 < stop ∧ spaceAt text i = true

/-- **Where the next round starts**: behind the first white space in the overlap, or where the
overlap starts. -/
lemma nextStart_cases (text : Text) (config : ChunkConfig) (stop : Int) :
    (∃ i, Opens text config stop i ∧ (∀ j, Opens text config stop j → i ≤ j) ∧
      nextStart text config stop = i + 1) ∨
    (∀ i, ¬ Opens text config stop i) ∧
      nextStart text config stop = stop - config.overlapCharacters := by
  have hoverlap : ((min config.overlapCharacters (config.targetCharacters / 5) : Nat) : Int) =
      config.overlapCharacters := by
    rw [min_eq_left config.overlap_le]
  simp only [nextStart, firstBoundary, hoverlap]
  cases hfirst : firstBoundaryFrom text (max (stop - config.overlapCharacters) 0)
      (stop - max (stop - config.overlapCharacters) 0).toNat with
  | none =>
      rw [firstBoundaryFrom_eq_none] at hfirst
      refine Or.inr ⟨?_, rfl⟩
      rintro i ⟨hlower, hzero, hupper, hspace⟩
      rw [hfirst i (by omega) (by omega)] at hspace
      cases hspace
  | some b =>
      obtain ⟨hlower, hupper, hspace, hrest⟩ := firstBoundaryFrom_eq_some.mp hfirst
      have hbefore : ∀ j, Opens text config stop j → b - 1 ≤ j := by
        rintro j ⟨hj, hzero, -, hjspace⟩
        by_contra hlt
        rw [hrest j (by omega) (by omega)] at hjspace
        cases hjspace
      dsimp only
      split_ifs with hstop
      · exact Or.inl ⟨b - 1, ⟨by omega, by omega, by omega, hspace⟩, hbefore, by omega⟩
      · refine Or.inr ⟨fun i hi => ?_, rfl⟩
        have hle := hbefore i hi
        have hlt := hi.2.2.1
        omega

lemma nextStart_le (text : Text) (config : ChunkConfig) (stop : Int) :
    nextStart text config stop ≤ stop := by
  rcases nextStart_cases text config stop with ⟨i, hi, -, heq⟩ | ⟨-, heq⟩
  · have hlt := hi.2.2.1
    omega
  · omega

/-- The overlap is no more than was asked for. -/
lemma overlap_nextStart (text : Text) (config : ChunkConfig) (stop : Int) :
    stop - nextStart text config stop ≤ config.overlapCharacters := by
  rcases nextStart_cases text config stop with ⟨i, hi, -, heq⟩ | ⟨-, heq⟩
  · have hle := hi.1
    omega
  · omega

/-- **A stop that is no further on leads to a start that is no further on.** -/
lemma nextStart_mono {stop stop' : Int} (h : stop' ≤ stop) :
    nextStart text config stop' ≤ nextStart text config stop := by
  have hself := nextStart_le text config stop'
  rcases nextStart_cases text config stop' with ⟨i', hi', hfirst', heq'⟩ | ⟨hnone', heq'⟩
  · obtain ⟨hlower', hzero', hupper', hspace'⟩ := hi'
    rcases nextStart_cases text config stop with ⟨i, ⟨hlower, hzero, hupper, hspace⟩, -, heq⟩ |
      ⟨hnone, heq⟩
    · by_cases hlt : i + 1 < stop'
      · have hle := hfirst' i ⟨by omega, hzero, hlt, hspace⟩
        omega
      · omega
    · by_contra hgt
      exact hnone i' ⟨by omega, hzero', by omega, hspace'⟩
  · have hreach := overlap_nextStart text config stop
    omega

/-! ## Rounds that are led back -/

/-- The white space that a round from `start` stops behind: the last one before its target, a
minimum after its start. -/
def IsLastSpace (text : Text) (config : ChunkConfig) (start last : Int) : Prop :=
  start + config.minimumCharacters ≤ last ∧ last < start + config.targetCharacters ∧
    spaceAt text last = true ∧
    ∀ i, last < i → i < start + config.targetCharacters → spaceAt text i = false

/-- **A round from `start` is led back.**  More is left than the maximum, it stops behind a white
space, the overlap before that stop reaches back to the start, and the first white space in the
overlap is before the start or is the one it stopped behind. -/
def LedBack (text : Text) (config : ChunkConfig) (start : Int) : Prop :=
  config.maximumCharacters < text.length - start ∧ ∃ last, IsLastSpace text config start last ∧
    last + 1 ≤ start + config.overlapCharacters ∧
    ((∃ i, last + 1 - config.overlapCharacters ≤ i ∧ 0 ≤ i ∧ i < start ∧ spaceAt text i = true) ∨
      ∀ i, last + 1 - config.overlapCharacters ≤ i → 0 ≤ i → i < last → spaceAt text i = false)

lemma lastBoundary_iff_isLastSpace {start stop : Int} :
    lastBoundary text (start + config.minimumCharacters) (start + config.targetCharacters) =
      some stop ↔ IsLastSpace text config start (stop - 1) := by
  rw [lastBoundary_eq_some, IsLastSpace]
  constructor
  · rintro ⟨hlower, hupper, hspace, hrest⟩
    exact ⟨by omega, by omega, hspace, fun i hi hlt => hrest i (by omega) hlt⟩
  · rintro ⟨hlower, hupper, hspace, hrest⟩
    exact ⟨by omega, by omega, hspace, fun i hi hlt => hrest i (by omega) hlt⟩

/-- A round is led back when the next one would start no further on. -/
lemma ledBack_iff {start : Int} :
    LedBack text config start ↔ config.maximumCharacters < text.length - start ∧
      ∃ stop, lastBoundary text (start + config.minimumCharacters)
        (start + config.targetCharacters) = some stop ∧ nextStart text config stop ≤ start := by
  have hminimum := config.minimum_ok.1
  refine and_congr_right fun hlong => ?_
  constructor
  · rintro ⟨last, hlast, hreach, hspaces⟩
    have hstop : lastBoundary text (start + config.minimumCharacters)
        (start + config.targetCharacters) = some (last + 1) := by
      rw [lastBoundary_iff_isLastSpace, Int.add_sub_cancel]
      exact hlast
    refine ⟨last + 1, hstop, ?_⟩
    have hafter := hlast.1
    rcases nextStart_cases text config (last + 1) with ⟨i, hi, hfirst, heq⟩ | ⟨-, heq⟩
    · obtain ⟨hlower, hzero, hupper, hspace⟩ := hi
      rcases hspaces with ⟨j, hj, hjzero, hlt, hjspace⟩ | hnone
      · have hle := hfirst j ⟨hj, hjzero, by omega, hjspace⟩
        omega
      · rw [hnone i hlower hzero (by omega)] at hspace
        cases hspace
    · omega
  · rintro ⟨stop, hstop, hback⟩
    have hlast := lastBoundary_iff_isLastSpace.mp hstop
    have hreach := overlap_nextStart text config stop
    refine ⟨stop - 1, hlast, by omega, ?_⟩
    rcases nextStart_cases text config stop with ⟨i, hi, -, heq⟩ | ⟨hnone, heq⟩
    · obtain ⟨hlower, hzero, hupper, hspace⟩ := hi
      exact Or.inl ⟨i, by omega, hzero, by omega, hspace⟩
    · refine Or.inr fun i hi hzero hlt => ?_
      rw [← Bool.not_eq_true]
      exact fun hspace => hnone i ⟨by omega, hzero, by omega, hspace⟩

/-! ## The rounds of the loop -/

/-- The variables `start` and `ranges` of the loop before round number `k`, if it comes to that. -/
def iteration (text : Text) (config : ChunkConfig) : Nat → Option (Int × List Range)
  | 0 => if text.length ≤ config.maximumCharacters then none else some (0, [])
  | k + 1 =>
      match iteration text config k with
      | none => none
      | some (start, ranges) =>
          match round text config start ranges with
          | .finished _ => none
          | .next start ranges => if start < text.length then some (start, ranges) else none

/-- A round with more than the maximum left notes its range and goes on. -/
lemma round_of_long {start : Int} (hlong : config.maximumCharacters < text.length - start)
    (ranges : List Range) :
    let stop := (stopOf text config start).1
    start + config.minimumCharacters ≤ stop ∧ stop ≤ start + config.maximumCharacters ∧
      stop < text.length ∧ round text config start ranges =
        .next (nextStart text config stop) (⟨start, stop, (stopOf text config start).2⟩ :: ranges) := by
  have hminimum := config.minimum_le
  have htarget := config.target_le
  have hbounds : start + config.minimumCharacters ≤ (stopOf text config start).1 ∧
      (stopOf text config start).1 ≤ start + config.maximumCharacters := by
    rcases stopOf_cases text config start with ⟨hshort, -⟩ | ⟨-, stop, hstop, heq⟩ | ⟨-, -, heq⟩
    · omega
    · have hlast := lastBoundary_eq_some.mp hstop
      rw [heq]
      dsimp only
      omega
    · rw [heq]
      dsimp only
      omega
  dsimp only
  obtain ⟨hlower, hupper⟩ := hbounds
  have hend : (stopOf text config start).1 ≠ text.length := by omega
  have hlength : ¬ (stopOf text config start).1 - start < config.minimumCharacters := by omega
  refine ⟨hlower, hupper, by omega, ?_⟩
  cases ranges with
  | nil => simp only [round, noteRange, hend, if_false]
  | cons previous earlier => simp only [round, hlength, if_false, noteRange, hend]

/-- What the last round makes of the ranges, when no more than the maximum is left. -/
def lastRound (text : Text) (config : ChunkConfig) (start : Int) : List Range → List Range
  | [] => [⟨start, text.length, false⟩]
  | previous :: earlier =>
      if text.length - start < config.minimumCharacters then
        if text.length - previous.start ≤ config.maximumCharacters then
          ⟨previous.start, text.length, previous.forced⟩ :: earlier
        else ⟨max (previous.start + 1) (text.length - config.minimumCharacters), text.length,
          false⟩ :: previous :: earlier
      else ⟨start, text.length, false⟩ :: previous :: earlier

lemma round_of_short {start : Int} (hshort : text.length - start ≤ config.maximumCharacters)
    (ranges : List Range) :
    round text config start ranges = .finished (lastRound text config start ranges) := by
  have hstop : stopOf text config start = ((text.length : Int), false) := if_pos hshort
  cases ranges with
  | nil => simp only [round, hstop, noteRange, if_true, lastRound]
  | cons previous earlier =>
      simp only [round, hstop, noteRange, if_true, lastRound, Bool.or_false]
      split_ifs <;> rfl

/-- The loop from a round on. -/
lemma ranges_of_iteration {k : Nat} {start : Int} {noted : List Range}
    (h : iteration text config k = some (start, noted)) (fuel : Nat) :
    start < text.length ∧ ranges (fuel + k) text config = rangesFrom text config fuel start noted := by
  induction k generalizing start noted fuel with
  | zero =>
      rw [iteration] at h
      split_ifs at h with hshort
      cases h
      have hpositive := config.maximum_ok.1
      exact ⟨by omega, by rw [ranges, if_neg hshort, Nat.add_zero]⟩
  | succ k ih =>
      rw [iteration] at h
      split at h
      · cases h
      · rename_i start' noted' hk
        split at h
        · cases h
        · rename_i next noted'' hround
          split_ifs at h with hnext
          cases h
          obtain ⟨hlt, hrest⟩ := ih hk (fuel + 1)
          refine ⟨hnext, ?_⟩
          rw [show fuel + (k + 1) = fuel + 1 + k by omega, hrest, rangesFrom, if_pos hlt, hround]

/-- A loop that comes to no further round has returned. -/
lemma ranges_of_iteration_eq_none {k : Nat} (h : iteration text config k = none) :
    ∃ result, ranges k text config = some result := by
  induction k with
  | zero =>
      rw [iteration] at h
      split_ifs at h with hshort
      exact ⟨_, if_pos hshort⟩
  | succ k ih =>
      cases hk : iteration text config k with
      | none =>
          obtain ⟨result, hresult⟩ := ih hk
          exact ⟨result, ranges_mono (Nat.le_succ k) hresult⟩
      | some state =>
          obtain ⟨start, noted⟩ := state
          obtain ⟨hlt, hrest⟩ := ranges_of_iteration hk 1
          rw [Nat.add_comm k 1, hrest, rangesFrom, if_pos hlt]
          rw [iteration, hk] at h
          cases hround : round text config start noted with
          | finished result => exact ⟨result.reverse, rfl⟩
          | next start' noted' =>
              simp only [hround, ite_eq_right_iff, reduceCtorEq, imp_false] at h
              have hlong : ¬ (text.length : Int) - start ≤ config.maximumCharacters := by
                intro hshort
                rw [round_of_short hshort] at hround
                cases hround
              obtain ⟨-, -, hstop, heq⟩ := round_of_long (not_le.mp hlong) noted
              rw [hround, Round.next.injEq] at heq
              have hle := nextStart_le text config (stopOf text config start).1
              omega

/-- **A loop that comes to a round that is led back does not return.** -/
lemma ranges_of_ledBack {k : Nat} {start : Int} {noted : List Range}
    (h : iteration text config k = some (start, noted)) (hback : LedBack text config start)
    (fuel : Nat) : ranges fuel text config = none := by
  obtain ⟨hlong, stop, hstop, hnext⟩ := ledBack_iff.mp hback
  obtain ⟨hlt, hrest⟩ := ranges_of_iteration h (fuel + 1)
  have hstopOf : stopOf text config start = (stop, false) := by
    rcases stopOf_cases text config start with ⟨hshort, -⟩ | ⟨-, stop', hstop', heq⟩ | ⟨-, hnone, -⟩
    · omega
    · rw [hstop, Option.some.injEq] at hstop'
      rw [heq, hstop']
    · rw [hstop] at hnone
      cases hnone
  have hround := (round_of_long hlong noted).2.2.2
  have hstuck := @rangesFrom_stuck text config (nextStart text config stop) (by omega)
    fun ranges => ⟨_, round_stuck hlong hstop hnext ranges⟩
  rw [hstopOf] at hround
  rw [rangesFrom, if_pos hlt, hround] at hrest
  dsimp only at hrest
  rw [hstuck] at hrest
  cases hresult : ranges fuel text config with
  | none => rfl
  | some result =>
      rw [ranges_mono (by omega) hresult] at hrest
      cases hrest

/-- A further round follows one that had more than the maximum left. -/
lemma iteration_succ {k : Nat} {start' : Int} {noted' : List Range}
    (h : iteration text config (k + 1) = some (start', noted')) :
    ∃ start noted, iteration text config k = some (start, noted) ∧
      config.maximumCharacters < text.length - start ∧
      start' = nextStart text config (stopOf text config start).1 ∧
      noted' = ⟨start, (stopOf text config start).1, (stopOf text config start).2⟩ :: noted := by
  rw [iteration] at h
  split at h
  · cases h
  · rename_i start noted hk
    by_cases hshort : (text.length : Int) - start ≤ config.maximumCharacters
    · rw [round_of_short hshort] at h
      cases h
    · have hlong := not_le.mp hshort
      obtain ⟨-, -, -, hround⟩ := round_of_long hlong noted
      rw [hround] at h
      dsimp only at h
      split_ifs at h with hnext
      cases h
      exact ⟨start, noted, hk, hlong, rfl, rfl⟩

/-! ## What stands before a round -/

/-- A range comes after the one before it: both its bounds are further on, nothing between the two
is left out, and they overlap by no more than was asked for. -/
def Range.Follows (config : ChunkConfig) (range previous : Range) : Prop :=
  previous.start < range.start ∧ previous.stop < range.stop ∧ range.start ≤ previous.stop ∧
    previous.stop - range.start ≤ config.overlapCharacters

/-- The ranges of a loop that goes on, the last one first. -/
structure Noted (text : Text) (config : ChunkConfig) (noted : List Range) : Prop where
  inside : ∀ r ∈ noted, 0 ≤ r.start ∧ r.start + config.minimumCharacters ≤ r.stop ∧
    r.stop ≤ r.start + config.maximumCharacters ∧ r.stop < text.length
  chain : noted.IsChain (Range.Follows config)
  first : ∀ r ∈ noted.getLast?, r.start = 0

/-- The variables of the loop before a round. -/
structure Standing (text : Text) (config : ChunkConfig) (start : Int) (noted : List Range) : Prop
    extends Noted text config noted where
  nonneg : 0 ≤ start
  lt : start < text.length
  previous : ∀ r ∈ noted.head?, r.start < start ∧ start = nextStart text config r.stop
  empty : noted = [] → start = 0

section Standing

variable {start : Int} {noted : List Range}

lemma lt_nextStart_of_not_ledBack (hlong : config.maximumCharacters < text.length - start)
    (hahead : ¬ LedBack text config start) :
    start < nextStart text config (stopOf text config start).1 := by
  have htarget := config.target_le
  have hoverlap := config.overlap_le
  have hmaximum := config.maximum_ok.1
  rcases stopOf_cases text config start with ⟨hshort, -⟩ | ⟨-, stop, hstop, heq⟩ | ⟨-, -, heq⟩
  · omega
  · rw [heq]
    by_contra hback
    exact hahead (ledBack_iff.mpr ⟨hlong, stop, hstop, not_lt.mp hback⟩)
  · have hreach := overlap_nextStart text config (start + config.maximumCharacters)
    rw [heq]
    dsimp only
    omega

/-- **A round that is not led back stops further on than the one before.** -/
lemma Standing.stop_lt (h : Standing text config start noted)
    (hlong : config.maximumCharacters < text.length - start)
    (hahead : ¬ LedBack text config start) :
    ∀ r ∈ noted.head?, r.stop < (stopOf text config start).1 := by
  intro r hr
  have hnext := lt_nextStart_of_not_ledBack hlong hahead
  by_contra hle
  have hmono := @nextStart_mono text config _ _ (not_lt.mp hle)
  rw [← (h.previous r hr).2] at hmono
  omega

/-- **What stands before a round that is not led back stands before the next one.** -/
lemma Standing.next (h : Standing text config start noted)
    (hlong : config.maximumCharacters < text.length - start)
    (hahead : ¬ LedBack text config start) :
    Standing text config (nextStart text config (stopOf text config start).1)
      (⟨start, (stopOf text config start).1, (stopOf text config start).2⟩ :: noted) := by
  have hnext := lt_nextStart_of_not_ledBack hlong hahead
  have hgrows := h.stop_lt hlong hahead
  obtain ⟨hlower, hupper, hinside, -⟩ := round_of_long hlong noted
  have hle := nextStart_le text config (stopOf text config start).1
  have hstart := h.nonneg
  refine ⟨⟨List.forall_mem_cons.mpr ⟨⟨hstart, hlower, hupper, hinside⟩, h.inside⟩, ?_, ?_⟩,
    by omega, by omega, ?_, fun hnil => absurd hnil (List.cons_ne_nil _ _)⟩
  · cases noted with
    | nil => exact List.isChain_singleton _
    | cons previous earlier =>
        obtain ⟨hlt, heq⟩ := h.previous previous rfl
        have hback := nextStart_le text config previous.stop
        have hreach := overlap_nextStart text config previous.stop
        have hstop := hgrows previous rfl
        refine List.isChain_cons_cons.mpr ⟨⟨hlt, hstop, ?_, ?_⟩, h.chain⟩
        · rwa [← heq] at hback
        · rwa [← heq] at hreach
  · cases noted with
    | nil =>
        intro r hr
        cases hr
        exact h.empty rfl
    | cons previous earlier => exact h.first
  · intro r hr
    cases hr
    exact ⟨hnext, rfl⟩

/-- Before every round of a loop that is never led back. -/
lemma standing_iteration
    (hahead : ∀ k start noted, iteration text config k = some (start, noted) →
      ¬ LedBack text config start) {k : Nat} (h : iteration text config k = some (start, noted)) :
    Standing text config start noted ∧ k ≤ start := by
  induction k generalizing start noted with
  | zero =>
      rw [iteration] at h
      split_ifs at h with hshort
      cases h
      have hpositive := config.maximum_ok.1
      refine ⟨⟨⟨fun r hr => absurd hr List.not_mem_nil, List.isChain_nil, fun r hr => ?_⟩, le_rfl,
        by omega, fun r hr => ?_, fun _ => rfl⟩, le_rfl⟩
      · cases hr
      · cases hr
  | succ k ih =>
      obtain ⟨start', noted', hk, hlong, rfl, rfl⟩ := iteration_succ h
      obtain ⟨hstanding, hle⟩ := ih hk
      have hnot := hahead k start' noted' hk
      have hlt := lt_nextStart_of_not_ledBack hlong hnot
      exact ⟨hstanding.next hlong hnot, by omega⟩

end Standing

/-! ## Progress -/

/-- What a last round hands back starts inside the text, if all before it do. -/
lemma starts_lastRound {start : Int} {noted : List Range} (h₀ : 0 ≤ start)
    (hlt : start < text.length)
    (hnoted : ∀ r ∈ noted, 0 ≤ r.start ∧ r.start < text.length) :
    ∀ r ∈ lastRound text config start noted, 0 ≤ r.start ∧ r.start < text.length := by
  have hminimum := config.minimum_ok.1
  have hle := config.minimum_le
  have htarget := config.target_le
  cases noted with
  | nil => exact List.forall_mem_cons.mpr ⟨⟨h₀, hlt⟩, fun r hr => absurd hr List.not_mem_nil⟩
  | cons previous earlier =>
      obtain ⟨hprevious, hearlier⟩ := List.forall_mem_cons.mp hnoted
      rw [lastRound]
      split_ifs with hshort hjoin
      · exact List.forall_mem_cons.mpr ⟨hprevious, hearlier⟩
      · refine List.forall_mem_cons.mpr ⟨⟨?_, ?_⟩, hnoted⟩
        · dsimp only
          omega
        · dsimp only
          omega
      · exact List.forall_mem_cons.mpr ⟨⟨h₀, hlt⟩, hnoted⟩

/-- **The loop of `_ranges` makes progress.** -/
structure LoopProgress (text : Text) (config : ChunkConfig) : Prop where
  /-- It ends. -/
  terminates : ∃ fuel result, ranges fuel text config = some result
  /-- A round that does not return adds a range that stops further on than the one before. -/
  stops : ∀ k start noted start' noted', iteration text config k = some (start, noted) →
    round text config start noted = .next start' noted' →
    ∃ range, noted' = range :: noted ∧ ∀ previous ∈ noted.head?, previous.stop < range.stop
  /-- Every round, and every range noted before it, starts inside the text. -/
  starts : ∀ k start noted, iteration text config k = some (start, noted) →
    (0 ≤ start ∧ start < text.length) ∧ ∀ r ∈ noted, 0 ≤ r.start ∧ r.start < text.length
  /-- So does every range of the result. -/
  results : ∀ fuel result, config.maximumCharacters < text.length →
    ranges fuel text config = some result → ∀ r ∈ result, 0 ≤ r.start ∧ r.start < text.length

/-- A loop that returned was never led back. -/
lemma not_ledBack_of_ranges {fuel : Nat} {result : List Range}
    (h : ranges fuel text config = some result) (k : Nat) (start : Int) (noted : List Range)
    (hk : iteration text config k = some (start, noted)) : ¬ LedBack text config start := by
  intro hback
  rw [ranges_of_ledBack hk hback] at h
  cases h

/-- The result of a loop that came to a last round. -/
lemma exists_lastRound {fuel : Nat} {result : List Range}
    (hlong : config.maximumCharacters < text.length)
    (h : ranges fuel text config = some result) :
    ∃ k start noted, iteration text config k = some (start, noted) ∧
      text.length - start ≤ config.maximumCharacters ∧
      result = (lastRound text config start noted).reverse := by
  have hahead := not_ledBack_of_ranges h
  -- Every start is further on, so the loop comes to a last round.
  have hend : ∃ k, iteration text config k = none := by
    refine ⟨text.length, ?_⟩
    cases hk : iteration text config text.length with
    | none => rfl
    | some state =>
        obtain ⟨hstanding, hle⟩ := standing_iteration hahead hk
        have hlt := hstanding.lt
        omega
  obtain ⟨k, hk, hlast⟩ : ∃ k, iteration text config k ≠ none ∧
      iteration text config (k + 1) = none := by
    obtain ⟨n, hn⟩ := hend
    induction n with
    | zero =>
        rw [iteration, if_neg (not_le.mpr hlong)] at hn
        cases hn
    | succ n ih =>
        by_cases hprevious : iteration text config n = none
        · exact ih hprevious
        · exact ⟨n, hprevious, hn⟩
  obtain ⟨⟨start, noted⟩, hstate⟩ := Option.ne_none_iff_exists'.mp hk
  have hstanding := (standing_iteration hahead hstate).1
  have hshort : (text.length : Int) - start ≤ config.maximumCharacters := by
    by_contra hmore
    have hmore := not_le.mp hmore
    obtain ⟨-, -, hstop, hround⟩ := round_of_long hmore noted
    have hle := nextStart_le text config (stopOf text config start).1
    rw [iteration, hstate] at hlast
    simp only [hround] at hlast
    rw [if_pos (by omega)] at hlast
    cases hlast
  obtain ⟨hlt, hrest⟩ := ranges_of_iteration hstate (fuel + 1)
  rw [rangesFrom, if_pos hlt, round_of_short hshort, ranges_mono (by omega) h] at hrest
  exact ⟨k, start, noted, hstate, hshort, Option.some.inj hrest⟩

/-- **The loop makes progress exactly when no round that it comes to is led back.** -/
theorem loopProgress_iff (text : Text) (config : ChunkConfig) :
    LoopProgress text config ↔
      ∀ k start noted, iteration text config k = some (start, noted) →
        ¬ LedBack text config start := by
  constructor
  · rintro ⟨⟨fuel, result, hresult⟩, -⟩
    exact not_ledBack_of_ranges hresult
  · intro hahead
    have hinside : ∀ k start noted, iteration text config k = some (start, noted) →
        ∀ r ∈ noted, 0 ≤ r.start ∧ r.start < text.length := by
      intro k start noted hk r hr
      obtain ⟨hstart, hlower, -, hstop⟩ := (standing_iteration hahead hk).1.inside r hr
      exact ⟨hstart, by omega⟩
    refine ⟨?_, ?_, fun k start noted hk => ?_, fun fuel result hlong h => ?_⟩
    · have hnone : iteration text config text.length = none := by
        cases hk : iteration text config text.length with
        | none => rfl
        | some state =>
            obtain ⟨hstanding, hle⟩ := standing_iteration hahead hk
            have hlt := hstanding.lt
            omega
      exact ⟨_, ranges_of_iteration_eq_none hnone⟩
    · intro k start noted start' noted' hk hround
      by_cases hshort : (text.length : Int) - start ≤ config.maximumCharacters
      · rw [round_of_short hshort] at hround
        cases hround
      · have hlong := not_le.mp hshort
        obtain ⟨-, -, -, heq⟩ := round_of_long hlong noted
        rw [heq, Round.next.injEq] at hround
        exact ⟨_, hround.2.symm,
          (standing_iteration hahead hk).1.stop_lt hlong (hahead k start noted hk)⟩
    · have hstanding := (standing_iteration hahead hk).1
      exact ⟨⟨hstanding.nonneg, hstanding.lt⟩, hinside k start noted hk⟩
    · obtain ⟨k, start, noted, hk, -, rfl⟩ := exists_lastRound hlong h
      have hstanding := (standing_iteration hahead hk).1
      intro r hr
      exact starts_lastRound hstanding.nonneg hstanding.lt (hinside k start noted hk) r
        (List.mem_reverse.mp hr)

/-- The shortest target and the longest overlap that go with it. -/
def ChunkConfig.tight : ChunkConfig where
  chunkVersion := "chunk-v1"
  targetCharacters := 120
  maximumCharacters := 120
  minimumCharacters := 1
  overlapCharacters := 24
  version_ok := ChunkConfig.default.version_ok
  target_ok := by decide
  maximum_ok := by decide
  minimum_ok := by decide
  overlap_ok := by decide
  minimum_le := by decide
  target_le := by decide
  overlap_le := by decide

/-- Two paragraphs of 10 and of 130 characters, without white space in either. -/
def twoParagraphs : Text := List.replicate 10 '报' ++ '\n' :: List.replicate 130 '报'

/-- The first round stops behind the first paragraph, and the overlap reaches back to 13 characters
before the text. -/
lemma twoParagraphs_first : lastBoundary twoParagraphs (0 + ChunkConfig.tight.minimumCharacters)
      (0 + ChunkConfig.tight.targetCharacters) = some 11 ∧
    nextStart twoParagraphs .tight 11 = -13 := by
  decide +kernel

/-- The loop does not return. -/
theorem twoParagraphs_not_loopProgress :
    (∀ fuel, ranges fuel twoParagraphs .tight = none) ∧ ¬ LoopProgress twoParagraphs .tight := by
  have hstart : iteration twoParagraphs .tight 0 = some (0, []) := by decide +kernel
  have hlong : (ChunkConfig.tight.maximumCharacters : Int) < twoParagraphs.length - 0 := by
    decide +kernel
  obtain ⟨hstop, hnext⟩ := twoParagraphs_first
  have hback : LedBack twoParagraphs .tight 0 :=
    ledBack_iff.mpr ⟨hlong, 11, hstop, hnext.trans_le (by decide)⟩
  have hnone := ranges_of_ledBack hstart hback
  refine ⟨hnone, fun hprogress => ?_⟩
  obtain ⟨fuel, result, hresult⟩ := hprogress.terminates
  exact Option.some_ne_none result (hresult.symm.trans (hnone fuel))

/-! ## Coverage -/

/-- **What the ranges of a text are.** -/
structure RangesCover (text : Text) (config : ChunkConfig) (result : List Range) : Prop where
  /-- They lie inside the text and are not empty. -/
  inside : ∀ r ∈ result, 0 ≤ r.start ∧ r.start < r.stop ∧ r.stop ≤ text.length
  /-- Their stops grow. -/
  stops : result.Pairwise fun a b => a.stop < b.stop
  /-- The first one starts with the text. -/
  first : ∃ r ∈ result.head?, r.start = 0
  /-- The last one ends with it. -/
  last : ∃ r ∈ result.getLast?, r.stop = text.length
  /-- None starts after the one before it ends. -/
  joined : ∀ before a b after, result = before ++ a :: b :: after → b.start ≤ a.stop
  /-- Every character is in one. -/
  covers : ∀ i : Int, 0 ≤ i → i < text.length → ∃ r ∈ result, r.start ≤ i ∧ i < r.stop
  /-- None is longer than the maximum. -/
  short : ∀ r ∈ result, r.stop - r.start ≤ config.maximumCharacters
  /-- None is shorter than the minimum, unless there is no other. -/
  long : ∀ r ∈ result, config.minimumCharacters ≤ r.stop - r.start ∨ result = [r]
  /-- Two neighbours overlap by no more than was asked for, but for a last range that was extended
  to the minimum. -/
  overlap : ∀ (before : List Range) (a b : Range) (after : List Range),
    result = before ++ a :: b :: after → a.stop - b.start ≤ config.overlapCharacters ∨
      after = [] ∧ b.stop - b.start = config.minimumCharacters

/-- What the last range is to the one before it. -/
def Range.Ends (config : ChunkConfig) (range previous : Range) : Prop :=
  previous.stop < range.stop ∧ range.start ≤ previous.stop ∧
    (previous.stop - range.start ≤ config.overlapCharacters ∨
      range.stop - range.start = config.minimumCharacters)

lemma Range.Follows.ends {range previous : Range} (h : range.Follows config previous) :
    range.Ends config previous :=
  ⟨h.2.1, h.2.2.1, Or.inl h.2.2.2⟩

/-- The ranges of a long text, the last one first. -/
structure Finished (text : Text) (config : ChunkConfig) (last : Range) (earlier : List Range) :
    Prop where
  inside : 0 ≤ last.start
  long : last.start + config.minimumCharacters ≤ last.stop
  short : last.stop ≤ last.start + config.maximumCharacters
  stop : last.stop = text.length
  noted : Noted text config earlier
  ends : ∀ previous ∈ earlier.head?, last.Ends config previous
  first : earlier = [] → last.start = 0

/-- **The last round of a loop that was never led back.** -/
lemma Standing.finished {start : Int} {noted : List Range} (h : Standing text config start noted)
    (hlong : config.maximumCharacters < text.length)
    (hshort : text.length - start ≤ config.maximumCharacters) :
    ∃ last earlier, lastRound text config start noted = last :: earlier ∧
      Finished text config last earlier := by
  have hminimum := config.minimum_le
  have htarget := config.target_le
  have hstart := h.nonneg
  cases noted with
  | nil =>
      have hzero := h.empty rfl
      omega
  | cons previous earlier =>
      obtain ⟨hlt, heq⟩ := h.previous previous rfl
      obtain ⟨⟨hpstart, hplower, hpupper, hpstop⟩, hearlier⟩ := List.forall_mem_cons.mp h.inside
      have hback := nextStart_le text config previous.stop
      have hreach := overlap_nextStart text config previous.stop
      rw [← heq] at hback hreach
      rw [lastRound]
      split_ifs with htail hjoin
      · refine ⟨_, earlier, rfl, hpstart, by dsimp only; omega, by dsimp only; omega, rfl, ?_, ?_, ?_⟩
        · refine ⟨hearlier, h.chain.tail, ?_⟩
          cases earlier with
          | nil =>
              intro r hr
              cases hr
          | cons _ _ => exact h.first
        · cases earlier with
          | nil =>
              intro r hr
              cases hr
          | cons before rest =>
              intro r hr
              cases hr
              have hfollows := (List.isChain_cons_cons.mp h.chain).1
              exact ⟨hfollows.2.1.trans hpstop, hfollows.2.2.1, Or.inl hfollows.2.2.2⟩
        · intro hnil
          rw [hnil] at h
          exact h.first previous rfl
      · refine ⟨_, _, rfl, by dsimp only; omega, by dsimp only; omega, by dsimp only; omega, rfl,
          h.toNoted, ?_, fun hnil => absurd hnil (List.cons_ne_nil _ _)⟩
        intro r hr
        cases hr
        refine ⟨hpstop, ?_, Or.inr ?_⟩
        · dsimp only
          omega
        · dsimp only
          omega
      · refine ⟨_, _, rfl, hstart, by dsimp only; omega, by dsimp only; omega, rfl, h.toNoted, ?_,
          fun hnil => absurd hnil (List.cons_ne_nil _ _)⟩
        intro r hr
        cases hr
        exact ⟨hpstop, hback, Or.inl hreach⟩

/-- Ranges without a gap cover what is before the end of the last one. -/
lemma exists_range_of_lt {ranges : List Range} {last : Range}
    (hjoined : (last :: ranges).IsChain fun range previous => range.start ≤ previous.stop)
    (hfirst : ∀ r ∈ (last :: ranges).getLast?, r.start = 0) {i : Int} (h₀ : 0 ≤ i)
    (hlt : i < last.stop) : ∃ r ∈ last :: ranges, r.start ≤ i ∧ i < r.stop := by
  induction ranges generalizing last with
  | nil =>
      have hzero := hfirst last rfl
      exact ⟨last, List.mem_singleton_self _, by omega, hlt⟩
  | cons previous earlier ih =>
      obtain ⟨hgap, hrest⟩ := List.isChain_cons_cons.mp hjoined
      by_cases hstart : last.start ≤ i
      · exact ⟨last, List.mem_cons_self .., hstart, hlt⟩
      · obtain ⟨r, hr, hcovers⟩ := ih hrest hfirst (by omega)
        exact ⟨r, List.mem_cons_of_mem _ hr, hcovers⟩

/-- Ranges in reverse order, read off from the first one on. -/
lemma Finished.cover_text {last : Range} {earlier : List Range}
    (h : Finished text config last earlier) : RangesCover text config (last :: earlier).reverse := by
  have hminimum := config.minimum_ok.1
  have hmin : (1 : Int) ≤ config.minimumCharacters := by exact_mod_cast hminimum
  have hlong := h.long
  have hstop := h.stop
  have hends : (last :: earlier).IsChain (Range.Ends config) := by
    cases hearlier : earlier with
    | nil => exact List.isChain_singleton _
    | cons previous rest =>
        have hchain := h.noted.chain.imp fun _ _ => Range.Follows.ends
        rw [hearlier] at hchain
        exact List.isChain_cons_cons.mpr ⟨h.ends previous (by rw [hearlier]; rfl), hchain⟩
  have hsplit : ∀ before a b after, (last :: earlier).reverse = before ++ a :: b :: after →
      last :: earlier = after.reverse ++ b :: a :: before.reverse := by
    intro before a b after heq
    have hreverse := congrArg List.reverse heq
    simpa using hreverse
  have hpair : ∀ before a b after, (last :: earlier).reverse = before ++ a :: b :: after →
      b.Ends config a := by
    intro before a b after heq
    rw [hsplit before a b after heq] at hends
    exact (List.isChain_append_cons_cons.mp hends).2.1
  have hfirst : ∀ r ∈ (last :: earlier).getLast?, r.start = 0 := by
    cases hearlier : earlier with
    | nil =>
        intro r hr
        cases hr
        exact h.first hearlier
    | cons previous rest =>
        have hnoted := h.noted.first
        rwa [hearlier] at hnoted
  refine ⟨fun r hr => ?_, ?_, ?_, ⟨last, by simp, hstop⟩, fun before a b after heq =>
    (hpair before a b after heq).2.1, fun i h₀ hlt => ?_, fun r hr => ?_, fun r hr => ?_,
    fun before a b after heq => ?_⟩
  · rcases List.mem_cons.mp (List.mem_reverse.mp hr) with rfl | hr
    · exact ⟨h.inside, by omega, hstop.le⟩
    · obtain ⟨hstart, hlower, -, hlt⟩ := h.noted.inside r hr
      exact ⟨hstart, by omega, hlt.le⟩
  · rw [List.pairwise_reverse]
    have htrans : (last :: earlier).IsChain fun a b => b.stop < a.stop := hends.imp fun _ _ h => h.1
    exact List.isChain_iff_pairwise.mp htrans
  · obtain ⟨r, hr⟩ : ∃ r, (last :: earlier).getLast? = some r :=
      ⟨_, List.getLast?_eq_some_getLast (List.cons_ne_nil _ _)⟩
    exact ⟨r, by rw [List.head?_reverse, hr]; rfl, hfirst r hr⟩
  · obtain ⟨r, hr, hcovers⟩ := exists_range_of_lt (hends.imp fun _ _ h => h.2.1) hfirst h₀
      (hstop ▸ hlt)
    exact ⟨r, List.mem_reverse.mpr hr, hcovers⟩
  · rcases List.mem_cons.mp (List.mem_reverse.mp hr) with rfl | hr
    · have hshort := h.short
      omega
    · obtain ⟨-, -, hupper, -⟩ := h.noted.inside r hr
      omega
  · rcases List.mem_cons.mp (List.mem_reverse.mp hr) with rfl | hr
    · exact Or.inl (by omega)
    · obtain ⟨-, hlower, -, -⟩ := h.noted.inside r hr
      exact Or.inl (by omega)
  · have hmatch := hsplit before a b after heq
    cases after with
    | nil =>
        rcases (hpair before a b [] heq).2.2 with hoverlap | hlength
        · exact Or.inl hoverlap
        · exact Or.inr ⟨rfl, hlength⟩
    | cons c rest =>
        -- Not the last range: it was noted by a round that went on.
        left
        have hnoted : ∃ front, earlier = front ++ b :: a :: before.reverse := by
          cases hfront : (c :: rest).reverse with
          | nil => simp at hfront
          | cons d front =>
              rw [hfront, List.cons_append, List.cons.injEq] at hmatch
              exact ⟨front, hmatch.2⟩
        obtain ⟨front, hfront⟩ := hnoted
        have hchain := h.noted.chain
        rw [hfront] at hchain
        exact (List.isChain_append_cons_cons.mp hchain).2.1.2.2.2

/-- **When `_ranges` returns, its ranges cover the text.** -/
theorem rangesCover {fuel : Nat} {result : List Range} (htext : text ≠ [])
    (h : ranges fuel text config = some result) : RangesCover text config result := by
  by_cases hshort : text.length ≤ config.maximumCharacters
  · rw [ranges, if_pos hshort] at h
    cases h
    have hpositive := List.length_pos_of_ne_nil htext
    have hnone : ∀ (before : List Range) a b after,
        [(⟨0, text.length, false⟩ : Range)] ≠ before ++ a :: b :: after := by
      intro before a b after heq
      have hlength := congrArg List.length heq
      simp at hlength
      omega
    refine ⟨?_, List.pairwise_singleton _ _, ⟨_, rfl, rfl⟩, ⟨_, rfl, rfl⟩,
      fun before a b after heq => absurd heq (hnone before a b after), fun i h₀ hlt =>
      ⟨_, List.mem_singleton_self _, h₀, hlt⟩, ?_, ?_,
      fun before a b after heq => absurd heq (hnone before a b after)⟩
    · intro r hr
      obtain rfl := List.mem_singleton.mp hr
      exact ⟨le_rfl, by dsimp only; omega, le_rfl⟩
    · intro r hr
      obtain rfl := List.mem_singleton.mp hr
      dsimp only
      omega
    · intro r hr
      obtain rfl := List.mem_singleton.mp hr
      exact Or.inr rfl
  · obtain ⟨k, start, noted, hk, hlast, rfl⟩ := exists_lastRound (not_le.mp hshort) h
    have hstanding := (standing_iteration (not_ledBack_of_ranges h) hk).1
    obtain ⟨last, earlier, heq, hfinished⟩ :=
      hstanding.finished (by exact_mod_cast not_le.mp hshort) hlast
    rw [heq]
    exact hfinished.cover_text

/-- A paragraph of 130 characters is cut off once. -/
theorem rangesCover_paragraph :
    RangesCover (List.replicate 130 '报') .tight [⟨0, 120, true⟩, ⟨96, 130, false⟩] :=
  rangesCover (List.cons_ne_nil _ _)
    (by decide +kernel : ranges 2 (List.replicate 130 '报') .tight =
      some [⟨0, 120, true⟩, ⟨96, 130, false⟩])

end StockResearch.Documents
