import StockResearch.Core.Json
import StockResearch.Core.Transaction
import Mathlib.Data.List.Sort
import Mathlib.Logic.Function.Basic

/-!
# Checkpoint compare-and-swap

Any number of sync workers advance the checkpoint of one scope.  A worker reads the checkpoint
(`get_checkpoint`) and later calls `compare_and_swap_checkpoint` with the revision that it read, or
with `0` when there was none.

`SELECT … FOR UPDATE` locks an existing row until the transaction ends, so an update is one step.  It
locks nothing when there is no row, so a creation is two: the `SELECT` that finds nothing, and the
`INSERT`, which the unique constraint refuses when another worker's row has come in between.

**Where an update is lost.**  A creation stores revision `0` and an absent checkpoint is expected
under revision `0` too.  So a worker that has read nothing passes the comparison against the
checkpoint that another worker has just created.  `checkpointLaw_iff` says that this, and the refused
`INSERT`, are all that can go wrong.
-/

namespace StockResearch.Providers

open Txn

/-- The watermark of a checkpoint, a JSON object. -/
abbrev Watermark := List (String × PyJson.Value)

/-- The row of a scope in `provider_sync_checkpoints`. -/
structure ProviderSyncCheckpoint where
  watermark : Watermark
  revision : Nat

/-- `expected_revision` of an advance: the revision that was read, `0` when there was none. -/
def expectedRevision : Option ProviderSyncCheckpoint → Nat
  | none => 0
  | some row => row.revision

/-- What the `SELECT` of `compare_and_swap_checkpoint` leads to. -/
inductive Selected where
  | conflict
  | creates (row : ProviderSyncCheckpoint)
  | updates (row : ProviderSyncCheckpoint)

/-- `compare_and_swap_checkpoint` up to its write. -/
def compareAndSwap (stored : Option ProviderSyncCheckpoint) (expected : Nat)
    (watermark : Watermark) : Selected :=
  match stored with
  | none => if expected ≠ 0 then .conflict else .creates ⟨watermark, 0⟩
  | some row =>
      if row.revision ≠ expected then .conflict else .updates ⟨watermark, row.revision + 1⟩

lemma compareAndSwap_cases (stored : Option ProviderSyncCheckpoint) (expected : Nat)
    (watermark : Watermark) :
    compareAndSwap stored expected watermark = .conflict ∨
    (stored = none ∧ compareAndSwap stored expected watermark = .creates ⟨watermark, 0⟩) ∨
    ∃ row, stored = some row ∧ row.revision = expected ∧
      compareAndSwap stored expected watermark = .updates ⟨watermark, row.revision + 1⟩ := by
  cases stored with
  | none => by_cases h : expected = 0 <;> simp [compareAndSwap, h]
  | some row => by_cases h : row.revision = expected <;> simp [compareAndSwap, h]

/-! ## Workers -/

/-- The stored checkpoint, and of every worker the checkpoint that it read last and the row that it
is about to insert. -/
structure Workers (W : Type) where
  stored : Option ProviderSyncCheckpoint
  seen : W → Option (Option ProviderSyncCheckpoint)
  inserting : W → Option ProviderSyncCheckpoint

/-- What a worker does next. -/
inductive WorkerAction (W : Type) where
  | read (w : W)
  | advance (w : W) (watermark : Watermark)
  | insert (w : W)

/-- How an action ends; an advance that succeeds says from which checkpoint it was issued. -/
inductive WorkerOutcome where
  | quiet
  | advanced (observed : Option ProviderSyncCheckpoint)
  | checkpointConflict
  | integrityError

namespace Workers

variable {W : Type} [DecidableEq W]

/-- One action.  A worker that is inserting does nothing else. -/
def act (s : Workers W) : WorkerAction W → WorkerOutcome × Workers W
  | .read w =>
      match s.inserting w with
      | some _ => (.quiet, s)
      | none => (.quiet, { s with seen := Function.update s.seen w (some s.stored) })
  | .advance w watermark =>
      match s.inserting w, s.seen w with
      | none, some observed =>
          match compareAndSwap s.stored (expectedRevision observed) watermark with
          | .conflict => (.checkpointConflict, s)
          | .creates row =>
              (.quiet, { s with inserting := Function.update s.inserting w (some row) })
          | .updates row => (.advanced observed, { s with stored := some row })
      | _, _ => (.quiet, s)
  | .insert w =>
      match s.inserting w, s.seen w with
      | some row, some observed =>
          match s.stored with
          | none => (.advanced observed,
              { s with stored := some row, inserting := Function.update s.inserting w none })
          | some _ =>
              (.integrityError, { s with inserting := Function.update s.inserting w none })
      | _, _ => (.quiet, s)

/-- No worker has read or begun anything. -/
def Fresh (s : Workers W) : Prop := ∀ w, s.seen w = none ∧ s.inserting w = none

/-- The checkpoint that a successful advance was issued from. -/
def observedOf (e : Event (Workers W) (WorkerAction W) WorkerOutcome) :
    Option (Option ProviderSyncCheckpoint) :=
  match e.outcome with
  | .advanced observed => some observed
  | _ => none

/-- **No lost update**, over the actions of a run. -/
structure CheckpointLaw (events : List (Event (Workers W) (WorkerAction W) WorkerOutcome)) :
    Prop where
  /-- What a successful advance overwrites is what its writer has read. -/
  read : ∀ e ∈ events, ∀ observed, e.outcome = .advanced observed → e.before.stored = observed
  /-- Of the advances from one observed state one succeeds at most. -/
  one : (events.filterMap observedOf).Nodup
  /-- Every other one raises the conflict and changes nothing. -/
  conflict : ∀ e ∈ events, e.outcome ≠ .integrityError ∧
    ((∀ observed, e.outcome ≠ .advanced observed) → e.after.stored = e.before.stored)

/-- A worker that has read no checkpoint does not advance one of revision `0`, and does not insert
its row after another. -/
def Timely (s : Workers W) : WorkerAction W → Prop
  | .read _ => True
  | .advance w _ => s.inserting w = none → s.seen w = some none →
      ∀ row, s.stored = some row → row.revision ≠ 0
  | .insert w => s.inserting w ≠ none → s.stored = none

/-! ## What one action can do -/

/-- How many advances have made a checkpoint. -/
def version : Option ProviderSyncCheckpoint → Nat
  | none => 0
  | some row => row.revision + 1

/-- The ways an action can go. -/
inductive Acts (s : Workers W) : WorkerAction W → WorkerOutcome → Workers W → Prop
  | idle (a : WorkerAction W) : Acts s a .quiet s
  | reads (w : W) (hins : s.inserting w = none) :
      Acts s (.read w) .quiet { s with seen := Function.update s.seen w (some s.stored) }
  | conflicts (w : W) (watermark : Watermark) : Acts s (.advance w watermark) .checkpointConflict s
  | creates (w : W) (watermark : Watermark) (observed : Option ProviderSyncCheckpoint)
      (hseen : s.seen w = some observed) (hstored : s.stored = none) :
      Acts s (.advance w watermark) .quiet
        { s with inserting := Function.update s.inserting w (some ⟨watermark, 0⟩) }
  | updates (w : W) (watermark : Watermark) (observed : Option ProviderSyncCheckpoint)
      (row : ProviderSyncCheckpoint) (hins : s.inserting w = none)
      (hseen : s.seen w = some observed) (hstored : s.stored = some row)
      (hrevision : row.revision = expectedRevision observed) :
      Acts s (.advance w watermark) (.advanced observed)
        { s with stored := some ⟨watermark, row.revision + 1⟩ }
  | inserts (w : W) (observed : Option ProviderSyncCheckpoint) (row : ProviderSyncCheckpoint)
      (hins : s.inserting w = some row) (hseen : s.seen w = some observed)
      (hstored : s.stored = none) :
      Acts s (.insert w) (.advanced observed)
        { s with stored := some row, inserting := Function.update s.inserting w none }
  | refused (w : W) (row : ProviderSyncCheckpoint) (hins : s.inserting w ≠ none)
      (hstored : s.stored = some row) :
      Acts s (.insert w) .integrityError
        { s with inserting := Function.update s.inserting w none }

lemma acts (s : Workers W) (a : WorkerAction W) : Acts s a (s.act a).1 (s.act a).2 := by
  cases a with
  | read w =>
      simp only [act]
      split
      · exact .idle _
      · exact .reads w ‹_›
  | advance w watermark =>
      simp only [act]
      split
      · next observed hins hseen =>
          rcases compareAndSwap_cases s.stored (expectedRevision observed) watermark with
            hconflict | ⟨hstored, hcreates⟩ | ⟨row, hstored, hrevision, hupdates⟩
          · rw [hconflict]
            exact .conflicts w watermark
          · rw [hcreates]
            exact .creates w watermark observed hseen hstored
          · rw [hupdates]
            exact .updates w watermark observed row hins hseen hstored hrevision
      · exact .idle _
  | insert w =>
      simp only [act]
      split
      · next row observed hins hseen =>
          split
          · exact .inserts w observed row hins hseen ‹_›
          · exact .refused w _ (by simp [hins]) ‹_›
      · exact .idle _

/-- What a worker has read is the stored checkpoint or an older one, and a worker that inserts has
read that there is none. -/
structure Honest (s : Workers W) : Prop where
  seen : ∀ w observed, s.seen w = some observed →
    observed = s.stored ∨ version observed < version s.stored
  inserting : ∀ w row, s.inserting w = some row → s.seen w = some none ∧ row.revision = 0

omit [DecidableEq W] in
lemma honest_of_fresh {s : Workers W} (h : s.Fresh) : s.Honest := by
  refine ⟨?_, ?_⟩
  · intro w observed hseen
    simp [(h w).1] at hseen
  · intro w row hins
    simp [(h w).2] at hins

omit [DecidableEq W] in
lemma Honest.observed_none {s : Workers W} (h : s.Honest) (hstored : s.stored = none) {w : W}
    {observed : Option ProviderSyncCheckpoint} (hseen : s.seen w = some observed) :
    observed = none := by
  rcases h.seen w observed hseen with heq | hlt
  · rw [heq, hstored]
  · simp [hstored, version] at hlt

lemma honest_act (s : Workers W) (a : WorkerAction W) (h : s.Honest) : (s.act a).2.Honest := by
  have hacts := acts s a
  generalize (s.act a).1 = outcome, (s.act a).2 = s' at hacts ⊢
  cases hacts with
  | idle => exact h
  | conflicts => exact h
  | reads w hins =>
      refine ⟨?_, ?_⟩
      · intro w' observed hseen
        by_cases hw : w' = w
        · subst hw
          simp only [Function.update_self, Option.some.injEq] at hseen
          exact Or.inl hseen.symm
        · simp only [Function.update_of_ne hw] at hseen
          exact h.seen w' observed hseen
      · intro w' row hins'
        have hw : w' ≠ w := by
          rintro rfl
          simp [hins] at hins'
        simp only [Function.update_of_ne hw]
        exact h.inserting w' row hins'
  | creates w watermark observed hseen hstored =>
      refine ⟨h.seen, ?_⟩
      intro w' row hins
      by_cases hw : w' = w
      · subst hw
        simp only [Function.update_self, Option.some.injEq] at hins
        subst hins
        rw [hseen, h.observed_none hstored hseen]
        exact ⟨rfl, rfl⟩
      · simp only [Function.update_of_ne hw] at hins
        exact h.inserting w' row hins
  | updates w watermark observed row hins hseen hstored hrevision =>
      refine ⟨?_, h.inserting⟩
      intro w' observed' hseen'
      right
      have hold := h.seen w' observed' hseen'
      rw [hstored] at hold
      rcases hold with rfl | hlt
      · simp [version]
      · simp only [version] at hlt ⊢
        omega
  | inserts w observed row hins hseen hstored =>
      refine ⟨?_, ?_⟩
      · intro w' observed' hseen'
        right
        simp [h.observed_none hstored hseen', version]
      · intro w' row' hins'
        by_cases hw : w' = w
        · simp [hw] at hins'
        · simp only [Function.update_of_ne hw] at hins'
          exact h.inserting w' row' hins'
  | refused w row hins hstored =>
      refine ⟨h.seen, ?_⟩
      intro w' row' hins'
      by_cases hw : w' = w
      · simp [hw] at hins'
      · simp only [Function.update_of_ne hw] at hins'
        exact h.inserting w' row' hins'

/-- A timely advance that succeeds meets what its writer has read, and makes the next version. -/
lemma advanced_of_timely {s : Workers W} {a : WorkerAction W} (h : s.Honest) (ht : s.Timely a)
    {observed : Option ProviderSyncCheckpoint} (hadv : (s.act a).1 = .advanced observed) :
    s.stored = observed ∧ version (s.act a).2.stored = version s.stored + 1 := by
  have hacts := acts s a
  generalize (s.act a).1 = outcome, (s.act a).2 = s' at hacts hadv ⊢
  subst hadv
  cases hacts with
  | updates w watermark _ row hins hseen hstored hrevision =>
      refine ⟨?_, by simp [hstored, version]⟩
      cases observed with
      | none => exact absurd hrevision (ht hins hseen row hstored)
      | some old =>
          rcases h.seen w (some old) hseen with heq | hlt
          · exact heq.symm
          · simp only [hstored, version, expectedRevision] at hlt hrevision
            omega
  | inserts w _ row hins hseen hstored =>
      refine ⟨hstored.trans (h.observed_none hstored hseen).symm, ?_⟩
      simp [hstored, version, (h.inserting w row hins).2]

/-- The stored checkpoint never goes back. -/
lemma version_le_act (s : Workers W) (a : WorkerAction W) :
    version s.stored ≤ version (s.act a).2.stored := by
  have hacts := acts s a
  generalize (s.act a).1 = outcome, (s.act a).2 = s' at hacts ⊢
  cases hacts with
  | updates w watermark observed row hins hseen hstored hrevision => simp [hstored, version]
  | inserts w observed row hins hseen hstored => simp [hstored, version]
  | _ => exact le_rfl

/-- An untimely action breaks the law at once. -/
lemma timely_of_law {s : Workers W} {a : WorkerAction W} (h : s.Honest)
    (hread : ∀ observed, (s.act a).1 = .advanced observed → s.stored = observed)
    (herror : (s.act a).1 ≠ .integrityError) : s.Timely a := by
  cases a with
  | read w => trivial
  | advance w watermark =>
      intro hins hseen row hstored hzero
      have hnone := hread none (by
        simp [act, hins, hseen, hstored, compareAndSwap, expectedRevision, hzero])
      simp [hstored] at hnone
  | insert w =>
      intro hins
      rcases Option.ne_none_iff_exists'.mp hins with ⟨row, hrow⟩
      by_contra hstored
      rcases Option.ne_none_iff_exists'.mp hstored with ⟨row', hrow'⟩
      exact herror (by simp [act, hrow, (h.inserting w row hrow).1, hrow'])

/-! ## Runs -/

/-- Along a timely run the observed checkpoints of the successful advances only get newer. -/
lemma observed_newer {s : Workers W} (h : s.Honest) (ops : List (WorkerAction W))
    (ht : ∀ e ∈ trace act s ops, e.before.Timely e.call) :
    (∀ observed ∈ (trace act s ops).filterMap observedOf, version s.stored ≤ version observed) ∧
      ((trace act s ops).filterMap observedOf).Nodup := by
  induction ops generalizing s with
  | nil => simp [trace]
  | cons a ops ih =>
      rw [trace, List.forall_mem_cons] at ht
      rcases ih (honest_act s a h) ht.2 with ⟨hnewer, hnodup⟩
      have hle := version_le_act s a
      cases hout : (s.act a).1 with
      | advanced observed =>
          rcases advanced_of_timely h ht.1 hout with ⟨hstored, hnext⟩
          simp only [trace, List.filterMap_cons, observedOf, hout, List.forall_mem_cons,
            List.nodup_cons]
          refine ⟨⟨by rw [hstored], ?_⟩, ?_, hnodup⟩
          · intro observed' hmem
            exact hle.trans (hnewer observed' hmem)
          · intro hmem
            have hnewer' := hnewer observed hmem
            rw [hnext, hstored] at hnewer'
            omega
      | _ =>
          simp only [trace, List.filterMap_cons, observedOf, hout]
          exact ⟨fun observed' hmem => hle.trans (hnewer observed' hmem), hnodup⟩

/-- **When no update is lost.**  In a run of any number of workers, in any order of their reads and
writes, every successful advance overwrites what its writer has read, one advance at most succeeds
from each observed state and every other one raises the conflict, exactly when no worker that has
read no checkpoint advances one of revision `0` or inserts its row after another. -/
theorem checkpointLaw_iff (s : Workers W) (h : s.Fresh) (ops : List (WorkerAction W)) :
    CheckpointLaw (trace act s ops) ↔ ∀ e ∈ trace act s ops, e.before.Timely e.call := by
  have hhonest : ∀ e ∈ trace act s ops, e.before.Honest ∧ e.after.Honest :=
    trace_invariant (C := fun _ _ => True) (fun s a hs _ => honest_act s a hs) (honest_of_fresh h)
      fun _ _ => trivial
  constructor
  · intro hlaw e he
    have hstep := step_of_mem_trace he
    refine timely_of_law (hhonest e he).1 ?_ ?_
    · intro observed hadv
      exact hlaw.read e he observed (by rw [← hadv, hstep])
    · rw [hstep]
      exact (hlaw.conflict e he).1
  · intro ht
    refine ⟨?_, (observed_newer (honest_of_fresh h) ops ht).2, ?_⟩
    · intro e he observed hadv
      have hstep := step_of_mem_trace he
      exact (advanced_of_timely (hhonest e he).1 (ht e he) (by rw [hstep, hadv])).1
    · intro e he
      have hstep := step_of_mem_trace he
      have hacts := acts e.before e.call
      have htimely := ht e he
      rw [hstep] at hacts
      simp only at hacts
      generalize e.outcome = outcome, e.after = s', e.call = a at hacts htimely ⊢
      cases hacts with
      | updates => simp
      | inserts => simp
      | refused w row hins hstored =>
          have hnone := htimely hins
          simp [hstored] at hnone
      | _ => simp

/-! ## Two workers -/

/-- Two workers and no checkpoint yet. -/
def twoWorkers : Workers Bool where
  stored := none
  seen _ := none
  inserting _ := none

lemma fresh_twoWorkers : twoWorkers.Fresh := fun _ => ⟨rfl, rfl⟩

/-- The second worker reads what the first has created, and advances it. -/
def handover : List (WorkerAction Bool) :=
  [.read false, .advance false [("day", .int 1)], .insert false, .read true,
    .advance true [("day", .int 2)]]

theorem checkpointLaw_handover :
    twoWorkers.Fresh ∧ CheckpointLaw (trace act twoWorkers handover) := by
  refine ⟨fresh_twoWorkers, (checkpointLaw_iff twoWorkers fresh_twoWorkers handover).mpr ?_⟩
  simp [handover, trace, act, twoWorkers, compareAndSwap, expectedRevision, Timely,
    Function.update]

/-- Both workers read that there is no checkpoint before either creates it. -/
def race : List (WorkerAction Bool) :=
  [.read false, .read true, .advance false [("day", .int 1)], .insert false,
    .advance true [("day", .int 2)]]

/-- The second advance overwrites the first one's watermark, which its writer has not read. -/
theorem not_checkpointLaw_race : ¬ CheckpointLaw (trace act twoWorkers race) := by
  intro h
  have hread := h.read
  simp [race, trace, act, twoWorkers, compareAndSwap, expectedRevision, Function.update] at hread

end Workers

end StockResearch.Providers
