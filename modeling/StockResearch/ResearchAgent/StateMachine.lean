import StockResearch.ResearchAgent.Schemas
import StockResearch.Core.Transaction
import Mathlib.Data.List.Infix

/-!
# The state machine of a run

`ResearchRunStateMachine.transition` reads a run `FOR UPDATE`, compares and sets its status and
appends an event numbered one past those that are there.  Any number of sessions do this at once.
The steps of their calls interleave in any order, and a session may make several transitions before
it commits.

**What is shared.**  The row of a run is locked by the read and stays locked until the session
commits or rolls back.  The lock carries the session's own version of the run, which the others do
not see.

**What is not promised.**  A session that has loaded the run before may be shown the status of that
time by the read, since the identity map does not refresh it.  The model lets the read show any
status.  The comparison in `update_run` is made by the database on the status that is there.

* `Audited`: the events of a run tell its whole history.
* `step_inv`: every step of every session keeps the invariant `Inv`.
* **`transitions_audited`**: the law over every interleaving.
-/

namespace StockResearch.ResearchAgent

open Txn

/-! ## Transitions -/

/-- `ALLOWED_RUN_TRANSITIONS.get(status, frozenset())` -/
def allowedRunTransitions : ResearchRunStatus → List ResearchRunStatus
  | .created => [.planning]
  | .planning => [.planned, .blocked, .failed]
  | .planned => [.running]
  | .running => [.paused, .partly, .blocked, .completed, .failed, .cancelled]
  | .paused => [.running, .cancelled]
  | .completed | .partly | .blocked | .failed | .cancelled => []

/-- `TERMINAL_RUN_STATUSES` -/
def ResearchRunStatus.terminal : ResearchRunStatus → Bool
  | .completed | .partly | .blocked | .failed | .cancelled => true
  | .created | .planning | .planned | .running | .paused => false

lemma allowedRunTransitions_terminal {status : ResearchRunStatus} (h : status.terminal = true) :
    allowedRunTransitions status = [] := by
  cases status <;> first | rfl | cases h

/-- A transition event. -/
structure RunEvent where
  sequenceNumber : Nat
  fromStatus : ResearchRunStatus
  toStatus : ResearchRunStatus
  reasonCode : Option String
deriving DecidableEq

/-- The status of a run and its events, in the order in which they were appended. -/
structure RunState where
  status : ResearchRunStatus
  events : List RunEvent
deriving DecidableEq

/-- What a caller asks `transition` for. -/
structure TransitionCall where
  runId : Uuid
  target : ResearchRunStatus
  reason : Option String

/-- Where a session stands in a call of `transition`. -/
inductive Phase where
  /-- Between two calls. -/
  | idle
  /-- The run was read with the given status, and the transition is allowed from it. -/
  | checked (call : TransitionCall) (seen : ResearchRunStatus)
  /-- The status is set, and the event is still to be appended. -/
  | updated (call : TransitionCall) (seen : ResearchRunStatus)
  /-- A statement failed; the database takes nothing but a rollback. -/
  | aborted

/-- The row of a run: what is committed, and the session that holds it with its version. -/
structure Slot where
  stored : Option RunState
  lock : Option (Nat × RunState)

/-- All runs, and where each session stands. -/
structure System where
  slots : Uuid → Slot
  phase : Nat → Phase

/-- No run, and no session at work. -/
def System.initial : System := ⟨fun _ => ⟨none, none⟩, fun _ => .idle⟩

/-- What a session does next.  The read comes with the status it is shown, the append with whether
the database refuses it. -/
inductive Action where
  | createRun (runId : Uuid)
  | getRun (call : TransitionCall) (seen : ResearchRunStatus)
  | updateRun
  | appendEvent (refused : Bool)
  | commit
  | rollback

/-- What the session sees of its step. -/
inductive Reply where
  | done
  /-- The call raised. -/
  | rejected (code : String)
  /-- The row is locked by another session, or the step is not one of the session's. -/
  | waiting
deriving DecidableEq

namespace System

/-- The session moves on. -/
def setPhase (s : System) (session : Nat) (phase : Phase) : System :=
  { s with phase := Function.update s.phase session phase }

/-- The session's version of a run, under its lock. -/
def setLock (s : System) (session : Nat) (runId : Uuid) (run : RunState) : System :=
  { s with slots := Function.update s.slots runId { s.slots runId with lock := some (session, run) } }

/-- The version of a run that a session works on, if the row is free or its own. -/
def version (s : System) (session : Nat) (runId : Uuid) : Option (Option RunState) :=
  match (s.slots runId).lock with
  | some (holder, run) => if holder = session then some (some run) else none
  | none => some (s.slots runId).stored

/-- `self._session.commit()`: the versions under the session's locks are stored. -/
def commitAll (s : System) (session : Nat) : System where
  slots runId := match (s.slots runId).lock with
    | some (holder, run) => if holder = session then ⟨some run, none⟩ else s.slots runId
    | none => s.slots runId
  phase := s.phase

/-- The versions under the session's locks are dropped. -/
def rollbackAll (s : System) (session : Nat) : System where
  slots runId := match (s.slots runId).lock with
    | some (holder, _) =>
        if holder = session then { s.slots runId with lock := none } else s.slots runId
    | none => s.slots runId
  phase := Function.update s.phase session .idle

end System

/-- `get_run(for_update=True)` and the checks of `transition` on what it returned. -/
def readRun (s : System) (session : Nat) (call : TransitionCall) (seen : ResearchRunStatus) :
    Reply × System :=
  match s.version session call.runId with
  | none => (.waiting, s)
  | some none => (.rejected "RESEARCH_RUN_NOT_FOUND", s)
  | some (some run) =>
      let locked := s.setLock session call.runId run
      if call.target ∈ allowedRunTransitions seen then
        (.done, locked.setPhase session (.checked call seen))
      else (.rejected "ILLEGAL_RUN_STATE_TRANSITION", locked)

/-- `update_run`: the comparison and the new status. -/
def compareAndSet (s : System) (session : Nat) (call : TransitionCall)
    (seen : ResearchRunStatus) : Reply × System :=
  match s.version session call.runId with
  | some (some run) =>
      if run.status = seen then
        (.done, (s.setLock session call.runId { run with status := call.target }).setPhase session
          (.updated call seen))
      else (.rejected "RESEARCH_RUN_STATE_MISMATCH", s.setPhase session .idle)
  | _ => (.rejected "RESEARCH_RUN_STATE_MISMATCH", s.setPhase session .idle)

/-- `append_event` with the number that `next_sequence` counts. -/
def appendEvent (s : System) (session : Nat) (call : TransitionCall) (seen : ResearchRunStatus)
    (refused : Bool) : Reply × System :=
  match refused, s.version session call.runId with
  | false, some (some run) =>
      let event : RunEvent := ⟨run.events.length + 1, seen, call.target, call.reason⟩
      (.done, (s.setLock session call.runId { run with events := run.events ++ [event] }).setPhase
        session .idle)
  | _, _ => (.rejected "IntegrityError", s.setPhase session .aborted)

/-- One step of one session. -/
def step (s : System) (op : Nat × Action) : Reply × System :=
  let session := op.1
  match op.2, s.phase session with
  | .createRun runId, .idle =>
      if (s.slots runId).stored = none ∧ (s.slots runId).lock = none then
        (.done, s.setLock session runId ⟨.created, []⟩)
      else (.waiting, s)
  | .getRun call seen, .idle => readRun s session call seen
  | .updateRun, .checked call seen => compareAndSet s session call seen
  | .appendEvent refused, .updated call seen => appendEvent s session call seen refused
  | .commit, .idle => (.done, s.commitAll session)
  | .rollback, _ => (.done, s.rollbackAll session)
  | _, _ => (.waiting, s)

/-! ## Histories -/

/-- The events lead from one status to another by allowed transitions. -/
def Follows : ResearchRunStatus → List RunEvent → ResearchRunStatus → Prop
  | start, [], status => start = status
  | start, e :: es, status =>
      e.fromStatus = start ∧ e.toStatus ∈ allowedRunTransitions start ∧ Follows e.toStatus es status

/-- **The events of a run tell its history**: they are numbered from one without a gap and lead
from `CREATED` to the status of the run. -/
structure Audited (run : RunState) : Prop where
  numbered : run.events.map (·.sequenceNumber) = List.range' 1 run.events.length
  follows : Follows .created run.events run.status

lemma audited_created : Audited ⟨.created, []⟩ := ⟨rfl, rfl⟩

lemma follows_append {start mid : ResearchRunStatus} {es : List RunEvent} {e : RunEvent}
    (h : Follows start es mid) (hfrom : e.fromStatus = mid)
    (hto : e.toStatus ∈ allowedRunTransitions mid) : Follows start (es ++ [e]) e.toStatus := by
  induction es generalizing start with
  | nil =>
      cases h
      exact ⟨hfrom, hto, rfl⟩
  | cons d es ih => exact ⟨h.1, h.2.1, ih h.2.2⟩

/-- One more event keeps the history. -/
lemma Audited.append {run : RunState} (h : Audited run) {target : ResearchRunStatus}
    (hto : target ∈ allowedRunTransitions run.status) (reason : Option String) :
    Audited ⟨target, run.events ++ [⟨run.events.length + 1, run.status, target, reason⟩]⟩ where
  numbered := by
    simp only [List.map_append, List.map_cons, List.map_nil, List.length_append,
      List.length_singleton]
    rw [h.numbered, List.range'_concat]
    simp [Nat.add_comm]
  follows := follows_append h.follows rfl hto

/-- No event stands behind one that leads to a terminal status. -/
lemma follows_terminal {start status : ResearchRunStatus} {before after : List RunEvent}
    {e : RunEvent} (h : Follows start (before ++ e :: after) status)
    (hterminal : e.toStatus.terminal = true) : after = [] ∧ status = e.toStatus := by
  induction before generalizing start with
  | nil =>
      obtain ⟨-, -, hrest⟩ := h
      cases after with
      | nil => exact ⟨rfl, hrest.symm⟩
      | cons d ds =>
          have hnone := hrest.2.1
          rw [allowedRunTransitions_terminal hterminal] at hnone
          cases hnone
  | cons d before ih => exact ih h.2.2

/-- A history that ends in a terminal status cannot be continued. -/
lemma follows_terminal_extend {start status status' : ResearchRunStatus}
    {es more : List RunEvent} (h : Follows start es status) (hterminal : status.terminal = true)
    (hmore : Follows start (es ++ more) status') : more = [] ∧ status' = status := by
  induction es generalizing start with
  | nil =>
      cases h
      cases more with
      | nil => exact ⟨rfl, hmore.symm⟩
      | cons e more =>
          have hnone := hmore.2.1
          rw [allowedRunTransitions_terminal hterminal] at hnone
          cases hnone
  | cons e es ih => exact ih h.2.2 hmore.2.2

/-- The last event leads to the status of the run. -/
lemma follows_last {start status : ResearchRunStatus} {es : List RunEvent} {e : RunEvent}
    (h : Follows start (es ++ [e]) status) : e.toStatus = status := by
  induction es generalizing start with
  | nil => exact h.2.2
  | cons d es ih => exact ih h.2.2

/-! ## The invariant -/

/-- What is known of the version under a lock, by where its session stands. -/
def LockOk (phase : Phase) (runId : Uuid) (run : RunState) : Prop :=
  match phase with
  | .updated call seen =>
      if call.runId = runId then
        run.status = call.target ∧ call.target ∈ allowedRunTransitions seen ∧
          Audited { run with status := seen }
      else Audited run
  | .aborted => True
  | .idle | .checked _ _ => Audited run

/-- The run that a session is in the middle of, if it is. -/
def Phase.runId : Phase → Option Uuid
  | .checked call _ | .updated call _ => some call.runId
  | .idle | .aborted => none

/-- Stored runs are audited, and so are the versions under locks, except for the event that a call
still owes; a version continues what is stored; a session in a call holds the row. -/
structure Inv (s : System) : Prop where
  stored : ∀ runId run, (s.slots runId).stored = some run → Audited run
  locked : ∀ runId session run, (s.slots runId).lock = some (session, run) →
    LockOk (s.phase session) runId run
  continues : ∀ runId session run old, (s.slots runId).lock = some (session, run) →
    (s.slots runId).stored = some old → old.events <+: run.events
  allowed : ∀ session call seen, s.phase session = .checked call seen →
    call.target ∈ allowedRunTransitions seen
  held : ∀ session runId, (s.phase session).runId = some runId →
    ∃ run, (s.slots runId).lock = some (session, run)

lemma inv_initial : Inv System.initial where
  stored := by rintro _ _ ⟨⟩
  locked := by rintro _ _ _ ⟨⟩
  continues := by rintro _ _ _ _ ⟨⟩
  allowed := by rintro _ _ _ ⟨⟩
  held := by rintro _ _ ⟨⟩

section Steps

variable {s : System} {session : Nat}

/-- The version that a session works on is under its lock, or stored and free. -/
lemma version_eq_some {runId : Uuid} {run : RunState}
    (h : s.version session runId = some (some run)) :
    (s.slots runId).lock = some (session, run) ∨
      ((s.slots runId).lock = none ∧ (s.slots runId).stored = some run) := by
  unfold System.version at h
  split at h
  · rename_i holder run' hlock
    split at h
    · cases h
      rename_i hholder
      exact .inl (hholder ▸ hlock)
    · cases h
  · rename_i hlock
    exact .inr ⟨hlock, Option.some.inj h⟩

/-- A session that holds a row works on the version under its lock. -/
lemma version_of_held {runId : Uuid} {run run' : RunState}
    (hheld : (s.slots runId).lock = some (session, run'))
    (h : s.version session runId = some (some run)) : run' = run := by
  simpa [System.version, hheld] using h

/-- **The rule of a step**: a session writes its version of one run and moves on. -/
lemma Inv.move (hs : Inv s) {runId : Uuid} {run : RunState} {phase : Phase}
    (hfree : ∀ holder other, (s.slots runId).lock = some (holder, other) → holder = session)
    (hcontinues : ∀ old, (s.slots runId).stored = some old → old.events <+: run.events)
    (hrun : LockOk phase runId run)
    (hothers : ∀ other r, other ≠ runId → (s.slots other).lock = some (session, r) →
      LockOk phase other r)
    (hallowed : ∀ call seen, phase = .checked call seen →
      call.target ∈ allowedRunTransitions seen)
    (hheld : ∀ other, phase.runId = some other → other = runId) :
    Inv ((s.setLock session runId run).setPhase session phase) where
  stored := by
    intro other r hr
    by_cases h : other = runId
    · subst h
      exact hs.stored other r (by simpa [System.setPhase, System.setLock] using hr)
    · exact hs.stored other r (by simpa [System.setPhase, System.setLock, h] using hr)
  locked := by
    intro other holder r hr
    by_cases h : other = runId
    · subst h
      simp only [System.setPhase, System.setLock, Function.update_self, Option.some.injEq,
        Prod.mk.injEq] at hr ⊢
      obtain ⟨rfl, rfl⟩ := hr
      simpa using hrun
    · simp only [System.setPhase, System.setLock, Function.update_of_ne h] at hr ⊢
      by_cases hsession : holder = session
      · subst hsession
        simpa using hothers other r h hr
      · simpa [Function.update_of_ne hsession] using hs.locked other holder r hr
  continues := by
    intro other holder r old hr hold
    by_cases h : other = runId
    · subst h
      simp only [System.setPhase, System.setLock, Function.update_self, Option.some.injEq,
        Prod.mk.injEq] at hr hold
      exact hr.2 ▸ hcontinues old hold
    · simp only [System.setPhase, System.setLock, Function.update_of_ne h] at hr hold
      exact hs.continues other holder r old hr hold
  allowed := by
    intro holder call seen hphase
    by_cases hsession : holder = session
    · subst hsession
      exact hallowed call seen (by simpa [System.setPhase] using hphase)
    · exact hs.allowed holder call seen
        (by simpa [System.setPhase, System.setLock, Function.update_of_ne hsession] using hphase)
  held := by
    intro holder other hphase
    by_cases hsession : holder = session
    · subst hsession
      have hother : other = runId := hheld other (by simpa [System.setPhase] using hphase)
      subst hother
      exact ⟨run, by simp [System.setPhase, System.setLock]⟩
    · obtain ⟨r, hr⟩ := hs.held holder other
        (by simpa [System.setPhase, System.setLock, Function.update_of_ne hsession] using hphase)
      have hne : other ≠ runId := by
        rintro rfl
        exact hsession (hfree holder r hr)
      exact ⟨r, by simpa [System.setPhase, System.setLock, Function.update_of_ne hne] using hr⟩

/-- A session moves on without writing. -/
lemma Inv.setPhase (hs : Inv s) {phase : Phase}
    (hlocks : ∀ runId run, (s.slots runId).lock = some (session, run) → LockOk phase runId run)
    (hnone : phase.runId = none) : Inv (s.setPhase session phase) where
  stored := hs.stored
  locked := by
    intro runId holder run hrun
    by_cases hsession : holder = session
    · subst hsession
      simpa [System.setPhase] using hlocks runId run hrun
    · simpa [System.setPhase, Function.update_of_ne hsession] using hs.locked runId holder run hrun
  continues := hs.continues
  allowed := by
    intro holder call seen hphase
    by_cases hsession : holder = session
    · subst hsession
      have heq : phase = .checked call seen := by simpa [System.setPhase] using hphase
      rw [heq] at hnone
      cases hnone
    · exact hs.allowed holder call seen
        (by simpa [System.setPhase, Function.update_of_ne hsession] using hphase)
  held := by
    intro holder runId hphase
    by_cases hsession : holder = session
    · subst hsession
      simp [System.setPhase, hnone] at hphase
    · exact hs.held holder runId
        (by simpa [System.setPhase, Function.update_of_ne hsession] using hphase)

/-- The versions of a session between two calls are audited. -/
lemma Inv.audited_of_idle (hs : Inv s) (hidle : s.phase session = .idle) {runId : Uuid}
    {run : RunState} (h : s.version session runId = some (some run)) : Audited run := by
  rcases version_eq_some h with hlock | ⟨-, hstored⟩
  · have hok := hs.locked runId session run hlock
    rwa [hidle] at hok
  · exact hs.stored runId run hstored

lemma Inv.free_of_version (hs : Inv s) {runId : Uuid} {run : RunState}
    (h : s.version session runId = some (some run)) :
    (∀ holder other, (s.slots runId).lock = some (holder, other) → holder = session) ∧
      ∀ old, (s.slots runId).stored = some old → old.events <+: run.events := by
  rcases version_eq_some h with hlock | ⟨hnone, hstored⟩
  · refine ⟨fun holder other hother => ?_, fun old hold => hs.continues runId session run old hlock hold⟩
    rw [hlock] at hother
    cases hother
    rfl
  · refine ⟨fun holder other hother => ?_, fun old hold => ?_⟩
    · rw [hnone] at hother
      cases hother
    · rw [hstored] at hold
      cases hold
      exact List.prefix_rfl

/-- A write under the session's lock that leaves it where it stands. -/
lemma Inv.setLock (hs : Inv s) (hidle : s.phase session = .idle) {runId : Uuid} {run : RunState}
    (hfree : ∀ holder other, (s.slots runId).lock = some (holder, other) → holder = session)
    (hcontinues : ∀ old, (s.slots runId).stored = some old → old.events <+: run.events)
    (hrun : Audited run) : Inv (s.setLock session runId run) := by
  have hsame : (s.setLock session runId run).setPhase session .idle =
      s.setLock session runId run := by
    have hphase : (s.setLock session runId run).phase session = .idle := hidle
    rw [System.setPhase, ← hphase, Function.update_eq_self]
  rw [← hsame]
  refine hs.move hfree hcontinues hrun (fun other r _ hr => ?_) (by rintro _ _ ⟨⟩) (by rintro _ ⟨⟩)
  have hok := hs.locked other session r hr
  rwa [hidle] at hok

lemma readRun_inv (hs : Inv s) (hidle : s.phase session = .idle) (call : TransitionCall)
    (seen : ResearchRunStatus) : Inv (readRun s session call seen).2 := by
  unfold readRun
  split
  · exact hs
  · exact hs
  · rename_i run hversion
    obtain ⟨hfree, hcontinues⟩ := hs.free_of_version hversion
    have haudited := hs.audited_of_idle hidle hversion
    dsimp only
    split
    · rename_i hallowed
      refine hs.move hfree hcontinues haudited (fun other r _ hr => ?_) ?_ ?_
      · have hok := hs.locked other session r hr
        rwa [hidle] at hok
      · rintro call' seen' ⟨⟩
        exact hallowed
      · rintro other ⟨⟩
        rfl
    · exact hs.setLock hidle hfree hcontinues haudited

lemma compareAndSet_inv (hs : Inv s) {call : TransitionCall} {seen : ResearchRunStatus}
    (hphase : s.phase session = .checked call seen) :
    Inv (compareAndSet s session call seen).2 := by
  have hlocks : ∀ runId run, (s.slots runId).lock = some (session, run) → Audited run := by
    intro runId run hrun
    have hok := hs.locked runId session run hrun
    rwa [hphase] at hok
  unfold compareAndSet
  split
  · rename_i run hversion
    obtain ⟨hfree, hcontinues⟩ := hs.free_of_version hversion
    obtain ⟨run', hheld⟩ := hs.held session call.runId (by rw [hphase]; rfl)
    have haudited : Audited run := version_of_held hheld hversion ▸ hlocks call.runId run' hheld
    split
    · rename_i hseen
      refine hs.move hfree hcontinues ?_ (fun other r hne hr => ?_) (by rintro _ _ ⟨⟩) ?_
      · rw [LockOk, if_pos rfl]
        exact ⟨rfl, hs.allowed session call seen hphase, by rw [← hseen]; exact haudited⟩
      · rw [LockOk, if_neg (Ne.symm hne)]
        exact hlocks other r hr
      · rintro other ⟨⟩
        rfl
    · exact hs.setPhase hlocks rfl
  · exact hs.setPhase hlocks rfl

lemma appendEvent_inv (hs : Inv s) {call : TransitionCall} {seen : ResearchRunStatus}
    (hphase : s.phase session = .updated call seen) (refused : Bool) :
    Inv (appendEvent s session call seen refused).2 := by
  unfold appendEvent
  split
  · rename_i run hversion
    obtain ⟨hfree, hcontinues⟩ := hs.free_of_version hversion
    obtain ⟨run', hheld⟩ := hs.held session call.runId (by rw [hphase]; rfl)
    have hok := hs.locked call.runId session run' hheld
    rw [version_of_held hheld hversion, hphase, LockOk, if_pos rfl] at hok
    obtain ⟨hstatus, hallowed, haudited⟩ := hok
    refine hs.move hfree (fun old hold => (hcontinues old hold).trans (List.prefix_append _ _)) ?_
      (fun other r hne hr => ?_) (by rintro _ _ ⟨⟩) (by rintro _ ⟨⟩)
    · -- The event that was owed completes the history.
      have hnext := haudited.append hallowed call.reason
      rw [LockOk, hstatus]
      exact hnext
    · have hother := hs.locked other session r hr
      rwa [hphase, LockOk, if_neg (Ne.symm hne)] at hother
  · exact hs.setPhase (fun _ _ _ => trivial) rfl

lemma slots_commitAll (s : System) (session : Nat) (runId : Uuid) :
    (∃ run, (s.slots runId).lock = some (session, run) ∧
      (s.commitAll session).slots runId = ⟨some run, none⟩) ∨
    ((∀ run, (s.slots runId).lock ≠ some (session, run)) ∧
      (s.commitAll session).slots runId = s.slots runId) := by
  cases hlock : (s.slots runId).lock with
  | none => exact .inr ⟨by simp, by simp [System.commitAll, hlock]⟩
  | some pair =>
      obtain ⟨holder, run⟩ := pair
      by_cases hholder : holder = session
      · subst hholder
        exact .inl ⟨run, rfl, by simp [System.commitAll, hlock]⟩
      · exact .inr ⟨by simp [hholder], by simp [System.commitAll, hlock, hholder]⟩

lemma slots_rollbackAll (s : System) (session : Nat) (runId : Uuid) :
    ((∃ run, (s.slots runId).lock = some (session, run)) ∧
      (s.rollbackAll session).slots runId = ⟨(s.slots runId).stored, none⟩) ∨
    ((∀ run, (s.slots runId).lock ≠ some (session, run)) ∧
      (s.rollbackAll session).slots runId = s.slots runId) := by
  cases hlock : (s.slots runId).lock with
  | none => exact .inr ⟨by simp, by simp [System.rollbackAll, hlock]⟩
  | some pair =>
      obtain ⟨holder, run⟩ := pair
      by_cases hholder : holder = session
      · subst hholder
        exact .inl ⟨⟨run, rfl⟩, by simp [System.rollbackAll, hlock]⟩
      · exact .inr ⟨by simp [hholder], by simp [System.rollbackAll, hlock, hholder]⟩

/-- A step that frees the rows of a session and leaves the others as they are. -/
lemma Inv.release {s' : System} (session : Nat) (hs : Inv s)
    (hslots : ∀ runId, (∃ stored, s'.slots runId = ⟨stored, none⟩ ∧
        ∀ run, stored = some run → Audited run) ∨
      ((∀ run, (s.slots runId).lock ≠ some (session, run)) ∧ s'.slots runId = s.slots runId))
    (howned : ∀ runId holder run, (s.slots runId).lock = some (holder, run) → holder ≠ session →
      s'.slots runId = s.slots runId)
    (hothers : ∀ other, other ≠ session → s'.phase other = s.phase other)
    (hidle : s'.phase session = .idle) : Inv s' where
  stored := by
    intro runId run hrun
    rcases hslots runId with ⟨stored, heq, hstored⟩ | ⟨-, heq⟩
    · rw [heq] at hrun
      exact hstored run hrun
    · rw [heq] at hrun
      exact hs.stored runId run hrun
  locked := by
    intro runId holder run hrun
    rcases hslots runId with ⟨stored, heq, -⟩ | ⟨hnot, heq⟩
    · rw [heq] at hrun
      cases hrun
    · rw [heq] at hrun
      have hne : holder ≠ session := by
        rintro rfl
        exact hnot run hrun
      rw [hothers holder hne]
      exact hs.locked runId holder run hrun
  continues := by
    intro runId holder run old hrun hold
    rcases hslots runId with ⟨stored, heq, -⟩ | ⟨-, heq⟩
    · rw [heq] at hrun
      cases hrun
    · rw [heq] at hrun hold
      exact hs.continues runId holder run old hrun hold
  allowed := by
    intro holder call seen hphase
    by_cases hsession : holder = session
    · rw [hsession, hidle] at hphase
      cases hphase
    · rw [hothers holder hsession] at hphase
      exact hs.allowed holder call seen hphase
  held := by
    intro holder runId hphase
    by_cases hsession : holder = session
    · rw [hsession, hidle] at hphase
      cases hphase
    · rw [hothers holder hsession] at hphase
      obtain ⟨run, hrun⟩ := hs.held holder runId hphase
      exact ⟨run, by rw [howned runId holder run hrun hsession]; exact hrun⟩

lemma commitAll_inv (hs : Inv s) (hidle : s.phase session = .idle) : Inv (s.commitAll session) := by
  refine hs.release session (fun runId => ?_) (fun runId holder run hrun hne => ?_) (fun _ _ => rfl) hidle
  · rcases slots_commitAll s session runId with ⟨run, hlock, heq⟩ | hsame
    · refine .inl ⟨some run, heq, ?_⟩
      rintro run' ⟨⟩
      have hok := hs.locked runId session run hlock
      rwa [hidle] at hok
    · exact .inr hsame
  · rcases slots_commitAll s session runId with ⟨run', hlock, -⟩ | ⟨-, heq⟩
    · rw [hlock] at hrun
      cases hrun
      exact absurd rfl hne
    · exact heq

lemma rollbackAll_inv (hs : Inv s) : Inv (s.rollbackAll session) := by
  refine hs.release session (fun runId => ?_) (fun runId holder run hrun hne => ?_)
    (fun other hne => by simp [System.rollbackAll, hne]) (by simp [System.rollbackAll])
  · rcases slots_rollbackAll s session runId with ⟨-, heq⟩ | hsame
    · exact .inl ⟨_, heq, fun run hrun => hs.stored runId run hrun⟩
    · exact .inr hsame
  · rcases slots_rollbackAll s session runId with ⟨⟨run', hlock⟩, -⟩ | ⟨-, heq⟩
    · rw [hlock] at hrun
      cases hrun
      exact absurd rfl hne
    · exact heq

/-- **Every step of every session keeps the invariant.** -/
theorem step_inv (hs : Inv s) (op : Nat × Action) : Inv (step s op).2 := by
  obtain ⟨session, action⟩ := op
  unfold step
  dsimp only
  split
  · rename_i runId hphase
    split
    · rename_i hfree
      refine hs.setLock hphase (fun holder other h => ?_) (fun old h => ?_) audited_created
      · rw [hfree.2] at h
        cases h
      · rw [hfree.1] at h
        cases h
    · exact hs
  · rename_i hphase
    exact readRun_inv hs hphase _ _
  · rename_i hphase
    exact compareAndSet_inv hs hphase
  · rename_i hphase
    exact appendEvent_inv hs hphase _
  · rename_i hphase
    exact commitAll_inv hs hphase
  · exact rollbackAll_inv hs
  · exact hs

/-! ## What a step changes -/

/-- What a session sees of a run: its own version under its lock, else what is stored. -/
def System.visible (s : System) (viewer : Nat) (runId : Uuid) : Option RunState :=
  match (s.slots runId).lock with
  | some (holder, run) => if holder = viewer then some run else (s.slots runId).stored
  | none => (s.slots runId).stored

lemma stored_setLock (runId other : Uuid) (run : RunState) :
    ((s.setLock session runId run).slots other).stored = (s.slots other).stored := by
  by_cases h : other = runId
  · subst h
    simp [System.setLock]
  · simp [System.setLock, h]

/-- Locking a row and keeping its version changes what nobody sees. -/
lemma visible_setLock {runId : Uuid} {run : RunState}
    (hversion : s.version session runId = some (some run)) (viewer : Nat) (other : Uuid) :
    (s.setLock session runId run).visible viewer other = s.visible viewer other := by
  by_cases h : other = runId
  · subst h
    rcases version_eq_some hversion with hlock | ⟨hlock, hstored⟩
    · simp [System.visible, System.setLock, hlock]
    · simp [System.visible, System.setLock, hlock, hstored]
  · simp [System.visible, System.setLock, h]

/-- Only a commit stores anything. -/
lemma stored_step (op : Nat × Action) :
    (∀ runId, ((step s op).2.slots runId).stored = (s.slots runId).stored) ∨
      (op.2 = .commit ∧ s.phase op.1 = .idle ∧ (step s op).2 = s.commitAll op.1) := by
  obtain ⟨session, action⟩ := op
  unfold step
  dsimp only
  split
  · split
    · exact .inl fun other => stored_setLock _ other _
    · exact .inl fun _ => rfl
  · unfold readRun
    refine .inl fun other => ?_
    split
    · rfl
    · rfl
    · dsimp only
      split
      · exact stored_setLock _ other _
      · exact stored_setLock _ other _
  · unfold compareAndSet
    refine .inl fun other => ?_
    split
    · split
      · exact stored_setLock _ other _
      · rfl
    · rfl
  · unfold appendEvent
    refine .inl fun other => ?_
    split
    · exact stored_setLock _ other _
    · rfl
  · rename_i hphase
    exact .inr ⟨rfl, hphase, rfl⟩
  · refine .inl fun runId => ?_
    rcases slots_rollbackAll s session runId with ⟨-, heq⟩ | ⟨-, heq⟩
    · rw [heq]
    · rw [heq]
  · exact .inl fun _ => rfl

/-- A stored run stays stored, its events are only added to, and in a terminal status it stays as
it is. -/
lemma stored_continues (hs : Inv s) (op : Nat × Action) {runId : Uuid} {old : RunState}
    (hold : (s.slots runId).stored = some old) :
    ∃ run, ((step s op).2.slots runId).stored = some run ∧ old.events <+: run.events ∧
      (old.status.terminal = true → run = old) := by
  rcases stored_step op with hsame | ⟨-, hidle, hcommit⟩
  · exact ⟨old, (hsame runId).trans hold, List.prefix_rfl, fun _ => rfl⟩
  · rcases slots_commitAll s op.1 runId with ⟨run, hlock, heq⟩ | ⟨-, heq⟩
    · have hstarts := hs.continues runId op.1 run old hlock hold
      have haudited : Audited run := by
        have hok := hs.locked runId op.1 run hlock
        rwa [hidle] at hok
      refine ⟨run, by rw [hcommit, heq], hstarts, fun hterminal => ?_⟩
      obtain ⟨more, hmore⟩ := hstarts
      have hfollows := haudited.follows
      rw [← hmore] at hfollows
      obtain ⟨hnil, hstatus⟩ :=
        follows_terminal_extend (hs.stored runId old hold).follows hterminal hfollows
      rw [hnil, List.append_nil] at hmore
      cases run
      cases old
      simp_all
    · exact ⟨old, by rw [hcommit, heq]; exact hold, List.prefix_rfl, fun _ => rfl⟩

/-- **A rejected step** changes no run that anybody sees, and where the status had been set already
it leaves the session with nothing but a rollback. -/
lemma step_rejected {op : Nat × Action} {code : String} (h : (step s op).1 = .rejected code) :
    (∀ viewer runId, (step s op).2.visible viewer runId = s.visible viewer runId) ∧
      ∀ call seen, s.phase op.1 = .updated call seen → (step s op).2.phase op.1 = .aborted := by
  obtain ⟨session, action⟩ := op
  revert h
  unfold step
  dsimp only
  split
  · split
    · rintro ⟨⟩
    · rintro ⟨⟩
  · rename_i hidle
    unfold readRun
    split
    · rintro ⟨⟩
    · refine fun _ => ⟨fun _ _ => rfl, fun call seen hphase => ?_⟩
      rw [hidle] at hphase
      cases hphase
    · rename_i run hversion
      dsimp only
      split
      · rintro ⟨⟩
      · refine fun _ => ⟨visible_setLock hversion, fun call seen hphase => ?_⟩
        rw [hidle] at hphase
        cases hphase
  · rename_i hchecked
    unfold compareAndSet
    split
    · split
      · rintro ⟨⟩
      · refine fun _ => ⟨fun _ _ => rfl, fun call seen hphase => ?_⟩
        rw [hchecked] at hphase
        cases hphase
    · refine fun _ => ⟨fun _ _ => rfl, fun call seen hphase => ?_⟩
      rw [hchecked] at hphase
      cases hphase
  · unfold appendEvent
    split
    · rintro ⟨⟩
    · exact fun _ => ⟨fun _ _ => rfl, fun _ _ _ => by simp [System.setPhase]⟩
  · rintro ⟨⟩
  · rintro ⟨⟩
  · rintro ⟨⟩

/-- After a failed statement a session stores nothing, and it goes on only by dropping what it
had. -/
lemma step_aborted {op : Nat × Action} (h : s.phase op.1 = .aborted) :
    (∀ runId, ((step s op).2.slots runId).stored = (s.slots runId).stored) ∧
      ((step s op).2.phase op.1 = .aborted ∨
        ∀ runId, (step s op).2.visible op.1 runId = ((step s op).2.slots runId).stored) := by
  refine ⟨?_, ?_⟩
  · rcases stored_step op with hsame | ⟨-, hidle, -⟩
    · exact hsame
    · rw [h] at hidle
      cases hidle
  · obtain ⟨session, action⟩ := op
    cases action with
    | rollback =>
        refine .inr fun runId => ?_
        have hstep : (step s (session, .rollback)).2 = s.rollbackAll session := by
          simp only [step, h]
        rw [hstep]
        rcases slots_rollbackAll s session runId with ⟨-, heq⟩ | ⟨hnot, heq⟩
        · rw [System.visible, heq]
        · rw [System.visible, heq]
          split
          · rename_i holder run hlock
            rw [if_neg]
            rintro rfl
            exact hnot run hlock
          · rfl
    | createRun _ => exact .inl (by simp only [step, h])
    | getRun _ _ => exact .inl (by simp only [step, h])
    | updateRun => exact .inl (by simp only [step, h])
    | appendEvent _ => exact .inl (by simp only [step, h])
    | commit => exact .inl (by simp only [step, h])

end Steps

/-! ## The law -/

/-- What holds of every single step of a run of the system. -/
structure StepLaw (e : Event System (Nat × Action) Reply) : Prop where
  appended : ∀ runId old, (e.before.slots runId).stored = some old →
    ∃ run, (e.after.slots runId).stored = some run ∧ old.events <+: run.events ∧
      (old.status.terminal = true → run = old)
  rejected : ∀ code, e.outcome = .rejected code →
    (∀ viewer runId, e.after.visible viewer runId = e.before.visible viewer runId) ∧
      ∀ call seen, e.before.phase e.call.1 = .updated call seen →
        e.after.phase e.call.1 = .aborted
  aborted : e.before.phase e.call.1 = .aborted →
    (∀ runId, (e.after.slots runId).stored = (e.before.slots runId).stored) ∧
      (e.after.phase e.call.1 = .aborted ∨
        ∀ runId, e.after.visible e.call.1 runId = (e.after.slots runId).stored)

/-- **The history of a run under every interleaving.**  Whatever the sessions do and in whatever
order their steps come, a stored run has its events numbered from one without a gap, they are a
path of allowed transitions from `CREATED` to its status, and none stands behind one with a terminal
status; the same holds of what a session sees between its calls.  Stored events are never lost or
changed, a run in a terminal status stays as it is, and a rejected call changes nothing: a call that
is refused after it set the status leaves its session to roll back. -/
theorem transitions_audited (ops : List (Nat × Action)) :
    (∀ runId run, ((finish step System.initial ops).slots runId).stored = some run →
      Audited run ∧ (∀ before e, run.events = before ++ [e] → e.toStatus = run.status) ∧
        ∀ before e after, run.events = before ++ e :: after → e.toStatus.terminal = true →
          after = []) ∧
    (∀ session runId run, (finish step System.initial ops).phase session = .idle →
      (finish step System.initial ops).visible session runId = some run → Audited run) ∧
    ∀ e ∈ trace step System.initial ops, StepLaw e := by
  have hstep : ∀ s o, Inv s → True → Inv (step s o).2 := fun s o hs _ => step_inv hs o
  have hfinish : Inv (finish step System.initial ops) :=
    finish_invariant hstep inv_initial fun _ _ => trivial
  refine ⟨fun runId run hrun => ?_, fun session runId run hidle hrun => ?_, fun e he => ?_⟩
  · have haudited := hfinish.stored runId run hrun
    refine ⟨haudited, fun before e hevents => ?_, fun before e after hevents hterminal => ?_⟩
    · exact follows_last (hevents ▸ haudited.follows)
    · exact (follows_terminal (hevents ▸ haudited.follows) hterminal).1
  · unfold System.visible at hrun
    split at hrun
    · rename_i holder run' hlock
      split at hrun
      · rename_i hholder
        cases hrun
        have hok := hfinish.locked runId holder run hlock
        rwa [hholder, hidle] at hok
      · exact hfinish.stored runId run hrun
    · exact hfinish.stored runId run hrun
  · have hbefore := (trace_invariant hstep inv_initial (fun _ _ => trivial) e he).1
    have hevent := step_of_mem_trace he
    have houtcome : (step e.before e.call).1 = e.outcome := by rw [hevent]
    have hafter : (step e.before e.call).2 = e.after := by rw [hevent]
    refine ⟨fun runId old hold => ?_, fun code hcode => ?_, fun haborted => ?_⟩
    · rw [← hafter]
      exact stored_continues hbefore e.call hold
    · rw [← hafter]
      exact step_rejected (houtcome.trans hcode)
    · rw [← hafter]
      exact step_aborted haborted

end StockResearch.ResearchAgent
