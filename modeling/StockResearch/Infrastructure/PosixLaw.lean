import StockResearch.Infrastructure.BlobUris
import StockResearch.Infrastructure.PosixAnchor

/-!
# What the calls on files do

**The file system.**  `rename_rename`: to move a file away and back changes nothing.

**Calls.**  One rule for each function: what it ends in when its call fails, and when it does not.

**The quarantine.**  `Moved` and `Stopped` say which of the candidate names is taken, and
`CheckFails` that the look at the file that was moved fails.  `quarantineExpected_end`: the four ways
in which an entry can end up (`QuarantineEnd`), with the number of the call at which they do.
-/

namespace StockResearch.Infrastructure

open PyText Txn Txn.Program

/-! ## The file system -/

namespace FileSystem

variable {fs : FileSystem} {source destination entry : Entry}

lemma ext_names {fs fs' : FileSystem} (hnames : fs.names = fs'.names) (hfiles : fs.files = fs'.files)
    (hnext : fs.next = fs'.next) : fs = fs' := by
  obtain ⟨names, files, next, _⟩ := fs
  obtain ⟨names', files', next', _⟩ := fs'
  obtain rfl : names = names' := hnames
  obtain rfl : files = files' := hfiles
  obtain rfl : next = next' := hnext
  rfl

@[simp] lemma names_link : (fs.link source destination).names entry =
    if entry = destination then fs.names source else fs.names entry := rfl

@[simp] lemma names_unlink {gone : Entry} : (fs.unlink gone).names entry =
    if entry = gone then none else fs.names entry := rfl

@[simp] lemma files_rename : (fs.rename source destination).files = fs.files := rfl

lemma names_rename_source : (fs.rename source destination).names source = none := if_pos rfl

lemma names_rename_destination (hne : destination ≠ source) :
    (fs.rename source destination).names destination = fs.names source := by
  rw [rename, names_unlink, if_neg hne, names_link, if_pos rfl]

lemma names_rename (hsource : entry ≠ source) (hdestination : entry ≠ destination) :
    (fs.rename source destination).names entry = fs.names entry := by
  rw [rename, names_unlink, if_neg hsource, names_link, if_neg hdestination]

/-- Away and back again. -/
theorem rename_rename (hfree : fs.names destination = none) (hne : destination ≠ source) :
    (fs.rename source destination).rename destination source = fs := by
  refine ext_names (funext fun entry => ?_) rfl rfl
  by_cases hsource : entry = source
  · subst hsource
    rw [names_rename_destination hne.symm, names_rename_destination hne]
  · by_cases hdestination : entry = destination
    · subst hdestination
      rw [names_rename_source, hfree]
    · rw [names_rename hdestination hsource, names_rename hsource hdestination]

end FileSystem

/-! ## Calls -/

/-- The given number of calls later. -/
def World.tick (w : World) (n : Nat) : World := { w with calls := w.calls + n }

@[simp] lemma World.tick_fs (w : World) (n : Nat) : (w.tick n).fs = w.fs := rfl

@[simp] lemma World.tick_calls (w : World) (n : Nat) : (w.tick n).calls = w.calls + n := rfl

@[simp] lemma World.tick_tokens (w : World) (n : Nat) : (w.tick n).tokens = w.tokens := rfl

/-- With another file system. -/
def World.on (w : World) (fs : FileSystem) : World := { w with fs := fs }

/-- The call fails. -/
def OperatingSystem.Fails (os : OperatingSystem) (call : Nat) : Prop := os.fault call ≠ none

instance (os : OperatingSystem) (call : Nat) : Decidable (os.Fails call) :=
  inferInstanceAs (Decidable (os.fault call ≠ none))

section Calls

variable {os : OperatingSystem} {w : World}

lemma wp_systemCall {α : Type} {effect : FileSystem → Except Errno α × FileSystem}
    {Q : Except Errno α → World → Prop}
    (hfault : ∀ e, os.fault w.calls = some e → Q (.error e) (w.tick 1))
    (hdone : ¬ os.Fails w.calls → Q (effect w.fs).1 ((w.tick 1).on (effect w.fs).2)) :
    wp (systemCall os effect) Q w := by
  unfold wp systemCall
  cases hcall : os.fault w.calls with
  | some e => exact hfault e hcall
  | none => exact hdone (not_not.mpr hcall)

lemma fails_of_fault {call : Nat} {e : Errno} (h : os.fault call = some e) : os.Fails call :=
  fun hnone => by simp [h] at hnone

/-- A call on names that stay as they are. -/
lemma wp_readCall {α : Type} {f : Errno → Failure} {answer : FileSystem → Except Errno α}
    {Q : Except Failure α → World → Prop}
    (hfault : ∀ e, os.fault w.calls = some e → Q (.error (f e)) (w.tick 1))
    (hdone : ¬ os.Fails w.calls → Q ((answer w.fs).mapError f) (w.tick 1)) :
    wp (translate f (systemCall os fun fs => (answer fs, fs))) Q w :=
  (wp_translate _ _).mpr (wp_systemCall hfault hdone)

lemma wp_fstat {descriptor : Nat} {Q : Except Failure Stat → World → Prop}
    (hfault : os.Fails w.calls → Q (.error operationFailed) (w.tick 1))
    (hdone : ¬ os.Fails w.calls →
      Q (.ok ⟨descriptor, (w.fs.files descriptor).kind⟩) (w.tick 1)) :
    wp (fstat os descriptor) Q w :=
  wp_readCall (fun _ h => hfault (fails_of_fault h)) hdone

lemma wp_fstatDirectory {directory : DirectoryStat} {Q : Except Failure DirectoryStat → World → Prop}
    (hfault : os.Fails w.calls → Q (.error operationFailed) (w.tick 1))
    (hdone : ¬ os.Fails w.calls → Q (.ok directory) (w.tick 1)) :
    wp (fstatDirectory os directory) Q w :=
  wp_readCall (fun _ h => hfault (fails_of_fault h)) hdone

lemma wp_closeFd {cleanup : Bool} {Q : Except Failure Unit → World → Prop}
    (hfault : os.Fails w.calls → Q (.error (if cleanup then .cleanup else operationFailed)) (w.tick 1))
    (hdone : ¬ os.Fails w.calls → Q (.ok ()) (w.tick 1)) : wp (closeFd os cleanup) Q w :=
  wp_readCall (fun _ h => hfault (fails_of_fault h)) hdone

/-- `try … except BlobStorageError` around a program that raises nothing else. -/
lemma wp_failed {x : Program Failure World Unit} {Q : Except Failure Bool → World → Prop}
    (h : wp x (fun r w' => match r with
      | .ok () => Q (.ok false) w'
      | .error e => e.isStorageError = true ∧ Q (.ok true) w') w) : wp (failed x) Q w := by
  refine wp_attempt_seq h fun r w' hr => ?_
  match r with
  | .ok () => exact hr
  | .error e =>
      change wp (if e.isStorageError = true then pure true else throw e) Q w'
      rw [if_pos hr.1]
      exact hr.2

lemma wp_failed_closeFd {cleanup : Bool} {Q : Except Failure Bool → World → Prop}
    (h : Q (.ok (decide (os.Fails w.calls))) (w.tick 1)) : wp (failed (closeFd os cleanup)) Q w := by
  refine wp_failed (wp_closeFd (fun hfails => ?_) fun hfails => ?_)
  · rw [decide_eq_true hfails] at h
    refine ⟨?_, h⟩
    cases cleanup <;> rfl
  · rw [decide_eq_false hfails] at h
    exact h

/-- A failure that is reported is never one of the two answers about names. -/
lemma storageError_of_fault {call : Nat} {e : Errno} (h : os.fault call = some e) :
    e ≠ .enoent ∧ e ≠ .eexist := by
  obtain ⟨hmissing, htaken⟩ := os.truthful call
  exact ⟨fun heq => hmissing (heq ▸ h), fun heq => htaken (heq ▸ h)⟩

lemma wp_renameNoreplace {source destination : Entry} {Q : Except Failure Unit → World → Prop}
    (hfault : ∀ e, os.Fails w.calls → e.isStorageError = true → Q (.error e) (w.tick 1))
    (hmissing : ¬ os.Fails w.calls → w.fs.names source = none → Q (.error .missing) (w.tick 1))
    (hcollision : ¬ os.Fails w.calls → w.fs.names source ≠ none → w.fs.names destination ≠ none →
      Q (.error .collision) (w.tick 1))
    (hdone : ¬ os.Fails w.calls → w.fs.names source ≠ none → w.fs.names destination = none →
      Q (.ok ()) ((w.tick 1).on (w.fs.rename source destination))) :
    wp (renameNoreplace os source destination) Q w := by
  refine (wp_translate _ _).mpr (wp_systemCall (fun e he => ?_) fun hcall => ?_)
  · refine hfault _ (fails_of_fault he) ?_
    obtain ⟨hne, hne'⟩ := storageError_of_fault he
    cases e <;> first | exact absurd rfl hne | exact absurd rfl hne' | rfl
  · by_cases hsource : w.fs.names source = none
    · rw [if_pos hsource]
      exact hmissing hcall hsource
    · rw [if_neg hsource]
      by_cases hdestination : w.fs.names destination = none
      · rw [if_pos hdestination]
        exact hdone hcall hsource hdestination
      · rw [if_neg hdestination]
        exact hcollision hcall hsource hdestination

lemma wp_unlinkName {entry : Entry} (hentry : w.fs.names entry ≠ none)
    {Q : Except Failure Unit → World → Prop}
    (hfault : os.Fails w.calls → Q (.error .cleanup) (w.tick 1))
    (hdone : ¬ os.Fails w.calls → Q (.ok ()) ((w.tick 1).on (w.fs.unlink entry))) :
    wp (unlinkName os entry) Q w := by
  refine (wp_translate _ _).mpr (wp_systemCall (fun e he => ?_) fun hcall => ?_)
  · obtain ⟨hne, -⟩ := storageError_of_fault he
    cases e <;> first | exact absurd rfl hne | exact hfault (fails_of_fault he)
  · rw [if_neg hentry]
    exact hdone hcall

lemma wp_openExistingFd {entry : Entry} {Q : Except Failure Nat → World → Prop}
    (hfault : ∀ e, os.Fails w.calls → e.isStorageError = true → Q (.error e) (w.tick 1))
    (hmissing : ¬ os.Fails w.calls → w.fs.names entry = none → Q (.error .missing) (w.tick 1))
    (hlink : ∀ i, ¬ os.Fails w.calls → w.fs.names entry = some i →
      (w.fs.files i).kind = .symlink → Q (.error (.storage invalidUri)) (w.tick 1))
    (hdone : ∀ i, ¬ os.Fails w.calls → w.fs.names entry = some i →
      (w.fs.files i).kind ≠ .symlink → Q (.ok i) (w.tick 1)) :
    wp (openExistingFd os entry) Q w := by
  refine (wp_translate _ _).mpr (wp_systemCall (fun e he => ?_) fun hcall => ?_)
  · refine hfault _ (fails_of_fault he) ?_
    obtain ⟨hne, -⟩ := storageError_of_fault he
    cases e <;> first | exact absurd rfl hne | rfl
  · cases hentry : w.fs.names entry with
    | none => exact hmissing hcall hentry
    | some i =>
        by_cases hkind : (w.fs.files i).kind = .symlink
        · simp only [if_pos hkind]
          exact hlink i hcall hentry hkind
        · simp only [if_neg hkind]
          exact hdone i hcall hentry hkind

end Calls

/-! ## Moving an entry away -/

section Moves

variable (os : OperatingSystem) (fs : FileSystem)

/-- The name of a token is taken in the quarantine. -/
def Taken (token : Nat) : Prop := fs.names (.quarantine, quarantineName (os.token token)) ≠ none

/-- Of `n` candidates from the given call and token on, the one with the number `k` is free, and is
reached. -/
structure Moved (call token n k : Nat) : Prop where
  lt : k < n
  quiet : ∀ j ≤ k, ¬ os.Fails (call + j)
  taken : ∀ j < k, Taken os fs (token + j)
  free : ¬ Taken os fs (token + k)

/-- The candidate with the number `k` is the last one, and the move fails or it is taken as well. -/
structure Stopped (call token n k : Nat) : Prop where
  lt : k < n
  taken : ∀ j < k, ¬ os.Fails (call + j) ∧ Taken os fs (token + j)
  stop : os.Fails (call + k) ∨ (k + 1 = n ∧ Taken os fs (token + k))

variable {os fs} {call token n k l : Nat}

lemma Moved.not_stopped (h : Moved os fs call token n k) (h' : Stopped os fs call token n l) : False := by
  rcases Nat.lt_trichotomy k l with hkl | rfl | hlk
  · exact h.free (h'.taken k hkl).2
  · rcases h'.stop with hfails | ⟨-, htaken⟩
    · exact h.quiet k le_rfl hfails
    · exact h.free htaken
  · rcases h'.stop with hfails | ⟨hlast, -⟩
    · exact h.quiet l hlk.le hfails
    · have hlt := h.lt
      omega

lemma Moved.unique (h : Moved os fs call token n k) (h' : Moved os fs call token n l) : k = l := by
  rcases Nat.lt_trichotomy k l with hkl | rfl | hlk
  · exact absurd (h'.taken k hkl) h.free
  · rfl
  · exact absurd (h.taken l hlk) h'.free

lemma Stopped.unique (h : Stopped os fs call token n k) (h' : Stopped os fs call token n l) :
    k = l := by
  have hle : ∀ {k l}, Stopped os fs call token n k → Stopped os fs call token n l → l ≤ k := by
    intro k l h h'
    by_contra hlt
    rcases h.stop with hfails | ⟨hlast, -⟩
    · exact (h'.taken k (not_le.mp hlt)).1 hfails
    · have := h'.lt
      omega
  exact le_antisymm (hle h' h) (hle h h')

/-- A candidate that is taken is passed over. -/
lemma Moved.step (hcall : ¬ os.Fails call) (htaken : Taken os fs token)
    (h : Moved os fs (call + 1) (token + 1) n k) : Moved os fs call token (n + 1) (k + 1) where
  lt := Nat.succ_lt_succ h.lt
  quiet j hj := by
    cases j with
    | zero => exact hcall
    | succ j =>
        rw [Nat.add_comm j 1, ← Nat.add_assoc]
        exact h.quiet j (Nat.le_of_succ_le_succ hj)
  taken j hj := by
    cases j with
    | zero => exact htaken
    | succ j =>
        rw [Nat.add_comm j 1, ← Nat.add_assoc]
        exact h.taken j (Nat.lt_of_succ_lt_succ hj)
  free := by
    rw [Nat.add_comm k 1, ← Nat.add_assoc]
    exact h.free

lemma Stopped.step (hcall : ¬ os.Fails call) (htaken : Taken os fs token)
    (h : Stopped os fs (call + 1) (token + 1) n k) : Stopped os fs call token (n + 1) (k + 1) where
  lt := Nat.succ_lt_succ h.lt
  taken j hj := by
    cases j with
    | zero => exact ⟨hcall, htaken⟩
    | succ j =>
        rw [Nat.add_comm j 1, ← Nat.add_assoc, ← Nat.add_assoc]
        exact h.taken j (Nat.lt_of_succ_lt_succ hj)
  stop := by
    rw [Nat.add_comm k 1, ← Nat.add_assoc, ← Nat.add_assoc]
    exact h.stop.imp_right fun h => ⟨by omega, h.2⟩

end Moves

section Quarantine

variable (os : OperatingSystem) (w : World) (name : Text)

/-- The world after the entry was moved to the candidate with the number `k`. -/
def World.away (k : Nat) : World where
  fs := w.fs.rename (.root, name) (.quarantine, quarantineName (os.token (w.tokens + k)))
  calls := w.calls + (k + 1)
  tokens := w.tokens + (k + 1)

/-- The world after `k + 1` candidates have come to nothing. -/
def World.tried (k : Nat) : World := ⟨w.fs, w.calls + (k + 1), w.tokens + (k + 1)⟩

/-- How a move ends. -/
inductive MoveEnd (n : Nat) : Except Failure Text → World → Prop where
  | moved {k : Nat} (h : Moved os w.fs w.calls w.tokens n k) :
      MoveEnd n (.ok (quarantineName (os.token (w.tokens + k)))) (w.away os name k)
  | stopped {k : Nat} {e : Failure} (h : Stopped os w.fs w.calls w.tokens n k)
      (he : e.isStorageError = true) : MoveEnd n (.error e) (w.tried k)

/-- The look at a file that was moved fails, from the given call on; `back` is the number of the call
that moves it back. -/
def CheckFails (call back : Nat) : Prop :=
  (os.Fails call ∧ back = call + 1) ∨ (¬ os.Fails call ∧ os.Fails (call + 1) ∧ back = call + 3)

/-- How a quarantine ends. -/
inductive QuarantineEnd (identity : Nat) : Except Failure Quarantined → World → Prop where
  | stopped {k : Nat} {e : Failure} (h : Stopped os w.fs w.calls w.tokens 8 k)
      (he : e.isStorageError = true) : QuarantineEnd identity (.error e) (w.tried k)
  | restored {k back : Nat} (h : Moved os w.fs w.calls w.tokens 8 k)
      (hcheck : CheckFails os (w.calls + (k + 1)) back) (hback : ¬ os.Fails back) :
      QuarantineEnd identity (.error .cleanup) ⟨w.fs, back + 1, w.tokens + (k + 1)⟩
  | lost {k back : Nat} (h : Moved os w.fs w.calls w.tokens 8 k)
      (hcheck : CheckFails os (w.calls + (k + 1)) back) (hback : os.Fails back) :
      QuarantineEnd identity (.error .cleanup) { w.away os name k with calls := back + 1 }
  | moved {k : Nat} (h : Moved os w.fs w.calls w.tokens 8 k)
      (hopen : ¬ os.Fails (w.calls + (k + 1))) (hstat : ¬ os.Fails (w.calls + (k + 1) + 1)) :
      QuarantineEnd identity
        (.ok ⟨name, quarantineName (os.token (w.tokens + k)), identity, identity⟩)
        ((w.away os name k).tick 2)

variable {os w name}

lemma CheckFails.unique {call back back' : Nat} (h : CheckFails os call back)
    (h' : CheckFails os call back') : back = back' := by
  rcases h with ⟨hopen, rfl⟩ | ⟨hopen, -, rfl⟩
  · rcases h' with ⟨-, rfl⟩ | ⟨hopen', -⟩
    · rfl
    · exact absurd hopen hopen'
  · rcases h' with ⟨hopen', -⟩ | ⟨-, -, rfl⟩
    · exact absurd hopen' hopen
    · rfl

lemma CheckFails.not_passes {call back : Nat} (h : CheckFails os call back)
    (hopen : ¬ os.Fails call) (hstat : ¬ os.Fails (call + 1)) : False := by
  rcases h with ⟨hfails, -⟩ | ⟨-, hfails, -⟩
  · exact hopen hfails
  · exact hstat hfails

lemma token_tried (k : Nat) : (w.tried 0).tokens + k = w.tokens + (k + 1) := by
  change w.tokens + 1 + k = w.tokens + (k + 1)
  omega

lemma away_tried (k : Nat) : (w.tried 0).away os name k = w.away os name (k + 1) := by
  have hcalls : w.calls + 1 + (k + 1) = w.calls + (k + 1 + 1) := by omega
  have htokens : w.tokens + 1 + (k + 1) = w.tokens + (k + 1 + 1) := by omega
  rw [World.away, World.away, token_tried]
  exact congrArg₂ (World.mk _) hcalls htokens

lemma tried_tried (k : Nat) : (w.tried 0).tried k = w.tried (k + 1) := by
  have hcalls : w.calls + 1 + (k + 1) = w.calls + (k + 1 + 1) := by omega
  have htokens : w.tokens + 1 + (k + 1) = w.tokens + (k + 1 + 1) := by omega
  exact congrArg₂ (World.mk w.fs) hcalls htokens

lemma wp_newToken {Q : Except Failure Key → World → Prop} :
    wp (newToken os) Q w ↔ Q (.ok (os.token w.tokens)) { w with tokens := w.tokens + 1 } := Iff.rfl

/-- One round of the loop. -/
lemma wp_moveAway {n : Nat} {Q : Except Failure Text → World → Prop}
    (hname : w.fs.names (.root, name) ≠ none)
    (hfault : ∀ e, os.Fails w.calls → e.isStorageError = true → Q (.error e) (w.tried 0))
    (htaken : ¬ os.Fails w.calls → Taken os w.fs w.tokens → wp (moveAway os name n) Q (w.tried 0))
    (hfree : ¬ os.Fails w.calls → ¬ Taken os w.fs w.tokens →
      Q (.ok (quarantineName (os.token w.tokens))) (w.away os name 0)) :
    wp (moveAway os name (n + 1)) Q w := by
  refine (wp_bind _ _).mpr (wp_newToken.mpr ?_)
  refine (wp_bind _ _).mpr ((wp_attempt _).mpr (wp_renameNoreplace ?_ ?_ ?_ ?_))
  · intro e hcall he
    cases e with
    | missing => cases he
    | collision => cases he
    | cleanup => exact hfault _ hcall he
    | storage error => exact hfault _ hcall he
  · exact fun _ hmissing => absurd hmissing hname
  · exact fun hcall _ hdestination => htaken hcall hdestination
  · exact fun hcall _ hdestination => hfree hcall (not_not.mpr hdestination)

/-- An entry that is there is moved away, or the moves stop. -/
theorem moveAway_end (n : Nat) (hname : w.fs.names (.root, name) ≠ none) :
    wp (moveAway os name (n + 1)) (MoveEnd os w name (n + 1)) w := by
  induction n generalizing w with
  | zero =>
      refine wp_moveAway hname (fun e hcall he => ?_) (fun hcall htaken => ?_) fun hcall hfree => ?_
      · exact .stopped ⟨Nat.one_pos, fun j hj => absurd hj j.not_lt_zero, .inl hcall⟩ he
      · exact .stopped ⟨Nat.one_pos, fun j hj => absurd hj j.not_lt_zero, .inr ⟨rfl, htaken⟩⟩ rfl
      · refine .moved (k := 0) ⟨Nat.one_pos, fun j hj => ?_, fun j hj => absurd hj j.not_lt_zero, hfree⟩
        rwa [Nat.le_zero.mp hj]
  | succ n ih =>
      refine wp_moveAway hname (fun e hcall he => ?_) (fun hcall htaken => ?_) fun hcall hfree => ?_
      · exact .stopped ⟨Nat.succ_pos _, fun j hj => absurd hj j.not_lt_zero, .inl hcall⟩ he
      · refine wp_mono (ih (w := w.tried 0) hname) fun r w' h => ?_
        cases h with
        | moved h =>
            rw [token_tried, away_tried]
            exact .moved (h.step hcall htaken)
        | stopped h he =>
            rw [tried_tried]
            exact .stopped (h.step hcall htaken) he
      · refine .moved (k := 0) ⟨Nat.succ_pos _, fun j hj => ?_, fun j hj => absurd hj j.not_lt_zero, hfree⟩
        rwa [Nat.le_zero.mp hj]

/-- Moving an entry back to its name. -/
lemma wp_restoreQuarantine {quarantined : Text} {Q : Except Failure Bool → World → Prop}
    (hthere : w.fs.names (.quarantine, quarantined) ≠ none)
    (hfree : w.fs.names (.root, name) = none)
    (hfault : os.Fails w.calls → Q (.ok true) (w.tick 1))
    (hdone : ¬ os.Fails w.calls →
      Q (.ok false) ((w.tick 1).on (w.fs.rename (.quarantine, quarantined) (.root, name)))) :
    wp (failed (restoreQuarantine os quarantined name)) Q w := by
  refine wp_failed ((wp_translate _ _).mpr (wp_renameNoreplace ?_ ?_ ?_ ?_))
  · exact fun e hcall _ => ⟨rfl, hfault hcall⟩
  · exact fun _ hmissing => absurd hmissing hthere
  · exact fun _ _ htaken => absurd hfree htaken
  · exact fun hcall _ _ => hdone hcall

/-- After a check that has failed the entry is moved back, or is lost. -/
lemma wp_back {call k : Nat} {Q : Except Failure Bool → World → Prop}
    (hname : w.fs.names (.root, name) ≠ none) (h : Moved os w.fs w.calls w.tokens 8 k)
    (hfault : os.Fails call → Q (.ok true) { w.away os name k with calls := call + 1 })
    (hdone : ¬ os.Fails call → Q (.ok false) ⟨w.fs, call + 1, w.tokens + (k + 1)⟩) :
    wp (failed (restoreQuarantine os (quarantineName (os.token (w.tokens + k))) name)) Q
      { w.away os name k with calls := call } := by
  have hfree := not_not.mp h.free
  have hne : ((.quarantine, quarantineName (os.token (w.tokens + k))) : Entry) ≠ (.root, name) :=
    fun heq => by cases congrArg Prod.fst heq
  refine wp_restoreQuarantine ?_ FileSystem.names_rename_source hfault fun hcall => ?_
  · exact (FileSystem.names_rename_destination hne).symm ▸ hname
  · have hsame : (w.away os name k).fs.rename
        (.quarantine, quarantineName (os.token (w.tokens + k))) (.root, name) = w.fs :=
      FileSystem.rename_rename hfree hne
    have hend := hdone hcall
    rw [← hsame] at hend
    exact hend

/-- The look at a regular file. -/
lemma wp_inspect {i : Nat} {Q : Except Failure Unit → World → Prop}
    (hregular : (w.fs.files i).kind = .regular)
    (hfault : os.Fails w.calls → Q (.error operationFailed) (w.tick 1))
    (hdone : ¬ os.Fails w.calls → Q (.ok ()) (w.tick 1)) : wp (inspect os i i) Q w := by
  refine (wp_bind _ _).mpr (wp_fstat hfault fun hcall => ?_)
  change wp (do
    if (w.fs.files i).kind ≠ .regular then throw .cleanup
    if i ≠ i then throw .cleanup) Q (w.tick 1)
  rw [if_neg (not_not.mpr hregular), if_neg (not_not.mpr rfl)]
  exact hdone hcall

/-- **All that a quarantine can do to a regular file that is there.** -/
theorem quarantineExpected_end {i : Nat} (hname : w.fs.names (.root, name) = some i)
    (hregular : (w.fs.files i).kind = .regular) :
    wp (quarantineExpected os name i) (QuarantineEnd os w name i) w := by
  have hthere : w.fs.names (.root, name) ≠ none := by simp [hname]
  refine wp_seq (moveAway_end 7 hthere) ?_ ?_
  · intro candidate w' hmove
    cases hmove with
    | @moved k h =>
        have hnames : (w.away os name k).fs.names
            (.quarantine, quarantineName (os.token (w.tokens + k))) = some i :=
          (FileSystem.names_rename_destination (by simp)).trans hname
        refine (wp_bind _ _).mpr ((wp_attempt _).mpr (wp_openExistingFd ?_ ?_ ?_ ?_))
        · intro e hcall _
          have hcheck : CheckFails os (w.calls + (k + 1)) (w.calls + (k + 1) + 1) := .inl ⟨hcall, rfl⟩
          refine (wp_bind _ _).mpr (wp_back hthere h (fun hfails => ?_) fun hpasses => ?_)
          · exact .lost h hcheck hfails
          · exact .restored h hcheck hpasses
        · exact fun _ hmissing => by simp [hmissing] at hnames
        · intro j _ hj hkind
          obtain rfl := Option.some.inj (hj.symm.trans hnames)
          exact absurd (hregular.symm.trans hkind) (by decide)
        · intro j hcall hj _
          obtain rfl := Option.some.inj (hj.symm.trans hnames)
          refine (wp_bind _ _).mpr ((wp_attempt _).mpr (wp_inspect hregular ?_ fun hstat => ?_))
          · intro hstat
            have hcheck : CheckFails os (w.calls + (k + 1)) (w.calls + (k + 1) + 3) :=
              .inr ⟨hcall, hstat, rfl⟩
            refine (wp_bind _ _).mpr (wp_failed_closeFd ?_)
            refine (wp_bind _ _).mpr (wp_back hthere h (fun hfails => ?_) fun hpasses => ?_)
            · exact .lost h hcheck hfails
            · exact .restored h hcheck hpasses
          · exact .moved h hcall hstat
  · intro e w' hmove
    cases hmove with
    | stopped h he => exact .stopped h he

/-- What was quarantined is unlinked, unless the unlink or the close fails. -/
lemma wp_commitQuarantined {quarantined : Quarantined} {Q : Except Failure Unit → World → Prop}
    (hthere : w.fs.names (.quarantine, quarantined.quarantineName) ≠ none)
    (hfault : ∀ fs, os.Fails w.calls ∨ os.Fails (w.calls + 1) →
      (fs = w.fs ∨ fs = w.fs.unlink (.quarantine, quarantined.quarantineName)) →
      Q (.error .cleanup) ((w.tick 2).on fs))
    (hdone : ¬ os.Fails w.calls → ¬ os.Fails (w.calls + 1) →
      Q (.ok ()) ((w.tick 2).on (w.fs.unlink (.quarantine, quarantined.quarantineName)))) :
    wp (commitQuarantined os quarantined) Q w := by
  refine (wp_bind _ _).mpr (wp_failed (wp_unlinkName hthere (fun hcall => ⟨rfl, ?_⟩) fun hcall => ?_))
  · exact (wp_bind _ _).mpr (wp_failed_closeFd (hfault w.fs (.inl hcall) (.inl rfl)))
  · refine (wp_bind _ _).mpr (wp_failed_closeFd ?_)
    by_cases hclose : os.Fails (w.calls + 1)
    · have hend := hfault _ (.inr hclose) (.inr rfl)
      have hdecide : decide (os.Fails ((w.tick 1).on
          (w.fs.unlink (.quarantine, quarantined.quarantineName))).calls) = true :=
        decide_eq_true hclose
      rw [hdecide]
      exact hend
    · have hend := hdone hcall hclose
      have hdecide : decide (os.Fails ((w.tick 1).on
          (w.fs.unlink (.quarantine, quarantined.quarantineName))).calls) = false :=
        decide_eq_false hclose
      rw [hdecide]
      exact hend

/-- What was quarantined gets its name back, unless the rename fails. -/
lemma wp_restoreQuarantined {quarantined : Quarantined} {Q : Except Failure Bool → World → Prop}
    (hthere : w.fs.names (.quarantine, quarantined.quarantineName) ≠ none)
    (hfree : w.fs.names (.root, quarantined.originalName) = none)
    (hfault : os.Fails (w.calls + 1) → Q (.ok true) (w.tick 2))
    (hdone : ∀ closeFailed, ¬ os.Fails (w.calls + 1) →
      Q (.ok closeFailed) ((w.tick 2).on (w.fs.rename (.quarantine, quarantined.quarantineName)
        (.root, quarantined.originalName)))) :
    wp (failed (restoreQuarantined os quarantined)) Q w := by
  refine wp_failed ((wp_bind _ _).mpr (wp_failed_closeFd ?_))
  simp only [after]
  refine (wp_bind (restoreQuarantine os _ _) _).mpr ?_
  refine (wp_translate _ _).mpr (wp_renameNoreplace ?_ ?_ ?_ ?_)
  · exact fun e hcall _ => ⟨rfl, hfault hcall⟩
  · exact fun _ hmissing => absurd hmissing hthere
  · exact fun _ _ htaken => absurd hfree htaken
  · intro hcall _ _
    cases decide (os.Fails w.calls) with
    | false => exact hdone false hcall
    | true => exact ⟨rfl, hdone true hcall⟩

end Quarantine

/-! ## The anchor -/

/-- The names that the storage gives are local names. -/
lemma isLocalName_of_form {form : Text × Text} (hform : form ∈ localNameForms) (key : Key) :
    isLocalName (form.1 ++ key.1 ++ form.2) = true := by
  refine List.any_eq_true.mpr ⟨form, hform, ?_⟩
  have hdigits : ((form.1 ++ key.1 ++ form.2).drop form.1.length).take 32 = key.1 := by
    rw [List.append_assoc, List.drop_left]
    exact List.take_left' (length_of_isHex key.2)
  simp only [hdigits, key.2, beq_self_eq_true, Bool.and_self]

lemma isLocalName_key (key : Key) : isLocalName key.1 = true := by
  have h := @isLocalName_of_form ([], []) (by simp [localNameForms]) key
  simpa using h

lemma isLocalName_sidecarName (key : Key) : isLocalName (sidecarName key.1) = true :=
  @isLocalName_of_form ([], sidecarSuffix) (by simp [localNameForms]) key

namespace PosixRootAnchor

section Anchor

variable {os : OperatingSystem} {w : World}

/-- What `_assert_root` asks of the directories that are held open. -/
structure Asserted (os : OperatingSystem) (anchor : PosixRootAnchor) : Prop where
  isOpen : anchor.isOpen = true
  root : os.root.identity = anchor.identity
  quarantine : os.quarantine.identity = anchor.quarantineIdentity
  safe : isSafePrivateQuarantine os os.quarantine = true

lemma wp_assertRoot {anchor : PosixRootAnchor} {Q : Except Failure Unit → World → Prop}
    (herror : ∀ error n, (Asserted os anchor → os.Fails w.calls ∨ os.Fails (w.calls + 1)) →
      Q (.error (.storage error)) (w.tick n))
    (hdone : Asserted os anchor → ¬ os.Fails w.calls → ¬ os.Fails (w.calls + 1) →
      Q (.ok ()) (w.tick 2)) : wp (assertRoot os anchor) Q w := by
  unfold assertRoot
  by_cases hopen : anchor.isOpen = true
  · rw [hopen]
    refine (wp_bind _ _).mpr (wp_fstatDirectory (fun hcall => ?_) fun hcall => ?_)
    · exact herror _ 1 fun _ => .inl hcall
    · by_cases hroot : os.root.identity = anchor.identity
      · simp only [after, hroot, ne_eq, not_true_eq_false, if_false]
        refine (wp_bind _ _).mpr (wp_fstatDirectory (fun hcall' => ?_) fun hcall' => ?_)
        · exact herror _ 2 fun _ => .inr hcall'
        · simp only [after]
          split
          · next hunsafe =>
              refine herror _ 2 fun h => ?_
              simp [h.quarantine, h.safe] at hunsafe
          · next hsafe =>
              simp only [Bool.or_eq_true, decide_eq_true_eq, not_or, Bool.not_eq_true',
                Bool.not_eq_false, not_not] at hsafe
              exact hdone ⟨hopen, hroot, hsafe.1, hsafe.2⟩ hcall hcall'
      · simp only [after, hroot, ne_eq, not_false_eq_true, if_true]
        exact herror _ 1 fun h => absurd h.root hroot
  · rw [Bool.eq_false_of_not_eq_true hopen]
    exact herror _ 0 fun h => absurd h.isOpen hopen

/-- There is a regular file under the name, and none of the next calls fails. -/
structure Opening (os : OperatingSystem) (w : World) (name : Text) (n i : Nat) : Prop where
  there : w.fs.names (.root, name) = some i
  regular : (w.fs.files i).kind = .regular
  quiet : ∀ j < n, ¬ os.Fails (w.calls + j)

lemma wp_openExisting {name : Text} (hlocal : isLocalName name = true)
    {Q : Except Failure Nat → World → Prop}
    (herror : ∀ e n, e.isStorageError = true → (∀ i, ¬ Opening os w name 2 i) →
      Q (.error e) (w.tick n))
    (hmissing : w.fs.names (.root, name) = none → Q (.error .missing) (w.tick 1))
    (hdone : ∀ i, Opening os w name 2 i → Q (.ok i) (w.tick 2)) :
    wp (openExisting os name) Q w := by
  have hfirst : os.Fails w.calls → ∀ i, ¬ Opening os w name 2 i :=
    fun hcall i h => h.quiet 0 Nat.two_pos hcall
  have hsecond : os.Fails (w.calls + 1) → ∀ i, ¬ Opening os w name 2 i :=
    fun hcall i h => h.quiet 1 Nat.one_lt_two hcall
  unfold openExisting
  rw [hlocal]
  refine (wp_bind _ _).mpr (wp_openExistingFd ?_ ?_ ?_ ?_)
  · exact fun e hcall he => herror e 1 he (hfirst hcall)
  · exact fun _ hnone => hmissing hnone
  · intro i _ hi hkind
    refine herror _ 1 rfl fun j h => ?_
    obtain rfl := Option.some.inj (hi.symm.trans h.there)
    simp [h.regular] at hkind
  · intro i hcall hi _
    refine (wp_bind _ _).mpr ((wp_attempt _).mpr (wp_fstat (fun hcall' => ?_) fun hcall' => ?_))
    · refine (wp_bind _ _).mpr (wp_closeFd (fun _ => ?_) fun _ => ?_)
      · exact herror _ 3 rfl (hsecond hcall')
      · exact herror _ 3 rfl (hsecond hcall')
    · by_cases hkind : (w.fs.files i).kind = .regular
      · have hend := hdone i ⟨hi, hkind, fun j hj => ?_⟩
        · simp only [after, World.tick_fs, hkind, if_true]
          exact hend
        · match j, hj with
          | 0, _ => exact hcall
          | 1, _ => exact hcall'
      · have hnot : ∀ j, ¬ Opening os w name 2 j := by
          intro j h
          obtain rfl := Option.some.inj (hi.symm.trans h.there)
          exact hkind h.regular
        simp only [after, World.tick_fs, hkind, if_false]
        refine (wp_bind _ _).mpr (wp_closeFd (fun _ => ?_) fun _ => ?_)
        · exact herror _ 3 rfl hnot
        · exact herror _ 3 rfl hnot

end Anchor

end PosixRootAnchor

/-! ## A system with one failure -/

/-- The key of 32 equal digits. -/
def sameDigits (digit : Char) (h : isHexDigit digit = true) : Key :=
  ⟨List.replicate 32 digit, by simp [isHex, h]⟩

def zeroKey : Key := sameDigits '0' rfl

/-- A blob and its sidecar, without bytes. -/
def storedPair : FileSystem where
  names entry := if entry = (.root, zeroKey.1) then some 0
    else if entry = (.root, sidecarName zeroKey.1) then some 1 else none
  files _ := ⟨.regular, []⟩
  next := 2
  numbered entry i h := by
    split at h
    · cases h
      exact Nat.two_pos
    · split at h
      · cases h
        exact Nat.one_lt_two
      · cases h

def failingCall (call : Nat) : OperatingSystem where
  fault n := if n = call then some (.other 5) else none
  truthful n := by split <;> simp
  written _ := 65536
  token n := if n = 0 then sameDigits '1' rfl else sameDigits '2' rfl
  root := ⟨⟨0, .directory⟩, 0o755, 0⟩
  quarantine := ⟨⟨1, .directory⟩, 0o700, 0⟩
  effectiveUid := 0

end StockResearch.Infrastructure
