import StockResearch.Infrastructure.BlobRuns
import StockResearch.Infrastructure.PosixLaw

/-!
# Deleting a pair of files

A pair is to be deleted as a whole or not at all: `Whole`.

**Opening.**  `wp_openEntries`: either both files are opened, or none, or the only one that is there.
Up to here nothing changes.

**What goes wrong.**  `Torn` follows the calls behind the opening.  A file that was moved away and
then fails its check may not come back; the other file may come back alone; and when the first
commit fails, the second file comes back although the first does not.

**`deletePair_whole_iff`**: a pair is left whole exactly when this does not happen.
-/

namespace StockResearch.Infrastructure

open PyText Txn Txn.Program

/-! ## Pairs of files -/

/-- Both names stand for the files that they stood for, or neither for any. -/
def Whole (before after : FileSystem) (content sidecar : Text) : Prop :=
  (after.file? (.root, content) = before.file? (.root, content) ∧
      after.file? (.root, sidecar) = before.file? (.root, sidecar)) ∨
    (after.file? (.root, content) = none ∧ after.file? (.root, sidecar) = none)

section Whole

variable {before after : FileSystem} {content sidecar : Text}

lemma file?_eq_none {fs : FileSystem} {entry : Entry} :
    fs.file? entry = none ↔ fs.names entry = none := Option.map_eq_none_iff

lemma whole_of_kept (hfiles : after.files = before.files)
    (hcontent : after.names (.root, content) = before.names (.root, content))
    (hsidecar : after.names (.root, sidecar) = before.names (.root, sidecar)) :
    Whole before after content sidecar := by
  refine .inl ⟨?_, ?_⟩
  · rw [FileSystem.file?, FileSystem.file?, hcontent, hfiles]
  · rw [FileSystem.file?, FileSystem.file?, hsidecar, hfiles]

lemma whole_of_gone (hcontent : after.names (.root, content) = none)
    (hsidecar : after.names (.root, sidecar) = none) : Whole before after content sidecar :=
  .inr ⟨file?_eq_none.mpr hcontent, file?_eq_none.mpr hsidecar⟩

lemma not_whole_of_content (hbefore : before.names (.root, content) ≠ none)
    (hcontent : after.names (.root, content) = none)
    (hsidecar : after.names (.root, sidecar) ≠ none) : ¬ Whole before after content sidecar := by
  rintro (⟨h, -⟩ | ⟨-, h⟩)
  · rw [file?_eq_none.mpr hcontent] at h
    exact hbefore (file?_eq_none.mp h.symm)
  · exact hsidecar (file?_eq_none.mp h)

lemma not_whole_of_sidecar (hbefore : before.names (.root, sidecar) ≠ none)
    (hcontent : after.names (.root, content) ≠ none)
    (hsidecar : after.names (.root, sidecar) = none) : ¬ Whole before after content sidecar := by
  rintro (⟨-, h⟩ | ⟨h, -⟩)
  · rw [file?_eq_none.mpr hsidecar] at h
    exact hbefore (file?_eq_none.mp h.symm)
  · exact hcontent (file?_eq_none.mp h)

end Whole

/-! ## What goes wrong -/

section Torn

variable (os : OperatingSystem)

/-- With the first file in the quarantine, the two files part. -/
inductive TornSidecar (w : World) : Prop where
  /-- The second file is not moved, and the first does not come back. -/
  | stopped {m : Nat} (h : Stopped os w.fs w.calls w.tokens 8 m)
      (hback : os.Fails (w.calls + (m + 1) + 1)) : TornSidecar w
  /-- The second file fails its check, and one of the two comes back. -/
  | checked {m back : Nat} (h : Moved os w.fs w.calls w.tokens 8 m)
      (hcheck : CheckFails os (w.calls + (m + 1)) back)
      (hone : os.Fails back ↔ ¬ os.Fails (back + 2)) : TornSidecar w
  /-- The unlink of the first file fails, or the close behind it, and the second comes back. -/
  | committed {m : Nat} (h : Moved os w.fs w.calls w.tokens 8 m)
      (hopen : ¬ os.Fails (w.calls + (m + 1))) (hstat : ¬ os.Fails (w.calls + (m + 1) + 1))
      (hcommit : os.Fails (w.calls + (m + 1) + 2) ∨ os.Fails (w.calls + (m + 1) + 3))
      (hback : ¬ os.Fails (w.calls + (m + 1) + 5)) : TornSidecar w

/-- With both files opened, they part. -/
inductive Torn (w : World) (content : Text) : Prop where
  /-- The first file fails its check and does not come back. -/
  | checked {k back : Nat} (h : Moved os w.fs w.calls w.tokens 8 k)
      (hcheck : CheckFails os (w.calls + (k + 1)) back) (hback : os.Fails back) : Torn w content
  /-- The first file is in the quarantine. -/
  | moved {k : Nat} (h : Moved os w.fs w.calls w.tokens 8 k)
      (hopen : ¬ os.Fails (w.calls + (k + 1))) (hstat : ¬ os.Fails (w.calls + (k + 1) + 1))
      (htorn : TornSidecar os ((w.away os content k).tick 2)) : Torn w content

variable {os} {w : World} {content : Text} {k m back : Nat}

lemma not_torn_of_stopped (h : Stopped os w.fs w.calls w.tokens 8 k) : ¬ Torn os w content := by
  rintro (⟨h', -, -⟩ | ⟨h', -, -, -⟩)
  · exact h'.not_stopped h
  · exact h'.not_stopped h

lemma torn_of_check (h : Moved os w.fs w.calls w.tokens 8 k)
    (hcheck : CheckFails os (w.calls + (k + 1)) back) : Torn os w content ↔ os.Fails back := by
  refine ⟨?_, .checked h hcheck⟩
  rintro (⟨h', hcheck', hback⟩ | ⟨h', hopen, hstat, -⟩)
  · obtain rfl := h.unique h'
    rwa [hcheck.unique hcheck']
  · obtain rfl := h.unique h'
    exact (hcheck.not_passes hopen hstat).elim

lemma torn_of_moved (h : Moved os w.fs w.calls w.tokens 8 k)
    (hopen : ¬ os.Fails (w.calls + (k + 1))) (hstat : ¬ os.Fails (w.calls + (k + 1) + 1)) :
    Torn os w content ↔ TornSidecar os ((w.away os content k).tick 2) := by
  refine ⟨?_, .moved h hopen hstat⟩
  rintro (⟨h', hcheck, -⟩ | ⟨h', -, -, htorn⟩)
  · obtain rfl := h.unique h'
    exact (hcheck.not_passes hopen hstat).elim
  · obtain rfl := h.unique h'
    exact htorn

lemma tornSidecar_of_stopped (h : Stopped os w.fs w.calls w.tokens 8 m) :
    TornSidecar os w ↔ os.Fails (w.calls + (m + 1) + 1) := by
  refine ⟨?_, .stopped h⟩
  rintro (⟨h', hback⟩ | ⟨h', -, -⟩ | ⟨h', -, -, -, -⟩)
  · obtain rfl := h.unique h'
    exact hback
  · exact (h'.not_stopped h).elim
  · exact (h'.not_stopped h).elim

lemma tornSidecar_of_check (h : Moved os w.fs w.calls w.tokens 8 m)
    (hcheck : CheckFails os (w.calls + (m + 1)) back) :
    TornSidecar os w ↔ (os.Fails back ↔ ¬ os.Fails (back + 2)) := by
  refine ⟨?_, .checked h hcheck⟩
  rintro (⟨h', -⟩ | ⟨h', hcheck', hone⟩ | ⟨h', hopen, hstat, -, -⟩)
  · exact (h.not_stopped h').elim
  · obtain rfl := h.unique h'
    rwa [hcheck.unique hcheck']
  · obtain rfl := h.unique h'
    exact (hcheck.not_passes hopen hstat).elim

lemma tornSidecar_of_moved (h : Moved os w.fs w.calls w.tokens 8 m)
    (hopen : ¬ os.Fails (w.calls + (m + 1))) (hstat : ¬ os.Fails (w.calls + (m + 1) + 1)) :
    TornSidecar os w ↔ (os.Fails (w.calls + (m + 1) + 2) ∨ os.Fails (w.calls + (m + 1) + 3)) ∧
      ¬ os.Fails (w.calls + (m + 1) + 5) := by
  refine ⟨?_, fun h' => .committed h hopen hstat h'.1 h'.2⟩
  rintro (⟨h', -⟩ | ⟨h', hcheck, -⟩ | ⟨h', -, -, hcommit, hback⟩)
  · exact (h.not_stopped h').elim
  · obtain rfl := h.unique h'
    exact (hcheck.not_passes hopen hstat).elim
  · obtain rfl := h.unique h'
    exact ⟨hcommit, hback⟩

end Torn

/-! ## The steps -/

namespace PosixRootAnchor

section Steps

variable {os : OperatingSystem} {w : World} {R : FileSystem → Prop}

lemma wp_closeAll (entries : List Opened) {Q : Except Failure Bool → World → Prop}
    (h : ∀ closeFailed n, Q (.ok closeFailed) (w.tick n)) : wp (closeAll os entries) Q w := by
  induction entries generalizing w Q with
  | nil => exact h false 0
  | cons entry entries ih =>
      refine (wp_bind _ _).mpr (wp_failed_closeFd ?_)
      refine (wp_bind _ _).mpr (ih fun restFailed n => ?_)
      have hend := h (decide (os.Fails w.calls) || restFailed) (1 + n)
      rw [World.tick, ← Nat.add_assoc] at hend
      exact hend

/-- The file system ends in `R` once the entries that were quarantined are committed. -/
def Settles (os : OperatingSystem) (R : FileSystem → Prop) :
    Except Failure (Option (List Quarantined)) → World → Prop
  | .ok none, w => R w.fs
  | .ok (some quarantined), w => wp (commitEntries os quarantined) (fun _ w' => R w'.fs) w
  | .error _, w => R w.fs

/-- The closes at the end leave the names as they are. -/
lemma wp_deleteEntries (entries : List Opened)
    (h : wp (quarantineEntries os [] entries) (Settles os R) w) :
    wp (deleteEntries os entries) (fun _ w' => R w'.fs) w := by
  refine wp_seq h (fun result w' hresult => ?_) fun e w' hresult => hresult
  cases result with
  | none => exact (wp_bind _ _).mpr (wp_closeAll entries fun _ _ => hresult)
  | some quarantined =>
      have hresult : wp (commitEntries os quarantined) (fun _ w'' => R w''.fs) w' := hresult
      refine wp_seq hresult (fun commitFailed w'' hcommit => ?_) fun e w'' hcommit => hcommit
      refine (wp_bind _ _).mpr (wp_closeAll entries fun closeFailed n => ?_)
      cases hfailed : commitFailed || closeFailed with
      | false =>
          simp only [after, hfailed, Bool.false_eq_true, if_false]
          exact hcommit
      | true =>
          simp only [after, hfailed, if_true]
          exact hcommit

/-- A commit of the last entry leaves the root as it is. -/
lemma wp_commitLast {quarantined : Quarantined}
    (hthere : w.fs.names (.quarantine, quarantined.quarantineName) ≠ none)
    (hkept : R w.fs) (hgone : R (w.fs.unlink (.quarantine, quarantined.quarantineName))) :
    wp (commitEntries os [quarantined]) (fun _ w' => R w'.fs) w := by
  refine (wp_bind _ _).mpr (wp_failed (wp_commitQuarantined hthere ?_ ?_))
  · rintro fs - (rfl | rfl)
    · exact ⟨rfl, hkept⟩
    · exact ⟨rfl, hgone⟩
  · exact fun _ _ => hgone

/-- One entry is restored, whatever else fails. -/
lemma wp_restoreOne {quarantined : Quarantined} {Q : Except Failure Unit → World → Prop}
    (hthere : w.fs.names (.quarantine, quarantined.quarantineName) ≠ none)
    (hfree : w.fs.names (.root, quarantined.originalName) = none)
    (hfault : os.Fails (w.calls + 1) → Q (.ok ()) (w.tick 2))
    (hdone : ¬ os.Fails (w.calls + 1) →
      Q (.ok ()) ((w.tick 2).on (w.fs.rename (.quarantine, quarantined.quarantineName)
        (.root, quarantined.originalName)))) :
    wp (restoreAll os [quarantined]) Q w :=
  (wp_bind _ _).mpr (wp_restoreQuarantined hthere hfree hfault fun _ hpasses => hdone hpasses)

end Steps

/-! ## One file -/

section One

variable {os : OperatingSystem} {w : World} {R : FileSystem → Prop} {name : Text} {i : Nat}

/-- A regular file without its companion is there in the end, or is gone. -/
lemma wp_deleteOne (hname : w.fs.names (.root, name) = some i)
    (hregular : (w.fs.files i).kind = .regular) (hkept : R w.fs)
    (hgone : ∀ fs : FileSystem, fs.names (.root, name) = none →
      (∀ other, other ≠ name → fs.names (.root, other) = w.fs.names (.root, other)) → R fs) :
    wp (deleteEntries os [⟨name, i⟩]) (fun _ w' => R w'.fs) w := by
  have haway : ∀ k, R (w.away os name k).fs := fun k => by
    refine hgone _ FileSystem.names_rename_source fun other hne => ?_
    exact FileSystem.names_rename (by simpa using hne) (by simp)
  refine wp_deleteEntries _ (wp_attempt_seq (quarantineExpected_end hname hregular) ?_)
  rintro r w' hend
  cases hend with
  | @stopped k e h he =>
      cases e with
      | missing => cases he
      | collision => cases he
      | cleanup => exact hkept
      | storage error => exact hkept
  | restored => exact hkept
  | lost => exact haway _
  | @moved k h =>
      refine wp_commitLast ?_ (haway k) ?_
      · exact (FileSystem.names_rename_destination (by simp)).trans_ne (by simp [hname])
      · refine hgone _ ?_ fun other hne => ?_
        · rw [FileSystem.names_unlink, if_neg (by simp)]
          exact FileSystem.names_rename_source
        · rw [FileSystem.names_unlink, if_neg (by simp)]
          exact FileSystem.names_rename (by simpa using hne) (by simp)

end One

/-! ## Two files -/

/-- The first file is in the quarantine, and can be moved back. -/
structure Halfway (before fs : FileSystem) (quarantined : Quarantined) (content : Text) : Prop where
  original : quarantined.originalName = content
  there : fs.names (.quarantine, quarantined.quarantineName) ≠ none
  gone : fs.names (.root, content) = none
  back : fs.rename (.quarantine, quarantined.quarantineName) (.root, content) = before

section Two

variable {os : OperatingSystem} {w : World} {before : FileSystem} {quarantined : Quarantined}
  {content sidecar : Text} {i j : Nat}

lemma Halfway.content_there (h : Halfway before w.fs quarantined content) :
    before.names (.root, content) ≠ none := by
  rw [← h.back, FileSystem.names_rename_destination (by simp)]
  exact h.there

lemma Halfway.names_sidecar (h : Halfway before w.fs quarantined content)
    (hne : sidecar ≠ content) :
    before.names (.root, sidecar) = w.fs.names (.root, sidecar) := by
  rw [← h.back]
  exact FileSystem.names_rename (by simp) (by simpa using hne)

/-- The first file is brought back, unless the rename fails. -/
lemma Halfway.wp_restore {R : FileSystem → Prop} (h : Halfway before w.fs quarantined content)
    (hfault : os.Fails (w.calls + 1) → R w.fs) (hdone : ¬ os.Fails (w.calls + 1) → R before) :
    wp (restoreAll os [quarantined] >>= fun _ => pure none) (Settles os R) w := by
  have hfree : w.fs.names (.root, quarantined.originalName) = none := by
    rw [h.original]
    exact h.gone
  refine (wp_bind _ _).mpr (wp_restoreOne h.there hfree hfault fun hpasses => ?_)
  have hback := hdone hpasses
  rw [← h.back, ← h.original] at hback
  exact hback

/-- With both files in the quarantine. -/
structure Emptied (fs : FileSystem) (quarantined : Quarantined) (content sidecar candidate : Text) :
    Prop where
  half : Halfway (fs.rename (.quarantine, quarantined.quarantineName) (.root, content)) fs quarantined
    content
  other : (.quarantine, candidate) ≠ ((.quarantine, quarantined.quarantineName) : Entry)
  there : fs.names (.quarantine, candidate) ≠ none
  gone : fs.names (.root, sidecar) = none

lemma Halfway.emptied {m : Nat} (h : Halfway before w.fs quarantined content)
    (hne : sidecar ≠ content) (hsidecar : w.fs.names (.root, sidecar) ≠ none)
    (hfree : ¬ Taken os w.fs (w.tokens + m)) :
    Emptied (w.away os sidecar m).fs quarantined content sidecar
      (quarantineName (os.token (w.tokens + m))) := by
  have hother : ((.quarantine, quarantineName (os.token (w.tokens + m))) : Entry) ≠
      (.quarantine, quarantined.quarantineName) := by
    intro heq
    rw [Taken, heq] at hfree
    exact hfree h.there
  refine ⟨⟨h.original, ?_, ?_, rfl⟩, hother, ?_, FileSystem.names_rename_source⟩
  · exact (FileSystem.names_rename (by simp) hother.symm).trans_ne h.there
  · exact (FileSystem.names_rename (by simpa using hne.symm) (by simp)).trans h.gone
  · exact (FileSystem.names_rename_destination (by simp)).trans_ne hsidecar

/-- Both files are committed, or the second is brought back if the first commit fails. -/
lemma Emptied.wp_commit {candidate : Text} {R : FileSystem → Prop}
    (h : Emptied w.fs quarantined content sidecar candidate) (hne : sidecar ≠ content)
    (hgone : (os.Fails w.calls ∨ os.Fails (w.calls + 1) → os.Fails (w.calls + 3)) →
      ∀ fs : FileSystem, fs.names (.root, content) = none → fs.names (.root, sidecar) = none → R fs)
    (hback : os.Fails w.calls ∨ os.Fails (w.calls + 1) → ¬ os.Fails (w.calls + 3) →
      ∀ fs : FileSystem, fs.names (.root, content) = none → fs.names (.root, sidecar) ≠ none → R fs) :
    wp (commitEntries os [quarantined, ⟨sidecar, candidate, j, j⟩]) (fun _ w' => R w'.fs) w := by
  have hcontent : (w.fs.unlink (.quarantine, quarantined.quarantineName)).names (.root, content) =
      none := by
    rw [FileSystem.names_unlink, if_neg (by simp)]
    exact h.half.gone
  have hsidecar : (w.fs.unlink (.quarantine, quarantined.quarantineName)).names (.root, sidecar) =
      none := by
    rw [FileSystem.names_unlink, if_neg (by simp)]
    exact h.gone
  have hthere : (w.fs.unlink (.quarantine, quarantined.quarantineName)).names
      (.quarantine, candidate) ≠ none := by
    rw [FileSystem.names_unlink, if_neg h.other]
    exact h.there
  refine (wp_bind _ _).mpr (wp_failed (wp_commitQuarantined h.half.there ?_ ?_))
  · intro fs hcommit hfs
    -- The unlink may have been done, if it is the close that has failed.
    obtain ⟨hcontent', hsidecar', hthere'⟩ : fs.names (.root, content) = none ∧
        fs.names (.root, sidecar) = none ∧ fs.names (.quarantine, candidate) ≠ none := by
      rcases hfs with rfl | rfl
      · exact ⟨h.half.gone, h.gone, h.there⟩
      · exact ⟨hcontent, hsidecar, hthere⟩
    refine ⟨rfl, ?_⟩
    simp only [after, if_true]
    refine (wp_bind _ _).mpr (wp_restoreOne hthere' hsidecar' (fun hfails => ?_) fun hpasses => ?_)
    · exact hgone (fun _ => hfails) _ hcontent' hsidecar'
    · refine hback hcommit hpasses _ ?_ ?_
      · exact (FileSystem.names_rename (by simp) (by simpa using hne.symm)).trans hcontent'
      · exact (FileSystem.names_rename_destination (by simp)).trans_ne hthere'
  · intro hunlink hclose
    refine wp_commitLast hthere ?_ ?_
    · exact hgone (fun h => (h.elim hunlink hclose).elim) _ hcontent hsidecar
    · refine hgone (fun h => (h.elim hunlink hclose).elim) _ ?_ ?_
      · rw [FileSystem.names_unlink, if_neg (by simp)]
        exact hcontent
      · rw [FileSystem.names_unlink, if_neg (by simp)]
        exact hsidecar

/-- **The second half of a deletion**: the files part exactly when something goes wrong. -/
theorem wp_deleteSidecar (hhalf : Halfway before w.fs quarantined content) (hne : sidecar ≠ content)
    (hsidecar : w.fs.names (.root, sidecar) = some j)
    (hregular : (w.fs.files j).kind = .regular) :
    wp (quarantineEntries os [quarantined] [⟨sidecar, j⟩])
      (Settles os fun fs => Whole before fs content sidecar ↔ ¬ TornSidecar os w) w := by
  have hthere : w.fs.names (.root, sidecar) ≠ none := by simp [hsidecar]
  have hbefore : before.names (.root, sidecar) ≠ none := hhalf.names_sidecar hne ▸ hthere
  have hparted : ¬ Whole before w.fs content sidecar :=
    not_whole_of_content hhalf.content_there hhalf.gone hthere
  have hwhole : Whole before before content sidecar := whole_of_kept rfl rfl rfl
  refine wp_attempt_seq (quarantineExpected_end hsidecar hregular) ?_
  intro r w' hend
  cases hend with
  | @stopped m e h he =>
      have htorn := tornSidecar_of_stopped h
      have hrestore : wp (restoreAll os [quarantined] >>= fun _ => pure none)
          (Settles os fun fs => Whole before fs content sidecar ↔ ¬ TornSidecar os w)
          (w.tried m) := by
        refine @Halfway.wp_restore os (w.tried m) _ _ _ _ hhalf (fun hfails => ?_) fun hpasses => ?_
        · exact iff_of_false hparted (not_not.mpr (htorn.mpr hfails))
        · exact iff_of_true hwhole (mt htorn.mp hpasses)
      cases e with
      | missing => cases he
      | collision => cases he
      | cleanup => exact hrestore
      | storage error => exact hrestore
  | @restored m back h hcheck hback =>
      have htorn := tornSidecar_of_check h hcheck
      refine @Halfway.wp_restore os ⟨w.fs, back + 1, w.tokens + (m + 1)⟩ _ _ _ _ hhalf
        (fun hfails => ?_) fun hpasses => ?_
      · exact iff_of_false hparted (not_not.mpr (htorn.mpr (iff_of_false hback (not_not.mpr hfails))))
      · exact iff_of_true hwhole fun h => hback ((htorn.mp h).mpr hpasses)
  | @lost m back h hcheck hback =>
      have htorn := tornSidecar_of_check h hcheck
      have hempty := hhalf.emptied hne hthere h.free
      refine @Halfway.wp_restore os { w.away os sidecar m with calls := back + 1 } _ _ _ _ hempty.half
        (fun hfails => ?_) fun hpasses => ?_
      · exact iff_of_true (whole_of_gone hempty.half.gone hempty.gone)
          fun h => (htorn.mp h).mp hback hfails
      · have hgone := (hempty.half.names_sidecar hne).trans hempty.gone
        have hparted' := not_whole_of_sidecar hbefore hempty.half.content_there hgone
        exact iff_of_false hparted' (not_not.mpr (htorn.mpr (iff_of_true hback hpasses)))
  | @moved m h hopen hstat =>
      have htorn := tornSidecar_of_moved h hopen hstat
      have hempty := hhalf.emptied hne hthere h.free
      have hcommit := @Emptied.wp_commit os ((w.away os sidecar m).tick 2) quarantined content
        sidecar j _ (fun fs => Whole before fs content sidecar ↔ ¬ TornSidecar os w) hempty hne
      refine hcommit ?_ ?_
      · intro hcommit fs hcontent' hsidecar'
        refine iff_of_true (whole_of_gone hcontent' hsidecar') fun h => ?_
        exact (htorn.mp h).2 (hcommit (htorn.mp h).1)
      · intro hcommit hpasses fs hcontent' hsidecar'
        refine iff_of_false ?_ (not_not.mpr (htorn.mpr ⟨hcommit, hpasses⟩))
        exact not_whole_of_content hhalf.content_there hcontent' hsidecar'

/-- **A deletion of two files**: they part exactly when something goes wrong. -/
theorem wp_deleteBoth (hcontent : w.fs.names (.root, content) = some i)
    (hcontentRegular : (w.fs.files i).kind = .regular) (hne : sidecar ≠ content)
    (hsidecar : w.fs.names (.root, sidecar) = some j)
    (hsidecarRegular : (w.fs.files j).kind = .regular) :
    wp (deleteEntries os [⟨content, i⟩, ⟨sidecar, j⟩])
      (fun _ w' => Whole w.fs w'.fs content sidecar ↔ ¬ Torn os w content) w := by
  have hthere : w.fs.names (.root, content) ≠ none := by simp [hcontent]
  have hwhole : Whole w.fs w.fs content sidecar := whole_of_kept rfl rfl rfl
  have hnames : ∀ k, (w.away os content k).fs.names (.root, sidecar) = some j := fun k =>
    (FileSystem.names_rename (by simpa using hne) (by simp)).trans hsidecar
  refine @wp_deleteEntries os w (fun fs => Whole w.fs fs content sidecar ↔ ¬ Torn os w content) _ ?_
  refine wp_attempt_seq (quarantineExpected_end hcontent hcontentRegular) ?_
  intro r w' hend
  cases hend with
  | @stopped k e h he =>
      have hend := iff_of_true hwhole (@not_torn_of_stopped os w content k h)
      cases e with
      | missing => cases he
      | collision => cases he
      | cleanup => exact hend
      | storage error => exact hend
  | @restored k back h hcheck hback =>
      exact iff_of_true hwhole (mt (torn_of_check h hcheck).mp hback)
  | @lost k back h hcheck hback =>
      have hparted : ¬ Whole w.fs (w.away os content k).fs content sidecar := by
        refine not_whole_of_content hthere FileSystem.names_rename_source ?_
        exact (hnames k).trans_ne (Option.some_ne_none j)
      exact iff_of_false hparted (not_not.mpr ((torn_of_check h hcheck).mpr hback))
  | @moved k h hopen hstat =>
      have hfree := not_not.mp h.free
      have hhalf : Halfway w.fs ((w.away os content k).tick 2).fs
          ⟨content, quarantineName (os.token (w.tokens + k)), i, i⟩ content := by
        refine ⟨rfl, ?_, FileSystem.names_rename_source, FileSystem.rename_rename hfree (by simp)⟩
        exact (FileSystem.names_rename_destination (by simp)).trans_ne hthere
      have hend := @wp_deleteSidecar os _ _ _ _ _ _ hhalf hne (hnames k) hsidecarRegular
      rw [← torn_of_moved h hopen hstat] at hend
      exact hend

end Two

/-! ## Opening -/

section Opening

variable {os : OperatingSystem} {w : World} {name content sidecar : Text}

lemma wp_openEntry (hlocal : isLocalName name = true)
    {Q : Except Failure (Option Opened) → World → Prop}
    (herror : ∀ e n, (∀ i, ¬ Opening os w name 3 i) → Q (.error e) (w.tick n))
    (hmissing : w.fs.names (.root, name) = none → Q (.ok none) (w.tick 1))
    (hdone : ∀ i, Opening os w name 3 i → Q (.ok (some ⟨name, i⟩)) (w.tick 3)) :
    wp (openEntry os name) Q w := by
  have hshorter : ∀ i, Opening os w name 3 i → Opening os w name 2 i := fun i h =>
    ⟨h.there, h.regular, fun j hj => h.quiet j (Nat.lt_succ_of_lt hj)⟩
  refine (wp_bind _ _).mpr ((wp_attempt _).mpr (wp_openExisting hlocal ?_ ?_ ?_))
  · intro e n he hnot
    have hend := herror e n fun i h => hnot i (hshorter i h)
    cases e with
    | missing => cases he
    | collision => cases he
    | cleanup => exact hend
    | storage error => exact hend
  · exact hmissing
  · intro i hopening
    refine (wp_bind _ _).mpr ((wp_attempt _).mpr (wp_fstat (fun hcall => ?_) fun hcall => ?_))
    · have hnot : ∀ j, ¬ Opening os w name 3 j := fun j h => h.quiet 2 (by omega) hcall
      refine (wp_bind _ _).mpr (wp_closeFd (fun _ => ?_) fun _ => ?_)
      · exact herror _ 4 hnot
      · exact herror _ 4 hnot
    · refine hdone i ⟨hopening.there, hopening.regular, fun j hj => ?_⟩
      rcases Nat.lt_succ_iff_lt_or_eq.mp hj with hlt | rfl
      · exact hopening.quiet j hlt
      · exact hcall

lemma wp_closeEntries (entries : List Opened) {Q : Except Failure Unit → World → Prop}
    (h : ∀ r n, Q r (w.tick n)) : wp (closeEntries os entries) Q w := by
  induction entries generalizing w Q with
  | nil => exact h _ 0
  | cons entry entries ih =>
      refine (wp_bind _ _).mpr (wp_closeFd (fun _ => h _ 1) fun _ => ?_)
      refine ih fun r n => ?_
      have hend := h r (1 + n)
      rw [World.tick, ← Nat.add_assoc] at hend
      exact hend

def BothOpening (os : OperatingSystem) (w : World) (content sidecar : Text) (i j : Nat) : Prop :=
  Opening os w content 3 i ∧ Opening os (w.tick 3) sidecar 3 j

/-- Both files are opened, or the only one that is there, or none; or it fails. -/
lemma wp_openEntries (hcontent : isLocalName content = true) (hsidecar : isLocalName sidecar = true)
    {Q : Except Failure (List Opened) → World → Prop}
    (herror : ∀ e n, (∀ i j, ¬ BothOpening os w content sidecar i j) → Q (.error e) (w.tick n))
    (hnone : ∀ n, w.fs.names (.root, content) = none → Q (.ok []) (w.tick n))
    (hfirst : ∀ i n, Opening os w content 3 i → w.fs.names (.root, sidecar) = none →
      Q (.ok [⟨content, i⟩]) (w.tick n))
    (hsecond : ∀ j n, w.fs.names (.root, content) = none → w.fs.names (.root, sidecar) = some j →
      (w.fs.files j).kind = .regular → Q (.ok [⟨sidecar, j⟩]) (w.tick n))
    (hboth : ∀ i j, BothOpening os w content sidecar i j →
      Q (.ok [⟨content, i⟩, ⟨sidecar, j⟩]) (w.tick 6)) :
    wp (openEntries os [] [content, sidecar]) Q w := by
  refine (wp_bind _ _).mpr ((wp_attempt _).mpr (wp_openEntry hcontent ?_ ?_ ?_))
  · exact fun e n hnot => herror e n fun i j h => hnot i h.1
  · intro hgone
    have hnot : ∀ i j, ¬ BothOpening os w content sidecar i j := fun i j h => by
      simp [h.1.there] at hgone
    refine (wp_bind _ _).mpr ((wp_attempt _).mpr (wp_openEntry hsidecar ?_ ?_ ?_))
    · intro e n _
      rw [World.tick, World.tick, Nat.add_assoc]
      exact herror e (1 + n) hnot
    · exact fun _ => hnone 2 hgone
    · exact fun j h => hsecond j 4 hgone h.there h.regular
  · intro i hi
    refine (wp_bind _ _).mpr ((wp_attempt _).mpr (wp_openEntry hsidecar ?_ ?_ ?_))
    · intro e n hnot
      have hnot' : ∀ i j, ¬ BothOpening os w content sidecar i j := fun _ j h => hnot j h.2
      refine wp_seq (P := fun _ w' => ∃ n, w' = w.tick n) ?_ ?_ ?_
      · exact wp_closeEntries _ fun _ m => ⟨3 + n + m, by simp [World.tick, Nat.add_assoc]⟩
      · rintro _ _ ⟨m, rfl⟩
        exact herror e m hnot'
      · rintro e' _ ⟨m, rfl⟩
        exact herror e' m hnot'
    · exact fun hgone => hfirst i 4 hi hgone
    · exact fun j hj => hboth i j ⟨hi, hj⟩

end Opening

/-! ## The deletion -/

/-- Both files are there, and are opened: none of the first eight calls fails. -/
structure Opens (os : OperatingSystem) (anchor : PosixRootAnchor) (fs : FileSystem)
    (content sidecar : Text) : Prop where
  asserted : Asserted os anchor
  content : ∃ i, fs.names (.root, content) = some i ∧ (fs.files i).kind = .regular
  sidecar : ∃ j, fs.names (.root, sidecar) = some j ∧ (fs.files j).kind = .regular
  quiet : ∀ call < 8, ¬ os.Fails call

/-- **A pair is left whole exactly when its files do not part.** -/
theorem deletePair_whole_iff (os : OperatingSystem) (anchor : PosixRootAnchor) (fs : FileSystem)
    (key : Key) :
    Whole fs (deletePair os anchor key.1 (sidecarName key.1) ⟨fs, 0, 0⟩).2.fs key.1
        (sidecarName key.1) ↔
      ¬ (Opens os anchor fs key.1 (sidecarName key.1) ∧ Torn os ⟨fs, 8, 0⟩ key.1) := by
  have hne : sidecarName key.1 ≠ key.1 := (ne_sidecarName key.2 key.2).symm
  have hwhole : Whole fs fs key.1 (sidecarName key.1) := whole_of_kept rfl rfl rfl
  have hkept : ¬ Opens os anchor fs key.1 (sidecarName key.1) →
      (Whole fs fs key.1 (sidecarName key.1) ↔
        ¬ (Opens os anchor fs key.1 (sidecarName key.1) ∧ Torn os ⟨fs, 8, 0⟩ key.1)) :=
    fun hnot => iff_of_true hwhole fun h => hnot h.1
  suffices h : wp (deletePair os anchor key.1 (sidecarName key.1))
      (fun _ w' => Whole fs w'.fs key.1 (sidecarName key.1) ↔
        ¬ (Opens os anchor fs key.1 (sidecarName key.1) ∧ Torn os ⟨fs, 8, 0⟩ key.1)) ⟨fs, 0, 0⟩
    from h
  refine (wp_bind _ _).mpr (wp_assertRoot ?_ ?_)
  · intro error n hnot
    refine hkept fun h => ?_
    rcases hnot h.asserted with hfails | hfails
    · exact h.quiet 0 (by omega) hfails
    · exact h.quiet 1 (by omega) hfails
  · intro hasserted hfirst hsecond
    simp only [after]
    refine (wp_bind _ _).mpr (wp_openEntries (isLocalName_key key) (isLocalName_sidecarName key)
      ?_ ?_ ?_ ?_ ?_)
    · intro e n hnot
      refine hkept fun h => ?_
      obtain ⟨i, hi, hiregular⟩ := h.content
      obtain ⟨j, hj, hjregular⟩ := h.sidecar
      refine hnot i j ⟨⟨hi, hiregular, fun c hc => ?_⟩, ⟨hj, hjregular, fun c hc => ?_⟩⟩
      · exact h.quiet (2 + c) (by omega)
      · exact h.quiet (5 + c) (by omega)
    · intro n hgone
      exact hkept fun h => h.content.elim fun i hi => by simp [hi.1] at hgone
    · intro i n hi hgone
      have hnot : ¬ Opens os anchor fs key.1 (sidecarName key.1) := fun h =>
        h.sidecar.elim fun j hj => by simp [hj.1] at hgone
      have hend := @wp_deleteOne os ⟨fs, 2 + n, 0⟩ (fun fs' => Whole fs fs' key.1 (sidecarName key.1))
        key.1 i hi.there hi.regular hwhole fun fs' hcontent hother =>
          whole_of_gone hcontent ((hother _ hne).trans hgone)
      exact wp_mono hend fun _ w' h => iff_of_true h fun h => hnot h.1
    · intro j n hgone hj hregular
      have hnot : ¬ Opens os anchor fs key.1 (sidecarName key.1) := fun h =>
        h.content.elim fun i hi => by simp [hi.1] at hgone
      have hend := @wp_deleteOne os ⟨fs, 2 + n, 0⟩ (fun fs' => Whole fs fs' key.1 (sidecarName key.1))
        (sidecarName key.1) j hj hregular hwhole fun fs' hsidecar hother =>
          whole_of_gone ((hother _ hne.symm).trans hgone) hsidecar
      exact wp_mono hend fun _ w' h => iff_of_true h fun h => hnot h.1
    · rintro i j ⟨hi, hj⟩
      have hopens : Opens os anchor fs key.1 (sidecarName key.1) := by
        refine ⟨hasserted, ⟨i, hi.there, hi.regular⟩, ⟨j, hj.there, hj.regular⟩, fun call hcall => ?_⟩
        interval_cases call
        · exact hfirst
        · exact hsecond
        · exact hi.quiet 0 (by omega)
        · exact hi.quiet 1 (by omega)
        · exact hi.quiet 2 (by omega)
        · exact hj.quiet 0 (by omega)
        · exact hj.quiet 1 (by omega)
        · exact hj.quiet 2 (by omega)
      have hend := @wp_deleteBoth os ⟨fs, 8, 0⟩ key.1 (sidecarName key.1) i j hi.there hi.regular hne
        hj.there hj.regular
      exact wp_mono hend fun _ w' h => h.trans (not_congr (and_iff_right hopens).symm)

/-- The file system after the close behind the unlink of the blob has failed. -/
def afterFailedClose : FileSystem :=
  (deletePair (failingCall 15) ⟨true, 0, 1⟩ zeroKey.1 (sidecarName zeroKey.1)
    ⟨storedPair, 0, 0⟩).2.fs

/-- The sidecar comes back without its blob. -/
theorem sidecar_left_alone : afterFailedClose.file? (.root, zeroKey.1) = none ∧
    afterFailedClose.file? (.root, sidecarName zeroKey.1) = some ⟨.regular, []⟩ ∧
    ¬ Whole storedPair afterFailedClose zeroKey.1 (sidecarName zeroKey.1) := by
  have hcontent : afterFailedClose.file? (.root, zeroKey.1) = none := by decide +kernel
  have hsidecar : afterFailedClose.file? (.root, sidecarName zeroKey.1) = some ⟨.regular, []⟩ := by
    decide +kernel
  refine ⟨hcontent, hsidecar, not_whole_of_content ?_ (file?_eq_none.mp hcontent) ?_⟩
  · decide +kernel
  · exact fun hnone => by simp [FileSystem.file?, hnone] at hsidecar

end PosixRootAnchor

end StockResearch.Infrastructure
