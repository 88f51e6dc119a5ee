import StockResearch.Infrastructure.BlobRuns
import StockResearch.Infrastructure.PosixLaw

/-!
# Writing a pair of files

**Relations.**  `Loses`: names of a list may be gone, everything else is as it was.  `Grows`: outside
of a list of names, and for the files that there were, everything is as it was.

**Undoing.**  `unlinkExpected_end`: a name that the operation has given is gone, or a failure is
reported.  So it is with a list of them (`removePublished_end`).

**Doing.**  `createTemporaries_end`, `publish_end`: what stands in the file system when the two loops
end, however they end.

**`writePair_end`**: after a success both files are there with their bytes; after a failure that is no
failure of the cleanup both names stand for what they stood for; and what was there stays in any case.
-/

namespace StockResearch.Infrastructure

open PyText Txn Txn.Program

/-! ## Relations -/

/-- Some of the names may be gone. -/
structure Loses (gone : List Text) (fs fs' : FileSystem) : Prop where
  names : ∀ name, fs'.names (.root, name) = fs.names (.root, name) ∨
    (name ∈ gone ∧ fs'.names (.root, name) = none)
  files : fs'.files = fs.files
  next : fs'.next = fs.next

/-- Outside of some names, and but for new files, nothing has changed. -/
structure Grows (touched : List Text) (fs fs' : FileSystem) : Prop where
  names : ∀ name, name ∉ touched → fs'.names (.root, name) = fs.names (.root, name)
  files : ∀ i < fs.next, fs'.files i = fs.files i
  next : fs.next ≤ fs'.next

section Relations

variable {fs fs' fs'' : FileSystem} {gone gone' touched touched' : List Text} {name : Text}

lemma Loses.refl (gone : List Text) (fs : FileSystem) : Loses gone fs fs := ⟨fun _ => .inl rfl, rfl, rfl⟩

lemma Loses.trans (h : Loses gone fs fs') (h' : Loses gone' fs' fs'') :
    Loses (gone ++ gone') fs fs'' where
  names name := by
    rcases h'.names name with heq | ⟨hmem, hnone⟩
    · rcases h.names name with heq' | ⟨hmem, hnone⟩
      · exact .inl (heq.trans heq')
      · exact .inr ⟨List.mem_append_left _ hmem, heq.trans hnone⟩
    · exact .inr ⟨List.mem_append_right _ hmem, hnone⟩
  files := h'.files.trans h.files
  next := h'.next.trans h.next

/-- What is gone stays gone. -/
lemma Loses.names_eq_none (h : Loses gone fs fs') (hname : fs.names (.root, name) = none) :
    fs'.names (.root, name) = none := by
  rcases h.names name with heq | ⟨-, hnone⟩
  · exact heq.trans hname
  · exact hnone

lemma Loses.of_not_mem (h : Loses gone fs fs') (hname : name ∉ gone) :
    fs'.names (.root, name) = fs.names (.root, name) := by
  rcases h.names name with heq | ⟨hmem, -⟩
  · exact heq
  · exact absurd hmem hname

lemma Loses.mono (h : Loses gone fs fs') (hsub : gone ⊆ gone') : Loses gone' fs fs' :=
  ⟨fun name => (h.names name).imp_right (And.imp_left fun hmem => hsub hmem), h.files, h.next⟩

lemma Loses.grows (h : Loses gone fs fs') : Grows gone fs fs' where
  names _ hname := h.of_not_mem hname
  files _ _ := by rw [h.files]
  next := h.next.ge

lemma Grows.refl (touched : List Text) (fs : FileSystem) : Grows touched fs fs :=
  ⟨fun _ _ => rfl, fun _ _ => rfl, le_rfl⟩

lemma Grows.trans (h : Grows touched fs fs') (h' : Grows touched' fs' fs'') :
    Grows (touched ++ touched') fs fs'' where
  names name hname := by
    rw [List.mem_append, not_or] at hname
    exact (h'.names name hname.2).trans (h.names name hname.1)
  files i hi := (h'.files i (hi.trans_le h.next)).trans (h.files i hi)
  next := h.next.trans h'.next

lemma Grows.mono (h : Grows touched fs fs') (hsub : touched ⊆ touched') : Grows touched' fs fs' :=
  ⟨fun name hname => h.names name fun hmem => hname (hsub hmem), h.files, h.next⟩

end Relations

/-! ## Undoing -/

section Undo

variable {os : OperatingSystem} {w : World} {name : Text} {i : Nat}

/-- The name is that of the given file, or is gone. -/
def Ours (fs : FileSystem) (name : Text) (i : Nat) : Prop :=
  fs.names (.root, name) = none ∨
    (fs.names (.root, name) = some i ∧ (fs.files i).kind = .regular)

/-- What is ours stays ours when names are lost. -/
lemma Ours.of_loses {fs fs' : FileSystem} {gone : List Text} (h : Ours fs name i)
    (hloses : Loses gone fs fs') : Ours fs' name i := by
  rcases h with hnone | ⟨hname, hregular⟩
  · exact .inl (hloses.names_eq_none hnone)
  · rcases hloses.names name with heq | ⟨-, hnone⟩
    · exact .inr ⟨heq.trans hname, hloses.files ▸ hregular⟩
    · exact .inl hnone

/-- A name that is moved to the quarantine. -/
lemma loses_away (k : Nat) : Loses [name] w.fs (w.away os name k).fs where
  names other := by
    by_cases heq : other = name
    · subst heq
      exact .inr ⟨List.mem_singleton_self _, FileSystem.names_rename_source⟩
    · exact .inl (FileSystem.names_rename (by simpa using heq) (by simp))
  files := rfl
  next := rfl

/-- Of a name that is gone nothing can be quarantined. -/
lemma quarantineExpected_missing (hname : w.fs.names (.root, name) = none) :
    wp (quarantineExpected os name i) (fun r w' => w'.fs = w.fs ∧
      ∃ e, r = .error e ∧ (e = .missing ∨ e.isStorageError = true)) w := by
  have hmove : wp (moveAway os name 8) (fun r w' => w'.fs = w.fs ∧
      ∃ e, r = .error e ∧ (e = .missing ∨ e.isStorageError = true)) w := by
    refine (wp_bind _ _).mpr (wp_newToken.mpr ?_)
    simp only [after]
    refine (wp_bind _ _).mpr ((wp_attempt _).mpr (wp_renameNoreplace ?_ ?_ ?_ ?_))
    · intro e hcall he
      cases e with
      | missing => cases he
      | collision => cases he
      | cleanup => exact ⟨rfl, _, rfl, .inr rfl⟩
      | storage error => exact ⟨rfl, _, rfl, .inr rfl⟩
    · exact fun _ _ => ⟨rfl, _, rfl, .inl rfl⟩
    · exact fun _ hthere _ => absurd hname hthere
    · exact fun _ hthere _ => absurd hname hthere
  refine wp_seq hmove ?_ ?_
  · rintro candidate w' ⟨-, e, he, -⟩
    cases he
  · rintro e w' ⟨hfs, _, heq, he⟩
    cases heq
    exact ⟨hfs, _, rfl, he⟩

/-- A name that was to be removed: it is gone, or a failure is reported. -/
def Undone (before : FileSystem) (name : Text) : Except Failure Unit → World → Prop
  | .ok (), w => Loses [name] before w.fs ∧ w.fs.names (.root, name) = none
  | .error e, w => Loses [name] before w.fs ∧ e.isStorageError = true

lemma wp_throw_undone {before : FileSystem} {e : Failure} (he : e.isStorageError = true)
    (h : Loses [name] before w.fs) : wp (throw e) (Undone before name) w := ⟨h, he⟩

/-- **A name that is ours is gone, or a failure is reported.** -/
theorem unlinkExpected_end (hours : Ours w.fs name i) :
    wp (unlinkExpected os name i) (Undone w.fs name) w := by
  rcases hours with hnone | ⟨hname, hregular⟩
  · refine wp_attempt_seq (quarantineExpected_missing hnone) ?_
    rintro r w' ⟨hfs, e, rfl, he⟩
    have hloses : Loses [name] w.fs w'.fs := hfs ▸ Loses.refl _ _
    have hgone : w'.fs.names (.root, name) = none := hfs ▸ hnone
    cases e with
    | missing => exact ⟨hloses, hgone⟩
    | collision => simp [Failure.isStorageError] at he
    | cleanup => exact wp_throw_undone rfl hloses
    | storage error => exact wp_throw_undone rfl hloses
  · refine wp_attempt_seq (quarantineExpected_end hname hregular) ?_
    intro r w' hend
    cases hend with
    | @stopped k e h he =>
        have hloses : Loses [name] w.fs (w.tried k).fs := Loses.refl _ _
        cases e with
        | missing => cases he
        | collision => cases he
        | cleanup => exact wp_throw_undone rfl hloses
        | storage error => exact wp_throw_undone rfl hloses
    | restored => exact wp_throw_undone rfl (Loses.refl _ _)
    | lost => exact wp_throw_undone rfl (loses_away _)
    | @moved k h =>
        have hthere : (w.away os name k).fs.names
            (.quarantine, quarantineName (os.token (w.tokens + k))) ≠ none :=
          (FileSystem.names_rename_destination (by simp)).trans_ne (by simp [hname])
        have hunlinked : Loses [name] w.fs ((w.away os name k).fs.unlink
            (.quarantine, quarantineName (os.token (w.tokens + k)))) := by
          refine ⟨fun other => ?_, rfl, rfl⟩
          rw [FileSystem.names_unlink, if_neg (by simp)]
          exact (loses_away k).names other
        have hgone : ((w.away os name k).fs.unlink
            (.quarantine, quarantineName (os.token (w.tokens + k)))).names (.root, name) = none := by
          rw [FileSystem.names_unlink, if_neg (by simp)]
          exact FileSystem.names_rename_source
        refine wp_commitQuarantined hthere ?_ fun _ _ => ⟨hunlinked, hgone⟩
        · rintro fs - (rfl | rfl)
          · exact ⟨loses_away k, rfl⟩
          · exact ⟨hunlinked, rfl⟩

/-- A removal whose failure is only noted. -/
lemma wp_failed_unlink (hours : Ours w.fs name i) {Q : Except Failure Bool → World → Prop}
    (hgone : ∀ w', Loses [name] w.fs w'.fs → w'.fs.names (.root, name) = none → Q (.ok false) w')
    (hfailed : ∀ w', Loses [name] w.fs w'.fs → Q (.ok true) w') :
    wp (failed (unlinkExpected os name i)) Q w := by
  refine wp_failed (wp_mono (unlinkExpected_end hours) fun r w' h => ?_)
  match r, h with
  | .ok (), h => exact hgone w' h.1 h.2
  | .error e, h => exact ⟨h.2, hfailed w' h.1⟩

namespace PosixRootAnchor

variable {entries : List Made}

/-- The names of what was made are ours. -/
def AllOurs (fs : FileSystem) (entries : List Made) : Prop :=
  ∀ made ∈ entries, Ours fs made.name made.identity

/-- A list of names that were to be removed: they are gone, or a failure is noted. -/
def AllUndone (before : FileSystem) (entries : List Made) : Except Failure Bool → World → Prop
  | .ok noted, w => Loses (entries.map Made.name) before w.fs ∧
      (noted = false → ∀ made ∈ entries, w.fs.names (.root, made.name) = none)
  | .error _, _ => False

lemma AllOurs.of_loses {fs fs' : FileSystem} {gone : List Text} (h : AllOurs fs entries)
    (hloses : Loses gone fs fs') : AllOurs fs' entries :=
  fun made hmade => (h made hmade).of_loses hloses

/-- The names that were given are gone, or a failure is noted. -/
theorem removePublished_end (hours : AllOurs w.fs entries) :
    wp (removePublished os entries) (AllUndone w.fs entries) w := by
  induction entries generalizing w with
  | nil => exact ⟨Loses.refl _ _, by simp⟩
  | cons made rest ih =>
      have hmade := hours made List.mem_cons_self
      have hrest : AllOurs w.fs rest := fun other hother => hours other (List.mem_cons_of_mem _ hother)
      refine (wp_bind _ _).mpr (wp_failed_unlink hmade ?_ ?_)
      · intro w' hloses hgone
        simp only [after]
        refine wp_seq (ih (hrest.of_loses hloses)) ?_ fun _ _ h => h.elim
        rintro noted w'' ⟨hloses', hall⟩
        refine ⟨hloses.trans hloses', fun hnoted other hother => ?_⟩
        rcases List.mem_cons.mp hother with rfl | hother
        · exact hloses'.names_eq_none hgone
        · exact hall hnoted other hother
      · intro w' hloses
        simp only [after]
        refine wp_seq (ih (hrest.of_loses hloses)) ?_ fun _ _ h => h.elim
        rintro noted w'' ⟨hloses', -⟩
        exact ⟨hloses.trans hloses', fun h => by simp at h⟩

/-- So it is with the temporary files. -/
theorem removeTemporaries_end (hours : AllOurs w.fs entries) :
    wp (removeTemporaries os entries) (AllUndone w.fs entries) w := by
  induction entries generalizing w with
  | nil => exact ⟨Loses.refl _ _, by simp⟩
  | cons made rest ih =>
      have hmade := hours made List.mem_cons_self
      have hrest : AllOurs w.fs rest := fun other hother => hours other (List.mem_cons_of_mem _ hother)
      refine (wp_bind _ _).mpr ((wp_attempt _).mpr (wp_failed_unlink hmade ?_ ?_))
      · intro w' hloses hgone
        simp only [after]
        refine (wp_bind _ _).mpr (wp_failed_closeFd ?_)
        simp only [after]
        refine (wp_bind _ _).mpr ((wp_call _).mpr ?_)
        simp only [after]
        refine wp_seq (@ih (w'.tick 1) (hrest.of_loses hloses)) ?_ fun _ _ h => h.elim
        rintro noted w'' ⟨hloses', hall⟩
        refine ⟨hloses.trans hloses', fun hnoted other hother => ?_⟩
        rcases List.mem_cons.mp hother with rfl | hother
        · exact hloses'.names_eq_none hgone
        · exact hall (by simp_all) other hother
      · intro w' hloses
        simp only [after]
        refine (wp_bind _ _).mpr (wp_failed_closeFd ?_)
        simp only [after]
        refine (wp_bind _ _).mpr ((wp_call _).mpr ?_)
        simp only [after]
        refine wp_seq (@ih (w'.tick 1) (hrest.of_loses hloses)) ?_ fun _ _ h => h.elim
        rintro noted w'' ⟨hloses', -⟩
        exact ⟨hloses.trans hloses', fun h => by simp at h⟩

end PosixRootAnchor

end Undo

/-! ## Writing -/

section Write

variable {os : OperatingSystem} {w : World} {name : Text} {i : Nat} {data : List UInt8}

/-- Only the bytes of one file may have changed. -/
structure OnlyBytes (i : Nat) (fs fs' : FileSystem) : Prop where
  names : fs'.names = fs.names
  next : fs'.next = fs.next
  files : ∀ j, j ≠ i → fs'.files j = fs.files j
  kind : (fs'.files i).kind = (fs.files i).kind

lemma OnlyBytes.refl (i : Nat) (fs : FileSystem) : OnlyBytes i fs fs := ⟨rfl, rfl, fun _ _ => rfl, rfl⟩

lemma OnlyBytes.trans {fs fs' fs'' : FileSystem} (h : OnlyBytes i fs fs')
    (h' : OnlyBytes i fs' fs'') : OnlyBytes i fs fs'' where
  names := h'.names.trans h.names
  next := h'.next.trans h.next
  files j hj := (h'.files j hj).trans (h.files j hj)
  kind := h'.kind.trans h.kind

lemma onlyBytes_append (fs : FileSystem) (i : Nat) (bytes : List UInt8) :
    OnlyBytes i fs (fs.append i bytes) := by
  refine ⟨rfl, rfl, fun j hj => ?_, ?_⟩
  · exact Function.update_of_ne hj _ _
  · exact (congrArg File.kind (Function.update_self i _ fs.files)).trans rfl

lemma bytes_append (fs : FileSystem) (i : Nat) (bytes : List UInt8) :
    ((fs.append i bytes).files i).bytes = (fs.files i).bytes ++ bytes :=
  congrArg File.bytes (Function.update_self i _ fs.files)

/-- The bytes are written behind those of the file, or a failure is reported. -/
def WrittenTo (before : FileSystem) (i : Nat) (data : List UInt8) :
    Except Failure Unit → World → Prop
  | .ok (), w => OnlyBytes i before w.fs ∧ (w.fs.files i).bytes = (before.files i).bytes ++ data
  | .error e, w => OnlyBytes i before w.fs ∧ e.isStorageError = true

lemma wp_osWrite {Q : Except Failure Nat → World → Prop}
    (hfault : os.Fails w.calls → Q (.error operationFailed) (w.tick 1))
    (hdone : Q (.ok (min (os.written w.calls) data.length))
      ((w.tick 1).on (w.fs.append i (data.take (os.written w.calls))))) :
    wp (osWrite os i data) Q w := by
  change wp (translate (fun _ => operationFailed) (systemCall os fun fs =>
    (.ok (min (os.written w.calls) data.length), fs.append i (data.take (os.written w.calls))))) Q w
  exact (wp_translate _ _).mpr (wp_systemCall (fun _ h => hfault (fails_of_fault h)) fun _ => hdone)

/-- The bytes are written in parts, and the rest behind every part. -/
theorem writeAll_end (w : World) (i : Nat) (data : List UInt8) :
    wp (writeAll os i data) (WrittenTo w.fs i data) w := by
  rw [writeAll]
  split
  · next hempty =>
      subst hempty
      refine wp_readCall (fun e _ => ⟨OnlyBytes.refl _ _, rfl⟩) fun _ => ⟨OnlyBytes.refl _ _, ?_⟩
      exact (List.append_nil _).symm
  · next hdata =>
      refine (wp_bind _ _).mpr (wp_osWrite (fun _ => ⟨OnlyBytes.refl _ _, rfl⟩) ?_)
      simp only [after]
      have hpart := onlyBytes_append w.fs i (data.take (os.written w.calls))
      split
      · exact ⟨hpart, rfl⟩
      · next hcount =>
          have hlength := List.length_pos_of_ne_nil hdata
          have hrest := writeAll_end
            ((w.tick 1).on (w.fs.append i (data.take (os.written w.calls)))) i
            (data.drop (min (os.written w.calls) data.length))
          refine wp_mono hrest fun r w' h => ?_
          cases r with
          | ok _ =>
              refine ⟨hpart.trans h.1, h.2.trans ?_⟩
              have hdrop : data.drop (min (os.written w.calls) data.length) =
                  data.drop (os.written w.calls) := by
                rcases le_total (os.written w.calls) data.length with hle | hle
                · rw [min_eq_left hle]
                · rw [min_eq_right hle, List.drop_length, List.drop_of_length_le hle]
              change ((w.fs.append i _).files i).bytes ++ _ = _
              rw [bytes_append, hdrop, List.append_assoc, List.take_append_drop]
          | error e => exact ⟨hpart.trans h.1, h.2⟩
termination_by data.length
decreasing_by
  rw [List.length_drop]
  omega

/-! ## Temporary files -/

/-- A name stands for a file with the given bytes. -/
def Holds (fs : FileSystem) (name : Text) (i : Nat) (data : List UInt8) : Prop :=
  fs.names (.root, name) = some i ∧ fs.files i = ⟨.regular, data⟩

lemma Holds.ours {fs : FileSystem} (h : Holds fs name i data) : Ours fs name i :=
  .inr ⟨h.1, by rw [h.2]⟩

lemma Holds.of_grows {fs fs' : FileSystem} {touched : List Text} (h : Holds fs name i data)
    (hgrows : Grows touched fs fs') (hname : name ∉ touched) : Holds fs' name i data :=
  ⟨(hgrows.names name hname).trans h.1, (hgrows.files i (fs.numbered _ _ h.1)).trans h.2⟩

lemma grows_create (fs : FileSystem) (name : Text) : Grows [name] fs (fs.create (.root, name)) where
  names other hother := if_neg (by simpa using hother)
  files i hi := Function.update_of_ne hi.ne _ _
  next := Nat.le_succ _

lemma OnlyBytes.grows {fs fs' : FileSystem} (h : OnlyBytes i fs fs') {before : FileSystem}
    {touched : List Text} (hgrows : Grows touched before fs) (hi : before.next ≤ i) :
    Grows touched before fs' where
  names other hother := (congrFun h.names _).trans (hgrows.names other hother)
  files j hj := (h.files j (hj.trans_le hi).ne).trans (hgrows.files j hj)
  next := hgrows.next.trans h.next.ge

namespace PosixRootAnchor

/-- A temporary file is made with its bytes, or what was raised is one of the three classes that are
caught. -/
def Created (before : FileSystem) (name : Text) (data : List UInt8) :
    Except Failure Made → World → Prop
  | .ok made, w => Grows [name] before w.fs ∧ made.name = name ∧ before.next ≤ made.identity ∧
      Holds w.fs name made.identity data
  | .error e, w => Grows [name] before w.fs ∧ e ≠ .missing

lemma wp_openNewFd {entry : Entry} {Q : Except Failure Nat → World → Prop}
    (herror : ∀ e, e ≠ .missing → Q (.error e) (w.tick 1))
    (hdone : w.fs.names entry = none → Q (.ok w.fs.next) ((w.tick 1).on (w.fs.create entry))) :
    wp (openNewFd os entry) Q w := by
  refine (wp_translate _ _).mpr (wp_systemCall (fun e he => herror _ ?_) fun hcall => ?_)
  · cases e <;> simp [operationFailed]
  · split
    · next hfree => exact hdone hfree
    · exact herror .collision (by simp)

lemma wp_throw_created {before : FileSystem} {e : Failure} (he : e ≠ .missing)
    (h : Grows [name] before w.fs) : wp (throw e) (Created before name data) w := ⟨h, he⟩

lemma file_eq {file : File} (hkind : file.kind = .regular) (hbytes : file.bytes = data) :
    file = ⟨.regular, data⟩ := by
  obtain ⟨kind, bytes⟩ := file
  obtain rfl : kind = .regular := hkind
  obtain rfl : bytes = data := hbytes
  rfl

lemma files_create (fs : FileSystem) (entry : Entry) :
    (fs.create entry).files fs.next = ⟨.regular, []⟩ := Function.update_self _ _ _

lemma names_create (fs : FileSystem) (entry : Entry) :
    (fs.create entry).names entry = some fs.next := if_pos rfl

theorem createTemporary_end (hlocal : isLocalName name = true) :
    wp (createTemporary os name data) (Created w.fs name data) w := by
  unfold createTemporary
  rw [hlocal]
  refine (wp_bind _ _).mpr (wp_openNewFd (fun e he => ⟨Grows.refl _ _, he⟩) fun hfree => ?_)
  have hgrows := grows_create w.fs name
  have hregular : ((w.fs.create (.root, name)).files w.fs.next).kind = .regular := by
    rw [files_create]
  simp only [after]
  refine (wp_bind _ _).mpr ((wp_attempt _).mpr (wp_fstat (fun _ => ?_) fun _ => ?_))
  · simp only [after]
    refine (wp_bind _ _).mpr (wp_failed_closeFd ?_)
    exact wp_throw_created (by simp) hgrows
  · have hkind : (((w.tick 1).on (w.fs.create (.root, name))).fs.files w.fs.next).kind = .regular :=
      hregular
    simp only [after, hkind, ne_eq, not_true_eq_false, if_false]
    refine wp_attempt_seq (writeAll_end _ _ _) fun r w' h => ?_
    cases r with
    | ok _ =>
        refine ⟨h.1.grows hgrows le_rfl, rfl, le_rfl, ?_, ?_⟩
        · exact (congrFun h.1.names _).trans (names_create _ _)
        · refine file_eq (h.1.kind.trans hregular) (h.2.trans ?_)
          exact congrArg (fun f => File.bytes f ++ data) (files_create _ _)
    | error e =>
        have hgrows' := h.1.grows hgrows le_rfl
        have hours : Ours w'.fs name w.fs.next := by
          refine .inr ⟨(congrFun h.1.names _).trans (names_create _ _), h.1.kind.trans hregular⟩
        have hundone : ∀ w'' : World, Loses [name] w'.fs w''.fs → Grows [name] w.fs w''.fs :=
          fun w'' hloses => (hgrows'.trans hloses.grows).mono (by simp)
        have hmissing : e ≠ .missing := by
          rintro rfl
          cases h.2
        simp only
        refine (wp_bind _ _).mpr (wp_failed_unlink hours ?_ ?_)
        · intro w'' hloses _
          simp only [after]
          refine (wp_bind _ _).mpr (wp_failed_closeFd ?_)
          simp only [after]
          split
          · exact wp_throw_created (by simp) (hundone w'' hloses)
          · exact wp_throw_created hmissing (hundone w'' hloses)
        · intro w'' hloses
          simp only [after]
          refine (wp_bind _ _).mpr (wp_failed_closeFd ?_)
          simp only [after, Bool.true_or, if_true]
          exact wp_throw_created (by simp) (hundone w'' hloses)

/-- A temporary file and what it was made from. -/
def Temporary (fs : FileSystem) (made : Made) (item : Text × List UInt8) : Prop :=
  made.name = item.1 ∧ Holds fs item.1 made.identity item.2

/-- The temporary files of a first part of the list are made, and of all of it if nothing was
raised. -/
def AllCreated (before : FileSystem) (items : List (Text × List UInt8)) :
    Except Failure (List Made × Option Failure) → World → Prop
  | .ok (made, raised), w => Grows (items.map Prod.fst) before w.fs ∧ raised ≠ some .missing ∧
      ∃ done rest, items = done ++ rest ∧ List.Forall₂ (Temporary w.fs) made done ∧
        (raised = none → rest = [])
  | .error _, _ => False

theorem createTemporaries_end {items : List (Text × List UInt8)}
    (hlocal : ∀ item ∈ items, isLocalName item.1 = true) (hnames : (items.map Prod.fst).Nodup) :
    wp (createTemporaries os items) (AllCreated w.fs items) w := by
  induction items generalizing w with
  | nil => exact ⟨Grows.refl _ _, by simp, [], [], rfl, .nil, fun _ => rfl⟩
  | cons item items ih =>
      obtain ⟨name, data⟩ := item
      rw [List.map_cons, List.nodup_cons] at hnames
      refine wp_attempt_seq (createTemporary_end (hlocal _ List.mem_cons_self)) fun r w' h => ?_
      match r, h with
      | .ok made, ⟨hgrows, hmade, _, hholds⟩ =>
          have hrest := @ih w' (fun item hitem => hlocal item (List.mem_cons_of_mem _ hitem)) hnames.2
          refine wp_seq hrest ?_ fun _ _ h => h.elim
          rintro ⟨others, raised⟩ w'' ⟨hgrows', hraised, done, rest, hitems, hothers, hall⟩
          have hholds' : Holds w''.fs name made.identity data := hholds.of_grows hgrows' hnames.1
          refine ⟨hgrows.trans hgrows', hraised, (name, data) :: done, rest, ?_, ?_, hall⟩
          · rw [hitems, List.cons_append]
          · exact .cons ⟨hmade, hholds'⟩ hothers
      | .error e, ⟨hgrows, he⟩ =>
          refine ⟨hgrows.mono (by simp), by simpa using he, [], _, rfl, .nil, fun h => ?_⟩
          cases h

end PosixRootAnchor

end Write

/-! ## Publishing -/

section Publish

variable {os : OperatingSystem} {w : World} {name : Text} {i : Nat}

namespace PosixRootAnchor

/-- The new name stays, or a failure is reported. -/
def Inspected (before : FileSystem) (name : Text) (i : Nat) : Except Failure Unit → World → Prop
  | .ok (), w => Loses [name] before w.fs ∧ w.fs.names (.root, name) = some i
  | .error e, w => Loses [name] before w.fs ∧ e.isStorageError = true

lemma wp_throw_inspected {before : FileSystem} {e : Failure} (he : e.isStorageError = true)
    (h : Loses [name] before w.fs) : wp (throw e) (Inspected before name i) w := ⟨h, he⟩

theorem inspectPublished_end (hlocal : isLocalName name = true)
    (hname : w.fs.names (.root, name) = some i) (hregular : (w.fs.files i).kind = .regular) :
    wp (inspectPublished os name i) (Inspected w.fs name i) w := by
  have hkept : ∀ n, Loses [name] w.fs (w.tick n).fs := fun n => Loses.refl _ _
  refine (wp_bind _ _).mpr ((wp_attempt _).mpr (wp_openExisting hlocal ?_ ?_ ?_))
  · intro e n he _
    have hours : Ours (w.tick n).fs name i := .inr ⟨hname, hregular⟩
    simp only [after]
    refine (wp_bind _ _).mpr (wp_failed_unlink hours ?_ ?_)
    · intro w' hloses _
      simp only [after, Bool.false_eq_true, if_false, he, if_true]
      exact wp_throw_inspected he hloses
    · intro w' hloses
      simp only [after, if_true]
      exact wp_throw_inspected rfl hloses
  · exact fun hmissing => by simp [hmissing] at hname
  · intro j hj
    obtain rfl := Option.some.inj (hj.there.symm.trans hname)
    simp only [after]
    refine (wp_bind _ _).mpr ((wp_attempt _).mpr (wp_fstat (fun _ => ?_) fun _ => ?_))
    · simp only [after]
      refine (wp_bind _ _).mpr (wp_closeFd (fun _ => ?_) fun _ => ?_)
      · exact ⟨hkept 4, rfl⟩
      · exact wp_throw_inspected rfl (hkept 4)
    · simp only [after]
      refine (wp_bind _ _).mpr (wp_closeFd (fun _ => ?_) fun _ => ?_)
      · exact ⟨hkept 4, rfl⟩
      · simp only [after, ne_eq, not_true_eq_false, if_false]
        exact ⟨hkept 4, hname⟩

lemma wp_linkNames {source destination : Entry} {Q : Except Failure Unit → World → Prop}
    (herror : ∀ e, e ≠ .missing → Q (.error e) (w.tick 1))
    (hdone : w.fs.names destination = none →
      Q (.ok ()) ((w.tick 1).on (w.fs.link source destination))) :
    wp (linkNames os source destination) Q w := by
  refine (wp_translate _ _).mpr (wp_systemCall (fun e he => herror _ ?_) fun hcall => ?_)
  · cases e <;> simp [operationFailed]
  · split
    · exact herror operationFailed (by simp [operationFailed])
    · split
      · next hfree => exact hdone hfree
      · exact herror .collision (by simp)

/-- Names that were free are given, and may be gone again. -/
structure Gives (published : List Made) (before fs : FileSystem) : Prop where
  names : ∀ name, fs.names (.root, name) = before.names (.root, name) ∨
    name ∈ published.map Made.name
  free : ∀ made ∈ published, before.names (.root, made.name) = none
  ours : AllOurs fs published
  files : fs.files = before.files
  next : fs.next = before.next

/-- A temporary file that is about to get a name. -/
structure Publishable (fs : FileSystem) (item : Made × Text) : Prop where
  there : fs.names (.root, item.1.name) = some item.1.identity
  regular : (fs.files item.1.identity).kind = .regular
  isLocal : isLocalName item.2 = true

/-- Names were given to a first part of the list, and to all of it if nothing was raised. -/
def AllPublished (before : FileSystem) (items : List (Made × Text)) :
    Except Failure (List Made × Option Failure) → World → Prop
  | .ok (published, raised), w => Gives published before w.fs ∧ raised ≠ some .missing ∧
      published.map Made.name ⊆ items.map Prod.snd ∧
      (raised = none → ∀ item ∈ items, w.fs.names (.root, item.2) = some item.1.identity)
  | .error _, _ => False

lemma Gives.nil (fs : FileSystem) : Gives [] fs fs :=
  ⟨fun _ => .inl rfl, by simp, by simp [AllOurs], rfl, rfl⟩

lemma Gives.of_not_mem {published : List Made} {before fs : FileSystem}
    (h : Gives published before fs) (hname : name ∉ published.map Made.name) :
    fs.names (.root, name) = before.names (.root, name) :=
  (h.names name).resolve_right hname

/-- First some names and then others. -/
lemma Gives.append {published others : List Made} {before fs fs' : FileSystem}
    (h : Gives published before fs) (h' : Gives others fs fs')
    (hapart : ∀ made ∈ published, made.name ∉ others.map Made.name) :
    Gives (published ++ others) before fs' where
  names name := by
    rw [List.map_append, List.mem_append]
    rcases h'.names name with heq | hmem
    · rcases h.names name with heq' | hmem
      · exact .inl (heq.trans heq')
      · exact .inr (.inl hmem)
    · exact .inr (.inr hmem)
  free made hmade := by
    rcases List.mem_append.mp hmade with hmem | hmem
    · exact h.free made hmem
    · rw [← h.of_not_mem fun hname => ?_]
      · exact h'.free made hmem
      · obtain ⟨other, hother, heq⟩ := List.mem_map.mp hname
        exact hapart other hother (heq ▸ List.mem_map_of_mem hmem)
  ours made hmade := by
    rcases List.mem_append.mp hmade with hmem | hmem
    · rcases h.ours made hmem with hnone | ⟨hname, hregular⟩
      · exact .inl ((h'.of_not_mem (hapart made hmem)).trans hnone)
      · exact .inr ⟨(h'.of_not_mem (hapart made hmem)).trans hname, h'.files ▸ hregular⟩
    · exact h'.ours made hmem
  files := h'.files.trans h.files
  next := h'.next.trans h.next

/-- A name is given and looked at. -/
lemma gives_one {made : Made} {destination : Text} {fs : FileSystem}
    (hmade : Publishable w.fs (made, destination)) (hfree : w.fs.names (.root, destination) = none)
    (hloses : Loses [destination] (w.fs.link (.root, made.name) (.root, destination)) fs) :
    Gives [⟨destination, made.identity⟩] w.fs fs := by
  have hnames : ∀ name, name ≠ destination → fs.names (.root, name) = w.fs.names (.root, name) := by
    intro name hne
    rw [hloses.of_not_mem (by simpa using hne), FileSystem.names_link, if_neg (by simpa using hne)]
  have hgiven : (w.fs.link (.root, made.name) (.root, destination)).names (.root, destination) =
      some made.identity := (if_pos rfl).trans hmade.there
  refine ⟨fun name => ?_, by simpa using hfree, ?_, hloses.files, hloses.next⟩
  · by_cases heq : name = destination
    · exact .inr (by simp [heq])
    · exact .inl (hnames name heq)
  · intro other hother
    obtain rfl := List.mem_singleton.mp hother
    rcases hloses.names destination with heq | ⟨-, hnone⟩
    · exact .inr ⟨heq.trans hgiven, by rw [hloses.files]; exact hmade.regular⟩
    · exact .inl hnone

theorem publish_end {items : List (Made × Text)} (hitems : ∀ item ∈ items, Publishable w.fs item)
    (hnames : (items.map Prod.snd).Nodup)
    (hapart : ∀ item ∈ items, item.1.name ∉ items.map Prod.snd) :
    wp (publish os items) (AllPublished w.fs items) w := by
  induction items generalizing w with
  | nil => exact ⟨Gives.nil _, by simp, by simp, by simp⟩
  | cons item items ih =>
      obtain ⟨made, destination⟩ := item
      rw [List.map_cons, List.nodup_cons] at hnames
      have hmade := hitems _ List.mem_cons_self
      refine (wp_bind _ _).mpr ((wp_attempt _).mpr (wp_linkNames ?_ ?_))
      · exact fun e he => ⟨Gives.nil _, by simpa using he, by simp, fun h => by cases h⟩
      · intro hfree
        have hgiven : (w.fs.link (.root, made.name) (.root, destination)).names
            (.root, destination) = some made.identity := (if_pos rfl).trans hmade.there
        have hinspected := @inspectPublished_end os
          ((w.tick 1).on (w.fs.link (.root, made.name) (.root, destination))) destination
          made.identity hmade.isLocal hgiven hmade.regular
        simp only [after]
        refine wp_attempt_seq hinspected fun r w' h => ?_
        cases r with
        | error e =>
            obtain ⟨hloses, he⟩ := h
            refine ⟨gives_one hmade hfree hloses, ?_, by simp, fun h => by cases h⟩
            rintro ⟨rfl⟩
            cases he
        | ok _ =>
            obtain ⟨hloses, hstays⟩ := h
            have hfirst := gives_one hmade hfree hloses
            have hrest : ∀ item ∈ items, Publishable w'.fs item := by
              intro item hitem
              have hitem' := hitems item (List.mem_cons_of_mem _ hitem)
              have hne := hapart item (List.mem_cons_of_mem _ hitem)
              rw [List.map_cons, List.mem_cons, not_or] at hne
              refine ⟨(hfirst.of_not_mem (by simpa using hne.1)).trans hitem'.there, ?_, hitem'.isLocal⟩
              rw [hfirst.files]
              exact hitem'.regular
            have hapart' : ∀ item ∈ items, item.1.name ∉ items.map Prod.snd := fun item hitem hmem =>
              hapart item (List.mem_cons_of_mem _ hitem) (List.mem_cons_of_mem _ hmem)
            refine wp_seq (ih hrest hnames.2 hapart') ?_ fun _ _ h => h.elim
            rintro ⟨others, raised⟩ w'' ⟨hgives, hraised, hsub, hall⟩
            have hdestination : destination ∉ others.map Made.name := fun h => hnames.1 (hsub h)
            refine ⟨hfirst.append hgives ?_, hraised, ?_, fun hnone item hitem => ?_⟩
            · simpa using hdestination
            · exact List.cons_subset_cons _ hsub
            · rcases List.mem_cons.mp hitem with rfl | hitem
              · exact (hgives.of_not_mem hdestination).trans hstays
              · exact hall hnone item hitem

end PosixRootAnchor

end Publish

/-! ## The end of a write -/

section Finish

variable {os : OperatingSystem} {w : World}

namespace PosixRootAnchor

variable {temporary published : List Made} {raised : Option Failure}

/-- The temporary names are gone after a success, and after a failure that is no failure of the
cleanup the other names are gone, too. -/
def Finished (before : FileSystem) (temporary published : List Made) (raised : Option Failure) :
    Except Failure Unit → World → Prop
  | .ok (), w => raised = none ∧ Loses (temporary.map Made.name) before w.fs
  | .error e, w => Loses ((temporary ++ published).map Made.name) before w.fs ∧
      (e ≠ .cleanup → ∀ made ∈ published, w.fs.names (.root, made.name) = none)

theorem finishPair_end (htemporary : AllOurs w.fs temporary) (hpublished : AllOurs w.fs published) :
    wp (finishPair os temporary published raised) (Finished w.fs temporary published raised) w := by
  have hreverse : AllOurs w.fs published.reverse := fun made hmade =>
    hpublished made (List.mem_reverse.mp hmade)
  refine wp_seq (removeTemporaries_end htemporary) ?_ fun _ _ h => h.elim
  rintro temporaryFailed w' ⟨hloses, -⟩
  have hsub : temporary.map Made.name ⊆ (temporary ++ published).map Made.name :=
    List.map_subset _ (List.subset_append_left _ _)
  by_cases hremove : (raised.isSome || temporaryFailed) = true
  · rw [if_pos hremove]
    refine wp_seq (removePublished_end (hreverse.of_loses hloses)) ?_ fun _ _ h => h.elim
    rintro publishedFailed w'' ⟨hloses', hall⟩
    have hboth : Loses ((temporary ++ published).map Made.name) w.fs w''.fs := by
      refine (hloses.trans hloses').mono ?_
      simp
    beta_reduce
    split
    · exact ⟨hboth, fun h => absurd rfl h⟩
    · next hfailed =>
        rw [Bool.or_eq_true, not_or, Bool.not_eq_true, Bool.not_eq_true] at hfailed
        cases raised with
        | none => simp [hfailed.1] at hremove
        | some e =>
            exact ⟨hboth, fun _ made hmade => hall hfailed.2 made (List.mem_reverse.mpr hmade)⟩
  · rw [if_neg hremove]
    rw [Bool.or_eq_true, not_or, Bool.not_eq_true, Bool.not_eq_true] at hremove
    obtain ⟨hraised, rfl⟩ := hremove
    obtain rfl : raised = none := Option.isSome_eq_false_iff.mp hraised |> Option.isNone_iff_eq_none.mp
    exact ⟨rfl, hloses⟩

/-- How a write of a pair may end. -/
structure Settled (before : FileSystem) (key : Key) (content sidecar : List UInt8)
    (result : Except Failure Unit) (after : FileSystem) : Prop where
  /-- A success: both files are there with their bytes. -/
  written : result = .ok () → after.file? (.root, key.1) = some ⟨.regular, content⟩ ∧
    after.file? (.root, sidecarName key.1) = some ⟨.regular, sidecar⟩
  /-- A failure other than that of the cleanup: both names stand for what they stood for. -/
  undone : ∀ e, result = .error e → e ≠ .cleanup →
    after.file? (.root, key.1) = before.file? (.root, key.1) ∧
      after.file? (.root, sidecarName key.1) = before.file? (.root, sidecarName key.1)
  /-- In any case: what was there stays as it was. -/
  kept : ∀ name ∈ [key.1, sidecarName key.1], ∀ i, before.names (.root, name) = some i →
    after.names (.root, name) = some i ∧ after.files i = before.files i

variable {before made : FileSystem} {key : Key} {content sidecar : List UInt8} {touched : List Text}

lemma file?_eq {fs fs' : FileSystem} {entry : Entry} (hnames : fs'.names entry = fs.names entry)
    (hfiles : ∀ i, fs.names entry = some i → fs'.files i = fs.files i) :
    fs'.file? entry = fs.file? entry := by
  rw [FileSystem.file?, FileSystem.file?, hnames]
  cases hentry : fs.names entry with
  | none => rfl
  | some i => exact congrArg some (hfiles i hentry)

/-- What is known behind the two loops: `made` is the file system between them. -/
structure Between (before made fs : FileSystem) (key : Key) (content sidecar : List UInt8)
    (touched : List Text) (temporary published : List Made) (raised : Option Failure) : Prop where
  grows : Grows touched before made
  gives : Gives published made fs
  finals : published.map Made.name ⊆ [key.1, sidecarName key.1]
  allOurs : AllOurs fs temporary
  temporaries : temporary.map Made.name ⊆ touched
  apart : key.1 ∉ touched ∧ sidecarName key.1 ∉ touched
  caught : raised ≠ some .missing
  complete : raised = none → ∃ i j, Holds fs key.1 i content ∧ Holds fs (sidecarName key.1) j sidecar

section Settle

variable {fs : FileSystem} {name : Text} {gone : List Text} {i : Nat}

lemma Between.not_mem (h : Between before made fs key content sidecar touched temporary published
    raised) (hname : name ∈ [key.1, sidecarName key.1]) : name ∉ temporary.map Made.name := by
  intro hmem
  rcases List.mem_pair.mp hname with rfl | rfl
  · exact h.apart.1 (h.temporaries hmem)
  · exact h.apart.2 (h.temporaries hmem)

/-- A final name before and between. -/
lemma Between.names_made (h : Between before made fs key content sidecar touched temporary published
    raised) (hname : name ∈ [key.1, sidecarName key.1]) :
    made.names (.root, name) = before.names (.root, name) := by
  refine h.grows.names name ?_
  rcases List.mem_pair.mp hname with rfl | rfl
  · exact h.apart.1
  · exact h.apart.2

/-- What was there before is not given a name, and none of its bytes are written. -/
lemma Between.kept (h : Between before made fs key content sidecar touched temporary published
    raised) {after : FileSystem} (hloses : Loses ((temporary ++ published).map Made.name) fs after)
    (hname : name ∈ [key.1, sidecarName key.1]) (hthere : before.names (.root, name) = some i) :
    after.names (.root, name) = some i ∧ after.files i = before.files i := by
  have hmade : made.names (.root, name) = some i := (h.names_made hname).trans hthere
  have hpublished : name ∉ published.map Made.name := by
    intro hmem
    obtain ⟨given, hgiven, rfl⟩ := List.mem_map.mp hmem
    have hfree := h.gives.free given hgiven
    simp [hmade] at hfree
  constructor
  · rw [hloses.of_not_mem, h.gives.of_not_mem hpublished, hmade]
    rw [List.map_append, List.mem_append, not_or]
    exact ⟨h.not_mem hname, hpublished⟩
  · rw [hloses.files, h.gives.files]
    exact h.grows.files i (before.numbered _ _ hthere)

/-- Once all names that were given are gone again, a final name stands for what it stood for. -/
lemma Between.undone (h : Between before made fs key content sidecar touched temporary published
    raised) {after : FileSystem} (hloses : Loses ((temporary ++ published).map Made.name) fs after)
    (hgone : ∀ given ∈ published, after.names (.root, given.name) = none)
    (hname : name ∈ [key.1, sidecarName key.1]) :
    after.file? (.root, name) = before.file? (.root, name) := by
  cases hthere : before.names (.root, name) with
  | some i =>
      obtain ⟨hnames, -⟩ := h.kept hloses hname hthere
      exact file?_eq (hnames.trans hthere.symm) fun j hj => (h.kept hloses hname hj).2
  | none =>
      have hmade : made.names (.root, name) = none := (h.names_made hname).trans hthere
      have hnone : after.names (.root, name) = none := by
        by_cases hpublished : name ∈ published.map Made.name
        · obtain ⟨given, hgiven, rfl⟩ := List.mem_map.mp hpublished
          exact hgone given hgiven
        · exact hloses.names_eq_none ((h.gives.of_not_mem hpublished).trans hmade)
      exact file?_eq (hnone.trans hthere.symm) fun j hj => by simp [hthere] at hj

/-- A file that a final name stands for survives the removal of the temporary names. -/
lemma Between.written (h : Between before made fs key content sidecar touched temporary published
    raised) {after : FileSystem} (hloses : Loses (temporary.map Made.name) fs after)
    (hname : name ∈ [key.1, sidecarName key.1]) {data : List UInt8} (hholds : Holds fs name i data) :
    after.file? (.root, name) = some ⟨.regular, data⟩ := by
  have hnames := (hloses.of_not_mem (h.not_mem hname)).trans hholds.1
  rw [FileSystem.file?, hnames, hloses.files, Option.map_some, hholds.2]

theorem Between.settled (h : Between before made w.fs key content sidecar touched temporary
    published raised) : wp (finishPair os temporary published raised)
      (fun result w' => Settled before key content sidecar result w'.fs) w := by
  have hkey : key.1 ∈ [key.1, sidecarName key.1] := by simp
  have hsidecar : sidecarName key.1 ∈ [key.1, sidecarName key.1] := by simp
  refine wp_mono (finishPair_end h.allOurs h.gives.ours) fun result w' hfinished => ?_
  match result, hfinished with
  | .ok (), ⟨hraised, hloses⟩ =>
      obtain ⟨i, j, hi, hj⟩ := h.complete hraised
      refine ⟨fun _ => ⟨h.written hloses hkey hi, h.written hloses hsidecar hj⟩, ?_, ?_⟩
      · exact fun e he => by cases he
      · intro name hname i hthere
        exact h.kept (hloses.mono (List.map_subset _ (List.subset_append_left _ _))) hname hthere
  | .error e, ⟨hloses, hgone⟩ =>
      refine ⟨?_, ?_, fun name hname i hthere => h.kept hloses hname hthere⟩
      · exact fun hok => by cases hok
      rintro _ ⟨⟩ he
      exact ⟨h.undone hloses (hgone he) hkey, h.undone hloses (hgone he) hsidecar⟩

end Settle

/-! ## Writing a pair -/

lemma Holds.of_gives {published : List Made} {fs fs' : FileSystem} {name : Text} {i : Nat}
    {data : List UInt8} (h : Holds fs name i data) (hgives : Gives published fs fs')
    (hname : name ∉ published.map Made.name) : Holds fs' name i data :=
  ⟨(hgives.of_not_mem hname).trans h.1, by rw [hgives.files, h.2]⟩

lemma allOurs_of_temporary {fs : FileSystem} {items : List (Text × List UInt8)}
    (h : List.Forall₂ (Temporary fs) temporary items) :
    AllOurs fs temporary ∧ temporary.map Made.name = items.map Prod.fst := by
  induction h with
  | nil => exact ⟨by simp [AllOurs], rfl⟩
  | cons hfirst _ ih =>
      refine ⟨List.forall_mem_cons.mpr ⟨?_, ih.1⟩, ?_⟩
      · rw [hfirst.1]
        exact hfirst.2.ours
      · rw [List.map_cons, List.map_cons, hfirst.1, ih.2]

/-- A name that begins with a digit is none that begins with a point. -/
lemma ne_hidden (key : Key) (suffix rest : Text) : key.1 ++ suffix ≠ '.' :: rest := by
  obtain ⟨digits, hdigits⟩ := key
  rw [isHex, Bool.and_eq_true, beq_iff_eq] at hdigits
  cases digits with
  | nil => simp at hdigits
  | cons c cs =>
      intro heq
      obtain rfl := (List.cons.inj heq).1
      have hpoint : isHexDigit '.' = true := List.all_eq_true.mp hdigits.2 _ List.mem_cons_self
      exact absurd hpoint (by decide)

lemma blobTemporaryName_ne (token : Key) :
    blobTemporaryName token ≠ metadataTemporaryName token := by
  intro heq
  have hlength := congrArg List.length heq
  simp [blobTemporaryName, metadataTemporaryName] at hlength

lemma isLocalName_temporaryNames (token : Key) : isLocalName (blobTemporaryName token) = true ∧
    isLocalName (metadataTemporaryName token) = true := by
  constructor
  · exact @isLocalName_of_form (['.'], ".blob.tmp".toList) (by simp [localNameForms]) token
  · exact @isLocalName_of_form (['.'], ".metadata.tmp".toList) (by simp [localNameForms]) token

/-- The names of a pair are none of the temporary names. -/
lemma finals_apart (token key : Key) :
    key.1 ∉ [blobTemporaryName token, metadataTemporaryName token] ∧
      sidecarName key.1 ∉ [blobTemporaryName token, metadataTemporaryName token] := by
  have hkey : ∀ rest, key.1 ≠ '.' :: rest := fun rest => by
    have hne := ne_hidden key [] rest
    rwa [List.append_nil] at hne
  have hsidecar : ∀ rest, sidecarName key.1 ≠ '.' :: rest := ne_hidden key sidecarSuffix
  simp only [List.mem_pair, not_or]
  exact ⟨⟨hkey _, hkey _⟩, hsidecar _, hsidecar _⟩

/-- **Every write of a pair ends in one of three ways, whatever fails.** -/
theorem writePair_end (os : OperatingSystem) (anchor : PosixRootAnchor) (fs : FileSystem) (key : Key)
    (content sidecar : List UInt8) :
    Settled fs key content sidecar
      (writePair os anchor key.1 content (sidecarName key.1) sidecar ⟨fs, 0, 0⟩).1
      (writePair os anchor key.1 content (sidecarName key.1) sidecar ⟨fs, 0, 0⟩).2.fs := by
  suffices h : wp (writePair os anchor key.1 content (sidecarName key.1) sidecar)
      (fun result w' => Settled fs key content sidecar result w'.fs) ⟨fs, 0, 0⟩ from h
  refine (wp_bind _ _).mpr (wp_assertRoot (fun error n _ => ?_) fun _ _ _ => ?_)
  · exact ⟨by rintro ⟨⟩, fun _ _ _ => ⟨rfl, rfl⟩, fun _ _ _ h => ⟨h, rfl⟩⟩
  simp only [after]
  refine (wp_bind _ _).mpr (wp_newToken.mpr ?_)
  simp only [after]
  have hlocal := isLocalName_temporaryNames (os.token 0)
  have hcreate := @createTemporaries_end os ⟨fs, 2, 1⟩
    [(blobTemporaryName (os.token 0), content), (metadataTemporaryName (os.token 0), sidecar)]
    (by simpa using hlocal) (by simpa using blobTemporaryName_ne (os.token 0))
  have hapart := finals_apart (os.token 0) key
  have hne : sidecarName key.1 ≠ key.1 := (ne_sidecarName key.2 key.2).symm
  refine wp_seq hcreate ?_ fun _ _ h => h.elim
  rintro ⟨temporary, notMade⟩ w' ⟨hgrows, hcaught, done, rest, hitems, hmade, hall⟩
  obtain ⟨hours, hnames⟩ := allOurs_of_temporary hmade
  have htemporaries : temporary.map Made.name ⊆
      [blobTemporaryName (os.token 0), metadataTemporaryName (os.token 0)] := by
    have hsub : done.map Prod.fst ⊆ (done ++ rest).map Prod.fst :=
      List.map_subset _ (List.subset_append_left _ _)
    rwa [← hitems, ← hnames] at hsub
  cases notMade with
  | some e =>
      exact Between.settled ⟨hgrows, Gives.nil _, by simp, hours, htemporaries, hapart, hcaught,
        by rintro ⟨⟩⟩
  | none =>
      obtain rfl := hall rfl
      rw [List.append_nil] at hitems
      subst hitems
      cases hmade with | cons hblob hmade =>
      cases hmade with | @cons metadata _ _ _ hmetadata hmade =>
      cases hmade
      rename_i blob
      obtain ⟨hblobName, hblob⟩ := hblob
      obtain ⟨hmetadataName, hmetadata⟩ := hmetadata
      have hpublish := @publish_end os w' [(blob, key.1), (metadata, sidecarName key.1)] ?_ ?_ ?_
      · refine wp_seq hpublish ?_ fun _ _ h => h.elim
        rintro ⟨published, notPublished⟩ w'' ⟨hgives, hraised, hsub, hcomplete⟩
        have hfree : ∀ name ∈ [blobTemporaryName (os.token 0), metadataTemporaryName (os.token 0)],
            name ∉ published.map Made.name := by
          intro name hname hmem
          rcases List.mem_pair.mp (hsub hmem) with rfl | rfl
          · exact hapart.1 hname
          · exact hapart.2 hname
        have hblob' : Holds w''.fs (blobTemporaryName (os.token 0)) blob.identity content :=
          Holds.of_gives hblob hgives (hfree _ (by simp))
        have hmetadata' :
            Holds w''.fs (metadataTemporaryName (os.token 0)) metadata.identity sidecar :=
          Holds.of_gives hmetadata hgives (hfree _ (by simp))
        refine Between.settled ⟨hgrows, hgives, hsub, ?_, htemporaries, hapart, hraised, ?_⟩
        · refine List.forall_mem_cons.mpr ⟨?_, List.forall_mem_cons.mpr ⟨?_, by simp⟩⟩
          · rw [hblobName]
            exact hblob'.ours
          · rw [hmetadataName]
            exact hmetadata'.ours
        · intro hnone
          refine ⟨blob.identity, metadata.identity, ⟨?_, hblob'.2⟩, ?_, hmetadata'.2⟩
          · exact hcomplete hnone (blob, key.1) (by simp)
          · exact hcomplete hnone (metadata, sidecarName key.1) (by simp)
      · have hfirst : Publishable w'.fs (blob, key.1) :=
          ⟨hblobName ▸ hblob.1, by rw [hblob.2], isLocalName_key key⟩
        have hsecond : Publishable w'.fs (metadata, sidecarName key.1) :=
          ⟨hmetadataName ▸ hmetadata.1, by rw [hmetadata.2], isLocalName_sidecarName key⟩
        simpa using And.intro hfirst hsecond
      · simpa using hne.symm
      · have hmem : ∀ made ∈ [blob, metadata], made.name ∉ [key.1, sidecarName key.1] := by
          intro made hmade hmem
          have htouched := htemporaries (List.mem_map_of_mem hmade)
          rcases List.mem_pair.mp hmem with heq | heq
          · exact hapart.1 (heq ▸ htouched)
          · exact hapart.2 (heq ▸ htouched)
        simpa using hmem

/-- A write under a key that is taken, without any failure. -/
def writeTaken : Except Failure Unit × World :=
  writePair (failingCall 100) ⟨true, 0, 1⟩ zeroKey.1 [] (sidecarName zeroKey.1) [] ⟨storedPair, 0, 0⟩

/-- It is refused, and the files that were there are there. -/
theorem taken_key_refused : writeTaken.1 = .error (.storage ⟨.alreadyExists, "blob key already exists"⟩) ∧
    writeTaken.2.fs.file? (.root, zeroKey.1) = some ⟨.regular, []⟩ ∧
    writeTaken.2.fs.file? (.root, sidecarName zeroKey.1) = some ⟨.regular, []⟩ := by
  decide +kernel

end PosixRootAnchor

end Finish

end StockResearch.Infrastructure
