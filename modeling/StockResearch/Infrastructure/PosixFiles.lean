import StockResearch.Core.Program
import StockResearch.Infrastructure.BlobStorage
import Mathlib.Logic.Function.Basic

/-!
# Files on a POSIX system

The calls that the local storage makes, and the helper functions around them.

**The file system.**  Names in the root of the storage and in its private quarantine stand for
numbered files.  `FileSystem.numbered`: a name stands for a file that has been made.

**Failures.**  `OperatingSystem.fault` says which calls fail: the first call has the number zero, and
every call counts.  A call that fails does nothing.  ENOENT and EEXIST are no failures of this kind,
they are answers, and given when they are true.  Written bytes may be taken in parts, and the tokens
of new names are any.

**Descriptors.**  A descriptor is the number of the file that it is open on.
-/

namespace StockResearch.Infrastructure

open PyText Txn Txn.Program

/-! ## Names -/

/-- `uuid.uuid4().hex`, and the key of a blob. -/
abbrev Key : Type := { key : Text // isHex 32 key = true }

/-- `f".{token}.blob.tmp"` -/
def blobTemporaryName (token : Key) : Text := '.' :: (token.1 ++ ".blob.tmp".toList)

/-- `f".{token}.metadata.tmp"` -/
def metadataTemporaryName (token : Key) : Text := '.' :: (token.1 ++ ".metadata.tmp".toList)

/-- `f".{token}.quarantine"` -/
def quarantineName (token : Key) : Text := '.' :: (token.1 ++ ".quarantine".toList)

/-- What stands before and behind the digits in the pattern of `_validate_local_name`. -/
def localNameForms : List (Text × Text) :=
  [([], []), ([], sidecarSuffix), (['.'], ".blob.tmp".toList), (['.'], ".metadata.tmp".toList),
    (['.'], ".quarantine".toList)]

/-- `re.fullmatch` in `_validate_local_name` -/
def isLocalName (name : Text) : Bool :=
  localNameForms.any fun form =>
    let digits := (name.drop form.1.length).take 32
    isHex 32 digits && name == form.1 ++ digits ++ form.2

/-! ## The file system -/

inductive FileKind where
  | regular | directory | symlink | other
deriving DecidableEq

structure File where
  kind : FileKind
  bytes : List UInt8
deriving DecidableEq

/-- The directories that are held open. -/
inductive Place where
  | root | quarantine
deriving DecidableEq

abbrev Entry : Type := Place × Text

structure FileSystem where
  names : Entry → Option Nat
  files : Nat → File
  next : Nat
  numbered : ∀ entry i, names entry = some i → i < next

namespace FileSystem

variable (fs : FileSystem)

/-- The file under a name. -/
def file? (entry : Entry) : Option File := (fs.names entry).map fs.files

/-- A new name for a file. -/
def link (source destination : Entry) : FileSystem where
  names entry := if entry = destination then fs.names source else fs.names entry
  files := fs.files
  next := fs.next
  numbered entry i h := by
    split at h
    · exact fs.numbered source i h
    · exact fs.numbered entry i h

/-- A name less. -/
def unlink (gone : Entry) : FileSystem where
  names entry := if entry = gone then none else fs.names entry
  files := fs.files
  next := fs.next
  numbered entry i h := by
    split at h
    · cases h
    · exact fs.numbered entry i h

/-- Another name for a file. -/
def rename (source destination : Entry) : FileSystem := (fs.link source destination).unlink source

/-- A new file without bytes. -/
def create (entry : Entry) : FileSystem where
  names other := if other = entry then some fs.next else fs.names other
  files := Function.update fs.files fs.next ⟨.regular, []⟩
  next := fs.next + 1
  numbered other i h := by
    split at h
    · cases h
      exact Nat.lt_succ_self _
    · exact Nat.lt_succ_of_lt (fs.numbered other i h)

/-- More bytes in a file. -/
def append (i : Nat) (bytes : List UInt8) : FileSystem where
  names := fs.names
  files := Function.update fs.files i { fs.files i with bytes := (fs.files i).bytes ++ bytes }
  next := fs.next
  numbered := fs.numbered

end FileSystem

/-! ## Calls -/

inductive Errno where
  | enoent | eexist | eloop | enosys | einval | eopnotsupp
  | other (code : Nat)
deriving DecidableEq

/-- What `fstat` says. -/
structure Stat where
  identity : Nat
  kind : FileKind

/-- What it says of a directory. -/
structure DirectoryStat extends Stat where
  permissions : Nat
  owner : Nat

/-- Everything about the system that the storage does not decide. -/
structure OperatingSystem where
  fault : Nat → Option Errno
  truthful : ∀ call, fault call ≠ some .enoent ∧ fault call ≠ some .eexist
  /-- The most that the given call writes. -/
  written : Nat → Nat
  token : Nat → Key
  root : DirectoryStat
  quarantine : DirectoryStat
  effectiveUid : Nat

/-- The file system, and how many calls were made and tokens drawn. -/
structure World where
  fs : FileSystem
  calls : Nat
  tokens : Nat

/-- What the functions raise. -/
inductive Failure where
  /-- `_EntryMissing` -/
  | missing
  /-- `_EntryCollision` -/
  | collision
  /-- `BlobCleanupError("blob cleanup failed")` -/
  | cleanup
  /-- Any other `BlobStorageError`. -/
  | storage (error : BlobError)
deriving DecidableEq

/-- `isinstance(error, BlobStorageError)` -/
def Failure.isStorageError : Failure → Bool
  | .missing | .collision => false
  | .cleanup | .storage _ => true

def operationFailed : Failure := .storage (storageError "blob storage operation failed")

def unavailable : Failure := .storage (storageError "required POSIX rename capability is unavailable")

section Calls

variable (os : OperatingSystem)

def systemCall {α : Type} (effect : FileSystem → Except Errno α × FileSystem) :
    Program Errno World α := fun w =>
  match os.fault w.calls with
  | some e => (.error e, { w with calls := w.calls + 1 })
  | none => ((effect w.fs).1, { w with fs := (effect w.fs).2, calls := w.calls + 1 })

/-- `uuid.uuid4().hex` -/
def newToken : Program Failure World Key := fun w =>
  (.ok (os.token w.tokens), { w with tokens := w.tokens + 1 })

/-- `_posix_open_existing_fd`, read-only and without following symbolic links. -/
def openExistingFd (entry : Entry) : Program Failure World Nat :=
  translate
    (fun
      | .enoent => .missing
      | .eloop => .storage invalidUri
      | _ => operationFailed)
    (systemCall os fun fs =>
      match fs.names entry with
      | none => (.error .enoent, fs)
      | some i => (if (fs.files i).kind = .symlink then .error .eloop else .ok i, fs))

/-- `_posix_open_new_fd` -/
def openNewFd (entry : Entry) : Program Failure World Nat :=
  translate
    (fun
      | .eexist => .collision
      | _ => operationFailed)
    (systemCall os fun fs =>
      if fs.names entry = none then (.ok fs.next, fs.create entry) else (.error .eexist, fs))

/-- `_posix_fstat` of a file. -/
def fstat (descriptor : Nat) : Program Failure World Stat :=
  translate (fun _ => operationFailed)
    (systemCall os fun fs => (.ok ⟨descriptor, (fs.files descriptor).kind⟩, fs))

/-- `_posix_fstat` of a directory that is held open. -/
def fstatDirectory (directory : DirectoryStat) : Program Failure World DirectoryStat :=
  translate (fun _ => operationFailed) (systemCall os fun fs => (.ok directory, fs))

/-- `_posix_close_fd` -/
def closeFd (cleanup : Bool) : Program Failure World Unit :=
  translate (fun _ => if cleanup then .cleanup else operationFailed)
    (systemCall os fun fs => (.ok (), fs))

/-- `_posix_link_names` -/
def linkNames (source destination : Entry) : Program Failure World Unit :=
  translate
    (fun
      | .eexist => .collision
      | _ => operationFailed)
    (systemCall os fun fs =>
      if fs.names source = none then (.error .enoent, fs)
      else if fs.names destination = none then (.ok (), fs.link source destination)
      else (.error .eexist, fs))

/-- `_posix_rename_noreplace` -/
def renameNoreplace (source destination : Entry) : Program Failure World Unit :=
  translate
    (fun
      | .enoent => .missing
      | .eexist => .collision
      | .enosys | .einval | .eopnotsupp => unavailable
      | _ => .cleanup)
    (systemCall os fun fs =>
      if fs.names source = none then (.error .enoent, fs)
      else if fs.names destination = none then (.ok (), fs.rename source destination)
      else (.error .eexist, fs))

/-- `_posix_unlink_name` -/
def unlinkName (entry : Entry) : Program Failure World Unit :=
  translate
    (fun
      | .enoent => .missing
      | _ => .cleanup)
    (systemCall os fun fs =>
      if fs.names entry = none then (.error .enoent, fs) else (.ok (), fs.unlink entry))

/-- `os.write`; how many bytes it has written. -/
def osWrite (descriptor : Nat) (data : List UInt8) : Program Failure World Nat := fun w =>
  translate (fun _ => operationFailed)
    (systemCall os fun fs =>
      (.ok (min (os.written w.calls) data.length),
        fs.append descriptor (data.take (os.written w.calls)))) w

/-- `_posix_write_all` -/
def writeAll (descriptor : Nat) (data : List UInt8) : Program Failure World Unit :=
  if data = [] then
    -- `os.fsync`
    translate (fun _ => operationFailed) (systemCall os fun fs => (.ok (), fs))
  else do
    let count ← osWrite os descriptor data
    if count = 0 then throw operationFailed else writeAll descriptor (data.drop count)
termination_by data.length
decreasing_by
  rename_i hdata hcount
  have hlength := List.length_pos_of_ne_nil hdata
  rw [List.length_drop]
  omega

/-- `try: x except BlobStorageError: failed = True` -/
def failed (x : Program Failure World Unit) : Program Failure World Bool := do
  match ← attempt x with
  | .ok () => return false
  | .error e => if e.isStorageError then return true else throw e

end Calls

end StockResearch.Infrastructure
