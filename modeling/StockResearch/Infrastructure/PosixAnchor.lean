import StockResearch.Infrastructure.PosixFiles

/-!
# Pairs of files on a POSIX system

`_PosixRootAnchor` writes a blob and its sidecar together and deletes them together, although every
call may fail.  A pair is written to temporary files that are then linked under their names; what is
to go is first renamed into the quarantine, where it is looked at before it is unlinked.

A handler of the source catches a class of exceptions.  Here `failed` says whether a
`BlobStorageError` was raised, and `attempt` stands where the class is `Exception`.
-/

namespace StockResearch.Infrastructure

open PyText Txn Txn.Program

/-! ## Quarantine -/

/-- `_PosixQuarantined` -/
structure Quarantined where
  originalName : Text
  quarantineName : Text
  descriptor : Nat
  identity : Nat

section Quarantine

variable (os : OperatingSystem)

/-- `_posix_restore_quarantine` -/
def restoreQuarantine (quarantineName originalName : Text) : Program Failure World Unit :=
  translate (fun _ => .cleanup)
    (renameNoreplace os (.quarantine, quarantineName) (.root, originalName))

/-- The loop of `_posix_quarantine_expected` over fresh names; a token is a key as it is. -/
def moveAway (name : Text) : Nat → Program Failure World Text
  | 0 => throw .cleanup
  | n + 1 => do
      let token ← newToken os
      match ← attempt (renameNoreplace os (.root, name) (.quarantine, quarantineName token)) with
      | .ok () => return quarantineName token
      | .error .collision => moveAway name n
      | .error e => throw e

/-- The checks of `_posix_quarantine_expected` behind the opened descriptor. -/
def inspect (descriptor expectedIdentity : Nat) : Program Failure World Unit := do
  let information ← fstat os descriptor
  if information.kind ≠ .regular then throw .cleanup
  if information.identity ≠ expectedIdentity then throw .cleanup

/-- `_posix_quarantine_expected` -/
def quarantineExpected (name : Text) (expectedIdentity : Nat) :
    Program Failure World Quarantined := do
  let candidate ← moveAway os name 8
  match ← attempt (openExistingFd os (.quarantine, candidate)) with
  | .ok descriptor =>
      match ← attempt (inspect os descriptor expectedIdentity) with
      | .ok () => return ⟨name, candidate, descriptor, expectedIdentity⟩
      | .error _ =>
          let _ ← failed (closeFd os true)
          let _ ← failed (restoreQuarantine os candidate name)
          throw .cleanup
  | .error _ =>
      let _ ← failed (restoreQuarantine os candidate name)
      throw .cleanup

/-- `_posix_restore_quarantined` -/
def restoreQuarantined (quarantined : Quarantined) : Program Failure World Unit := do
  let closeFailed ← failed (closeFd os true)
  restoreQuarantine os quarantined.quarantineName quarantined.originalName
  if closeFailed then throw .cleanup

/-- `_posix_commit_quarantined` -/
def commitQuarantined (quarantined : Quarantined) : Program Failure World Unit := do
  let unlinkFailed ← failed (unlinkName os (.quarantine, quarantined.quarantineName))
  let closeFailed ← failed (closeFd os true)
  if unlinkFailed || closeFailed then throw .cleanup

/-- `_posix_quarantine_unlink`, which is `_unlink_expected`. -/
def unlinkExpected (name : Text) (expectedIdentity : Nat) : Program Failure World Unit := do
  match ← attempt (quarantineExpected os name expectedIdentity) with
  | .ok quarantined => commitQuarantined os quarantined
  | .error .missing => return ()
  | .error e => throw e

end Quarantine

/-! ## The anchor -/

/-- `_PosixRootAnchor` -/
structure PosixRootAnchor where
  isOpen : Bool
  identity : Nat
  quarantineIdentity : Nat

def isSafePrivateQuarantine (os : OperatingSystem) (information : DirectoryStat) : Bool :=
  information.kind == .directory && information.permissions == 0o700 &&
    information.owner == os.effectiveUid

namespace PosixRootAnchor

variable (os : OperatingSystem) (anchor : PosixRootAnchor)

def assertRoot : Program Failure World Unit := do
  if !anchor.isOpen then throw (.storage (storageError "blob storage is closed"))
  let root ← fstatDirectory os os.root
  if root.identity ≠ anchor.identity then
    throw (.storage (storageError "blob storage root changed"))
  let quarantine ← fstatDirectory os os.quarantine
  if quarantine.identity ≠ anchor.quarantineIdentity || !isSafePrivateQuarantine os quarantine then
    throw (.storage (storageError "private blob quarantine is unsafe"))

/-- `_open_existing`, read-only. -/
def openExisting (name : Text) : Program Failure World Nat := do
  if !isLocalName name then throw (.storage invalidUri)
  let descriptor ← openExistingFd os (.root, name)
  match ← attempt (fstat os descriptor) with
  | .ok information =>
      if information.kind = .regular then return descriptor
      closeFd os false
      throw (.storage invalidUri)
  | .error e =>
      closeFd os false
      throw e

/-! ### Writing -/

/-- A file that the operation has made, with the name it has given to it. -/
structure Made where
  name : Text
  identity : Nat

def createTemporary (name : Text) (data : List UInt8) : Program Failure World Made := do
  if !isLocalName name then throw (.storage invalidUri)
  let descriptor ← openNewFd os (.root, name)
  match ← attempt (fstat os descriptor) with
  | .ok information =>
      if information.kind ≠ .regular then
        let _ ← failed (closeFd os true)
        throw .cleanup
      match ← attempt (writeAll os descriptor data) with
      | .ok () => return ⟨name, information.identity⟩
      | .error e =>
          let unlinkFailed ← failed (unlinkExpected os name information.identity)
          let closeFailed ← failed (closeFd os true)
          if unlinkFailed || closeFailed then throw .cleanup
          throw e
  | .error _ =>
      let _ ← failed (closeFd os true)
      throw .cleanup

/-- The temporary files, as far as they were made; and what was raised. -/
def createTemporaries : List (Text × List UInt8) →
    Program Failure World (List Made × Option Failure)
  | [] => return ([], none)
  | (name, data) :: rest => do
      match ← attempt (createTemporary os name data) with
      | .ok made =>
          let (others, raised) ← createTemporaries rest
          return (made :: others, raised)
      | .error e => return ([], some e)

/-- What follows the link in the loop of `write_pair`: the new name is opened and looked at. -/
def inspectPublished (name : Text) (identity : Nat) : Program Failure World Unit := do
  match ← attempt (openExisting os name) with
  | .ok descriptor =>
      match ← attempt (fstat os descriptor) with
      | .ok information =>
          closeFd os false
          if information.identity ≠ identity then throw .cleanup
      | .error e =>
          closeFd os false
          throw e
  | .error e =>
      if ← failed (unlinkExpected os name identity) then throw .cleanup
      if e.isStorageError then throw e else throw operationFailed

/-- The names given to the temporary files, as far as they were given; and what was raised. -/
def publish : List (Made × Text) → Program Failure World (List Made × Option Failure)
  | [] => return ([], none)
  | (made, destination) :: rest => do
      match ← attempt (linkNames os (.root, made.name) (.root, destination)) with
      | .ok () =>
          match ← attempt (inspectPublished os destination made.identity) with
          | .ok () =>
              let (others, raised) ← publish rest
              return (⟨destination, made.identity⟩ :: others, raised)
          | .error e => return ([⟨destination, made.identity⟩], some e)
      | .error e => return ([], some e)

/-- The cleanup of the temporary files; whether it failed. -/
def removeTemporaries : List Made → Program Failure World Bool
  | [] => return false
  | made :: rest => do
      let unlinked ← attempt (failed (unlinkExpected os made.name made.identity))
      -- `finally`: the descriptor is closed whatever was raised.
      let closeFailed ← failed (closeFd os true)
      let unlinkFailed ← call unlinked
      let restFailed ← removeTemporaries rest
      return unlinkFailed || closeFailed || restFailed

/-- The cleanup of the names that were given; whether it failed. -/
def removePublished : List Made → Program Failure World Bool
  | [] => return false
  | made :: rest => do
      let unlinkFailed ← failed (unlinkExpected os made.name made.identity)
      let restFailed ← removePublished rest
      return unlinkFailed || restFailed

/-- The exception that is kept for the end; `_EntryMissing` does not come here. -/
def primaryError : Failure → Failure
  | .collision => .storage ⟨.alreadyExists, "blob key already exists"⟩
  | e => e

/-- The `finally` of `write_pair`, and what is raised behind it. -/
def finishPair (temporary published : List Made) (raised : Option Failure) :
    Program Failure World Unit := do
  let temporaryFailed ← removeTemporaries os temporary
  let publishedFailed ← if raised.isSome || temporaryFailed then
      removePublished os published.reverse
    else pure false
  if temporaryFailed || publishedFailed then throw .cleanup else
    match raised with
    | none => return ()
    | some e => throw (primaryError e)

def writePair (contentName : Text) (content : List UInt8) (sidecarName : Text)
    (sidecar : List UInt8) : Program Failure World Unit := do
  assertRoot os anchor
  let token ← newToken os
  let (temporary, notMade) ← createTemporaries os
    [(blobTemporaryName token, content), (metadataTemporaryName token, sidecar)]
  match notMade with
  | none =>
      let (published, notPublished) ← publish os (temporary.zip [contentName, sidecarName])
      finishPair os temporary published notPublished
  | some e => finishPair os temporary [] (some e)

/-! ### Deleting -/

/-- An entry that is about to be deleted. -/
structure Opened where
  name : Text
  identity : Nat

/-- The body of the first loop of `delete_pair`; nothing when the entry is missing. -/
def openEntry (name : Text) : Program Failure World (Option Opened) := do
  match ← attempt (openExisting os name) with
  | .ok descriptor =>
      match ← attempt (fstat os descriptor) with
      | .ok information => return some ⟨name, information.identity⟩
      | .error e =>
          closeFd os false
          throw e
  | .error .missing => return none
  | .error e => throw e

/-- The descriptors are closed, up to the first that fails. -/
def closeEntries : List Opened → Program Failure World Unit
  | [] => return ()
  | _ :: entries => do
      closeFd os false
      closeEntries entries

/-- The first loop of `delete_pair`. -/
def openEntries (entries : List Opened) : List Text → Program Failure World (List Opened)
  | [] => return entries
  | name :: names => do
      match ← attempt (openEntry os name) with
      | .ok opened => openEntries (entries ++ opened.toList) names
      | .error e =>
          closeEntries os entries
          throw e

/-- The loops that restore what was quarantined, whatever fails. -/
def restoreAll : List Quarantined → Program Failure World Unit
  | [] => return ()
  | quarantined :: rest => do
      let _ ← failed (restoreQuarantined os quarantined)
      restoreAll rest

/-- The second loop of `delete_pair`; nothing when the quarantine has failed. -/
def quarantineEntries (quarantined : List Quarantined) :
    List Opened → Program Failure World (Option (List Quarantined))
  | [] => return some quarantined
  | entry :: entries => do
      match ← attempt (quarantineExpected os entry.name entry.identity) with
      | .ok moved => quarantineEntries (quarantined ++ [moved]) entries
      | .error .missing => quarantineEntries quarantined entries
      | .error e =>
          if e.isStorageError then
            restoreAll os quarantined.reverse
            return none
          else throw e

/-- The third loop of `delete_pair`; whether it failed. -/
def commitEntries : List Quarantined → Program Failure World Bool
  | [] => return false
  | quarantined :: rest => do
      if ← failed (commitQuarantined os quarantined) then
        restoreAll os rest.reverse
        return true
      else commitEntries rest

/-- All descriptors are closed; whether one failed. -/
def closeAll : List Opened → Program Failure World Bool
  | [] => return false
  | _ :: entries => do
      let closeFailed ← failed (closeFd os true)
      let restFailed ← closeAll entries
      return closeFailed || restFailed

/-- What `delete_pair` does with the entries that it has opened. -/
def deleteEntries (entries : List Opened) : Program Failure World Unit := do
  match ← quarantineEntries os [] entries with
  | none =>
      let _ ← closeAll os entries
      throw .cleanup
  | some quarantined =>
      let commitFailed ← commitEntries os quarantined
      let closeFailed ← closeAll os entries
      if commitFailed || closeFailed then throw .cleanup

def deletePair (contentName sidecarName : Text) : Program Failure World Unit := do
  assertRoot os anchor
  let entries ← openEntries os [] [contentName, sidecarName]
  if entries.isEmpty then throw .missing else deleteEntries os entries

end PosixRootAnchor

end StockResearch.Infrastructure
