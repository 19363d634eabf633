import Guiying.Export.Encoder

/-!
# The export target

The private temporary file and the hard link that publishes it. The answers of
the calls on them are the fields of `Calls`, one for each place in the source.
A file belongs to the run only once `createTemp` has returned it.
-/

namespace Guiying.Export

open Guiying.Foundation Guiying.Foundation.ByteString

def tempNameAttempts : Nat := 8

def tempNamePrefix : List UInt8 := asciiBytes ".guiying-export-"

def tempName (entropy : List UInt8) : FileName :=
  tempNamePrefix ++ hex entropy ++ asciiBytes ".tmp"

inductive CreateAnswer where
  | created
  | existing
  | failed
  deriving DecidableEq, Repr

/-- One round of `create_temp`: the random bytes and the answer of `openat`. -/
structure Attempt where
  entropy : Option (List UInt8)
  create : CreateAnswer
  deriving DecidableEq, Repr

/-- The two `stat` calls of `verify_temp_identity`. -/
structure VerifyAnswers where
  handle : StatAnswer
  name : StatAnswer
  deriving DecidableEq, Repr

/-- The answers of every call of one export, and the calls that arrive from outside. -/
structure Calls where
  /-- The deadline is representable. -/
  deadlineFits : Bool
  /-- The clock has reached the deadline at a look. -/
  expired : Nat → Bool
  /-- The cancel calls that come before a look. -/
  cancels : Nat → Nat
  effectiveUid : Nat
  parentAtCreate : Option Stat
  targetAtCreate : StatAnswer
  attempt : Nat → Attempt
  fchmod : Bool
  verifyAtCreate : VerifyAnswers
  encoderFlush : Bool
  fileFlush : Bool
  fileSync : Bool
  verifyBeforeCommit : VerifyAnswers
  parentAtCommit : Option Stat
  targetAtCommit : StatAnswer
  verifyAtCommit : VerifyAnswers
  linkat : Bool
  linkedAtCommit : StatAnswer
  tempAtRemove : StatAnswer
  directorySync : Bool
  parentAtFinish : Option Stat
  linkedAtFinish : StatAnswer
  tempAtDrop : StatAnswer

/-- The open parent directory; equal handles are the same `Arc`. -/
structure DirectoryHandle where
  handle : Nat
  identity : FileIdentity
  deriving DecidableEq, Repr

structure BoundExportTarget where
  parent : DirectoryHandle
  fileName : FileName
  displayFileName : List UInt8
  deriving DecidableEq, Repr

structure OwnedTemp where
  file : Option Inode
  parent : DirectoryHandle
  name : FileName
  identity : FileIdentity
  deriving DecidableEq, Repr

/-! ## Calls on the directory -/

/-- What a `stat` of `name` finds when the call itself succeeds with `attributes`. -/
def Directory.statOf (directory : Directory) (attributes : Attributes) (name : FileName) :
    Option Stat :=
  (directory.entries name).map fun inode => ⟨attributes, inode⟩

/-- A failed `stat` matches nothing. -/
def Directory.entryMatchesIdentity (directory : Directory) (answer : StatAnswer)
    (name : FileName) (identity : FileIdentity) : Bool :=
  match answer.bind fun attributes => directory.statOf attributes name with
  | some stat => decide (stat.attributes.kind = .regular ∧ stat.identity = identity)
  | none => false

def fstat (answer : StatAnswer) (file : Inode) : ExportM Stat :=
  Program.orFail .unsafeTarget (answer.map fun attributes => ⟨attributes, file⟩)

namespace DirectoryHandle

def revalidate (parent : DirectoryHandle) (answer : Option Stat) : ExportM PUnit := do
  let stat ← Program.orFail .unsafeTarget answer
  Program.ensure (stat.attributes.kind = .directory && stat.identity = parent.identity)
    .unsafeTarget

def statEntry (answer : StatAnswer) (name : FileName) : ExportM (Option Stat) := do
  let world ← Program.current
  let attributes ← Program.orFail .unsafeTarget answer
  pure (world.directory.statOf attributes name)

def ensureAbsent (answer : StatAnswer) (name : FileName) : ExportM PUnit := do
  let found ← statEntry answer name
  Program.ensure found.isNone .targetExists

/-- The file of the new entry, or why there is none. -/
def createNewPrivate (answer : CreateAnswer) (name : FileName) :
    ExportM (Except CreateAnswer Inode) := fun world =>
  match answer, world.directory.entries name with
  | .created, none =>
      (.ok (.ok world.directory.next), world.setDirectory (world.directory.create name))
  | .created, some _ => (.ok (.error .existing), world)
  | refused, _ => (.ok (.error refused), world)

/-- `linkat` never replaces an entry. -/
def linkNoReplace (answer : Bool) (source target : FileName) : ExportM PUnit := fun world =>
  if (world.directory.entries target).isSome then (.error .targetExists, world)
  else if answer && (world.directory.entries source).isSome then
    (.ok ⟨⟩, { world with
      directory := world.directory.link source target
      history := world.history.logLink })
  else (.error .publishFailed, world)

end DirectoryHandle

/-! ## The temporary file -/

def verifyPrivateTempStat (effectiveUid : Nat) (stat : Stat) (parentIdentity : FileIdentity) :
    Bool :=
  stat.attributes.device = parentIdentity.device && stat.attributes.links = 1 &&
    stat.attributes.uid = effectiveUid && stat.attributes.permissions = 0o600

def verifyTempIdentity (effectiveUid : Nat) (answers : VerifyAnswers) (file : Inode)
    (parent : DirectoryHandle) (name : FileName) : ExportM FileIdentity := do
  let handleStat ← fstat answers.handle file
  let found ← DirectoryHandle.statEntry answers.name name
  let nameStat ← Program.orFail .unsafeTarget found
  Program.ensure (handleStat.attributes.kind = .regular && nameStat.attributes.kind = .regular)
    .unsafeTarget
  Program.ensure (handleStat.identity = nameStat.identity) .unsafeTarget
  Program.ensure (verifyPrivateTempStat effectiveUid handleStat parent.identity) .unsafeTarget
  pure handleStat.identity

namespace OwnedTemp

def revalidate (temp : OwnedTemp) (effectiveUid : Nat) (answers : VerifyAnswers)
    (target : BoundExportTarget) : ExportM PUnit := do
  Program.ensure (temp.parent.handle = target.parent.handle) .unsafeTarget
  let file ← Program.orFail .unsafeTarget temp.file
  let identity ← verifyTempIdentity effectiveUid answers file temp.parent temp.name
  Program.ensure (identity = temp.identity) .unsafeTarget

def flushAndSync (temp : OwnedTemp) (calls : Calls) : ExportM PUnit := do
  let _ ← Program.orFail .writeFailed temp.file
  Program.ensure calls.fileFlush .writeFailed
  Program.ensure calls.fileSync .writeFailed

/-- Unlinking an entry that the run created succeeds. -/
def removeOwnedName (temp : OwnedTemp) (answer : StatAnswer) : ExportM PUnit := do
  let world ← Program.current
  Program.ensure (world.directory.entryMatchesIdentity answer temp.name temp.identity)
    .unsafeTarget
  Program.update fun world => world.setDirectory (world.directory.unlink temp.name)

/-- `Drop`: the entry goes only when its `stat` still shows the file of the run. -/
def drop (temp : OwnedTemp) (answer : StatAnswer) (world : World) : World :=
  if world.directory.entryMatchesIdentity answer temp.name temp.identity then
    world.setDirectory (world.directory.unlink temp.name)
  else world

end OwnedTemp

/-! ## Publication -/

inductive PublicationOutcome where
  | committed
  | committedWithWarning (code : String)
  | commitUncertain (code : String)
  deriving DecidableEq, Repr

namespace PublicationOutcome

def status : PublicationOutcome → String
  | .committed => "committed"
  | .committedWithWarning _ => "committed_with_warning"
  | .commitUncertain _ => "commit_uncertain"

def warningCode : PublicationOutcome → Option String
  | .committed => none
  | .committedWithWarning code => some code
  | .commitUncertain code => some code

end PublicationOutcome

def publicationOutcome (linkIdentityVerified targetRevalidated cleanupFailed
    directorySyncFailed : Bool) : PublicationOutcome :=
  if !targetRevalidated then .commitUncertain "TARGET_REVALIDATION_UNCERTAIN"
  else if !linkIdentityVerified then .commitUncertain "TARGET_IDENTITY_UNCERTAIN"
  else
    match cleanupFailed, directorySyncFailed with
    | false, false => .committed
    | true, false => .committedWithWarning "TEMP_CLEANUP_DEFERRED"
    | false, true => .committedWithWarning "DIRECTORY_SYNC_UNAVAILABLE"
    | true, true => .committedWithWarning "TEMP_CLEANUP_AND_DIRECTORY_SYNC_UNAVAILABLE"

namespace BoundExportTarget

/-- The rounds of `create_temp` that are still left. -/
def tryTempNames (calls : Calls) (target : BoundExportTarget) : List Attempt → ExportM OwnedTemp
  | [] => Program.fail .randomUnavailable
  | attempt :: rest => do
      let entropy ← Program.orFail .randomUnavailable attempt.entropy
      let name := tempName entropy
      match ← DirectoryHandle.createNewPrivate attempt.create name with
      | .error .existing => tryTempNames calls target rest
      | .error _ => Program.fail .openFailed
      | .ok file =>
          -- the new entry has no owner yet: an error from here on leaves it behind
          Program.ensure calls.fchmod .unsafeTarget
          let identity ← verifyTempIdentity calls.effectiveUid calls.verifyAtCreate file
            target.parent name
          pure ⟨some file, target.parent, name, identity⟩

def createTemp (calls : Calls) (target : BoundExportTarget) : ExportM OwnedTemp := do
  target.parent.revalidate calls.parentAtCreate
  DirectoryHandle.ensureAbsent calls.targetAtCreate target.fileName
  tryTempNames calls target ((List.range tempNameAttempts).map calls.attempt)

/-- The value is `identity_verified` of the source's `LinkCommit`. -/
def commitLink (calls : Calls) (target : BoundExportTarget) (temp : OwnedTemp) :
    ExportM Bool := do
  target.parent.revalidate calls.parentAtCommit
  DirectoryHandle.ensureAbsent calls.targetAtCommit target.fileName
  temp.revalidate calls.effectiveUid calls.verifyAtCommit target
  DirectoryHandle.linkNoReplace calls.linkat temp.name target.fileName
  let world ← Program.current
  pure (world.directory.entryMatchesIdentity calls.linkedAtCommit target.fileName temp.identity)

def finishCommitted (calls : Calls) (target : BoundExportTarget) (temp : OwnedTemp)
    (identityVerified : Bool) : ExportM PublicationOutcome := do
  let removed ← Program.attempt (temp.removeOwnedName calls.tempAtRemove)
  let revalidated ← Program.attempt (target.parent.revalidate calls.parentAtFinish)
  let world ← Program.current
  let targetRevalidated := revalidated.isOk &&
    world.directory.entryMatchesIdentity calls.linkedAtFinish target.fileName temp.identity
  pure (publicationOutcome identityVerified targetRevalidated (!removed.isOk)
    (!calls.directorySync))

end BoundExportTarget

end Guiying.Export
