import Guiying.Export.PublishRun

/-!
# What an export leaves behind

An export that fails leaves the directory as it was, except for a temporary
entry: one that `create_temp` makes and then refuses has no owner to remove it,
and one that the run owns stays when the last `stat` no longer recognises it.
-/

namespace Guiying.Export

open Guiying.Foundation

/-- The artifact says that the temporary entry may still be there. -/
def ExportArtifact.ReportsTemp (artifact : ExportArtifact) : Prop :=
  artifact.warningCode = some "TEMP_CLEANUP_DEFERRED" ∨
    artifact.warningCode = some "TEMP_CLEANUP_AND_DIRECTORY_SYNC_UNAVAILABLE"

/-- The entry that the rounds of `create_temp` make: the first free name the kernel takes. -/
def firstFree (entries : FileName → Option Inode) : List Attempt → Option FileName
  | [] => none
  | attempt :: rest =>
      match attempt.entropy with
      | none => none
      | some entropy =>
          match attempt.create, entries (tempName entropy) with
          | .created, none => some (tempName entropy)
          | .created, some _ => firstFree entries rest
          | .existing, _ => firstFree entries rest
          | .failed, _ => none

def DirectoryHandle.recognises (parent : DirectoryHandle) (answer : Option Stat) : Bool :=
  answer.any fun stat => stat.attributes.kind = .directory && stat.identity = parent.identity

/-- Both `stat` calls show one private regular file on the device of the parent. -/
def verifiesTemp (effectiveUid : Nat) (handle name : Attributes) (file : Inode)
    (parent : DirectoryHandle) : Bool :=
  (handle.kind = .regular && name.kind = .regular) && handle.device = name.device &&
    verifyPrivateTempStat effectiveUid ⟨handle, file⟩ parent.identity

/-- Both `stat` calls of a verification succeed and show the private file. -/
def verifiesAnswers (effectiveUid : Nat) (answers : VerifyAnswers) (file : Inode)
    (parent : DirectoryHandle) : Bool :=
  match answers.handle, answers.name with
  | some handle, some name => verifiesTemp effectiveUid handle name file parent
  | _, _ => false

/-- The new entry passes `fchmod` and both `stat` calls of the verification. -/
def acceptsTemp (calls : Calls) (parent : DirectoryHandle) (file : Inode) : Bool :=
  calls.fchmod && verifiesAnswers calls.effectiveUid calls.verifyAtCreate file parent

/-- A `stat` of the temporary entry shows the regular file of the run. -/
def recognisesTemp (answer : StatAnswer) (parent : DirectoryHandle) : Bool :=
  answer.any fun attributes =>
    attributes.kind = .regular && attributes.device = parent.identity.device

def OwnedTemp.created (parent : DirectoryHandle) (name : FileName) (file : Inode) : OwnedTemp :=
  ⟨some file, parent, name, ⟨parent.identity.device, file⟩⟩

namespace BoundExportTarget

/-- The name of the temporary entry that `create_temp` makes in `directory`, if it makes one. -/
def createsTemp (calls : Calls) (target : BoundExportTarget) (directory : Directory) :
    Option FileName :=
  if target.parent.recognises calls.parentAtCreate && calls.targetAtCreate.isSome &&
      (directory.entries target.fileName).isNone then
    firstFree directory.entries ((List.range tempNameAttempts).map calls.attempt)
  else none

theorem device_of_verifiesTemp {effectiveUid : Nat} {handle name : Attributes} {file : Inode}
    {parent : DirectoryHandle}
    (verified : verifiesTemp effectiveUid handle name file parent = true) :
    handle.device = parent.identity.device := by
  unfold verifiesTemp verifyPrivateTempStat at verified
  simp only [Bool.and_eq_true, decide_eq_true_eq] at verified
  exact verified.2.1.1.1

theorem verifyTempIdentity_attributes {world : World} {name : FileName} {file : Inode}
    (located : world.directory.entries name = some file) (effectiveUid : Nat)
    (handle nameAttributes : Attributes) (parent : DirectoryHandle) :
    verifyTempIdentity effectiveUid ⟨some handle, some nameAttributes⟩ file parent name world =
      if verifiesTemp effectiveUid handle nameAttributes file parent then
        (.ok ⟨handle.device, file⟩, world)
      else (.error .unsafeTarget, world) := by
  have found : DirectoryHandle.statEntry (some nameAttributes) name world =
      (.ok (some ⟨nameAttributes, file⟩), world) := by
    change (Except.ok (world.directory.statOf nameAttributes name), world) = _
    rw [Directory.statOf, located]
    rfl
  have same : decide ((Stat.mk handle file).identity = (Stat.mk nameAttributes file).identity) =
      decide (handle.device = nameAttributes.device) := by
    simp [Stat.identity]
  unfold verifyTempIdentity verifiesTemp
  rw [fstat, Option.map_some, Program.orFail_some, Program.ret_bind, Program.bind_run, found]
  dsimp only
  rw [Program.orFail_some, Program.ret_bind, same]
  cases handle.kind = .regular && nameAttributes.kind = .regular with
  | false => rfl
  | true =>
      cases decide (handle.device = nameAttributes.device) with
      | false => rfl
      | true =>
          cases verifyPrivateTempStat effectiveUid ⟨handle, file⟩ parent.identity with
          | false => rfl
          | true => rfl

theorem verifyTempIdentity_run {world : World} {name : FileName} {file : Inode}
    (located : world.directory.entries name = some file) (effectiveUid : Nat)
    (answers : VerifyAnswers) (parent : DirectoryHandle) :
    verifyTempIdentity effectiveUid answers file parent name world =
      if verifiesAnswers effectiveUid answers file parent then
        (.ok ⟨parent.identity.device, file⟩, world)
      else (.error .unsafeTarget, world) := by
  obtain ⟨handle, nameAttributes⟩ := answers
  cases handle with
  | none => rfl
  | some handle =>
      cases nameAttributes with
      | none => rfl
      | some nameAttributes =>
          rw [verifyTempIdentity_attributes located]
          unfold verifiesAnswers
          dsimp only
          by_cases verified : verifiesTemp effectiveUid handle nameAttributes file parent = true
          · rw [if_pos verified, if_pos verified, device_of_verifiesTemp verified]
          · rw [if_neg verified, if_neg verified]

/-- What `create_temp` does with a new entry. -/
theorem verifyTempIdentity_created {calls : Calls} {target : BoundExportTarget} {world : World}
    {name : FileName} {file : Inode} (located : world.directory.entries name = some file) :
    (do
      Program.ensure calls.fchmod .unsafeTarget
      let identity ← verifyTempIdentity calls.effectiveUid calls.verifyAtCreate file
        target.parent name
      pure ⟨some file, target.parent, name, identity⟩ : ExportM OwnedTemp) world =
      (if acceptsTemp calls target.parent file then
        (.ok (.created target.parent name file), world)
      else (.error .unsafeTarget, world)) := by
  unfold acceptsTemp
  cases calls.fchmod with
  | false => rfl
  | true =>
      rw [Program.ensure_true, Program.ret_bind, Program.bind_run, Bool.true_and,
        verifyTempIdentity_run located]
      cases verifiesAnswers calls.effectiveUid calls.verifyAtCreate file target.parent with
      | true => rfl
      | false => rfl

theorem tryTempNames_run {calls : Calls} {target : BoundExportTarget} (attempts : List Attempt)
    (world : World) :
    match firstFree world.directory.entries attempts with
    | none => ∃ error, tryTempNames calls target attempts world = (.error error, world)
    | some name => world.directory.entries name = none ∧
        tryTempNames calls target attempts world =
          if acceptsTemp calls target.parent world.directory.next then
            (.ok (.created target.parent name world.directory.next),
              world.setDirectory (world.directory.create name))
          else (.error .unsafeTarget, world.setDirectory (world.directory.create name)) := by
  induction attempts with
  | nil => exact ⟨_, rfl⟩
  | cons attempt rest ih =>
      obtain ⟨entropy, answer⟩ := attempt
      unfold firstFree tryTempNames
      cases entropy with
      | none => exact ⟨_, rfl⟩
      | some entropy =>
          dsimp only
          rw [Program.orFail_some, Program.ret_bind, Program.bind_run]
          unfold DirectoryHandle.createNewPrivate
          cases answer with
          | failed => exact ⟨_, rfl⟩
          | existing => exact ih
          | created =>
              cases free : world.directory.entries (tempName entropy) with
              | some inode => exact ih
              | none =>
                  refine ⟨free, ?_⟩
                  exact verifyTempIdentity_created (Directory.create_entries_self _ _)

theorem ensureAbsent_run (attributes : Attributes) (name : FileName) (world : World) :
    DirectoryHandle.ensureAbsent (some attributes) name world =
      if (world.directory.entries name).isNone then (.ok ⟨⟩, world)
      else (.error .targetExists, world) := by
  have found : DirectoryHandle.statEntry (some attributes) name world =
      (.ok (world.directory.statOf attributes name), world) := rfl
  unfold DirectoryHandle.ensureAbsent
  rw [Program.bind_run, found, Directory.statOf]
  cases world.directory.entries name with
  | none => rfl
  | some inode => rfl

theorem createTemp_run (calls : Calls) (target : BoundExportTarget) (world : World) :
    match target.createsTemp calls world.directory with
    | none => ∃ error, target.createTemp calls world = (.error error, world)
    | some name => world.directory.entries name = none ∧
        target.createTemp calls world =
          if acceptsTemp calls target.parent world.directory.next then
            (.ok (.created target.parent name world.directory.next),
              world.setDirectory (world.directory.create name))
          else (.error .unsafeTarget, world.setDirectory (world.directory.create name)) := by
  unfold createsTemp createTemp DirectoryHandle.revalidate DirectoryHandle.recognises
  cases calls.parentAtCreate with
  | none => exact ⟨_, rfl⟩
  | some stat =>
      rw [Program.orFail_some, Program.ret_bind, Option.any_some]
      cases stat.attributes.kind = .directory && stat.identity = target.parent.identity with
      | false => exact ⟨_, rfl⟩
      | true =>
          rw [Program.ensure_true, Program.ret_bind, Program.bind_run]
          cases calls.targetAtCreate with
          | none => exact ⟨_, rfl⟩
          | some attributes =>
              rw [ensureAbsent_run, Option.isSome_some]
              cases free : world.directory.entries target.fileName with
              | some inode => exact ⟨_, rfl⟩
              | none => exact tryTempNames_run _ world

end BoundExportTarget

/-! ## Exactly when no trace is left -/

/-- The run gets past its deadline arithmetic and its first look at the cancellation. -/
def Calls.starts (calls : Calls) : Bool :=
  calls.deadlineFits && calls.cancels 0 = 0 && !calls.expired 0

/-- The state in which the rest of the run starts, with its temporary entry `name`. -/
def World.holdingTemp (calls : Calls) (directory : Directory) (writes : List WriteAnswer)
    (name : FileName) : World :=
  ((World.start directory writes).arrive calls.cancels).setDirectory (directory.create name)

section Trace

variable {ρ : Type} (toVec : ρ → Option (List UInt8)) (calls : Calls)
  (blake3 : List UInt8 → List UInt8) (store : StoreRun ρ) (format : ExportFormat)
  (request : HistoryExportRequest) (target : BoundExportTarget) (directory : Directory)
  (writes : List WriteAnswer)

/-- The run as it stands when the temporary file is dropped. -/
def beforeDrop (name : FileName) : Except ExportTargetError ExportArtifact × World :=
  publish toVec calls blake3 store format request target
    (.created target.parent name directory.next)
    (.holdingTemp calls directory writes name)

theorem arrive_start (starts : calls.starts = true) :
    check calls (.start directory writes) =
      (.ok ⟨⟩, (World.start directory writes).arrive calls.cancels) := by
  unfold Calls.starts at starts
  simp only [Bool.and_eq_true, decide_eq_true_eq, Bool.not_eq_true'] at starts
  obtain ⟨⟨_, none⟩, early⟩ := starts
  unfold check World.arrive
  change (if ((CancelHistory.new).cancels (calls.cancels 0)).cells.isCancelled then _
    else if calls.expired 0 then _ else _) = _
  rw [none, early]
  rfl

theorem check_start (fits : calls.deadlineFits = true) (stops : calls.starts = false) :
    ∃ failure, check calls (.start directory writes) =
      (.error failure, (World.start directory writes).arrive calls.cancels) := by
  have flag := @CancelHistory.cancels_cancelled .new rfl (calls.cancels 0)
  unfold Calls.starts at stops
  rw [fits, Bool.true_and] at stops
  unfold check World.arrive
  change ∃ failure, (if ((CancelHistory.new).cancels (calls.cancels 0)).cells.isCancelled then _
    else if calls.expired 0 then _ else _) = _
  unfold ExportCancellation.isCancelled
  rw [flag]
  cases none : decide (calls.cancels 0 = 0) with
  | false =>
      have some : (calls.cancels 0 != 0) = true := by simpa using none
      rw [some]
      exact ⟨.cancelled, rfl⟩
  | true =>
      have zero : (calls.cancels 0 != 0) = false := by simpa using none
      rw [none, Bool.true_and, Bool.not_eq_false'] at stops
      rw [zero, stops]
      exact ⟨.deadline, rfl⟩

theorem writeHistoryExport_started (starts : calls.starts = true) :
    writeHistoryExport toVec calls blake3 store format request target
        (.start directory writes) =
      (do
        let temp ← target.createTemp calls
        Program.withCleanup (publish toVec calls blake3 store format request target temp)
          (temp.drop calls.tempAtDrop))
        ((World.start directory writes).arrive calls.cancels) := by
  have fits : calls.deadlineFits = true := by
    unfold Calls.starts at starts
    simp only [Bool.and_eq_true] at starts
    exact starts.1.1
  unfold writeHistoryExport
  rw [fits, Program.ensure_true, Program.ret_bind, Program.bind_run]
  unfold Program.mapError
  rw [arrive_start calls directory writes starts]

theorem arrived_consistent :
    ((World.start directory writes).arrive calls.cancels).history.Consistent :=
  CancelHistory.consistent_new.cancels _

/-- A run that makes no temporary entry fails and changes nothing. -/
theorem writeHistoryExport_unchanged
    (none : calls.starts = true → target.createsTemp calls directory = none) :
    ∃ error world, writeHistoryExport toVec calls blake3 store format request target
        (.start directory writes) = (.error error, world) ∧
      world.directory = directory ∧ world.history.Consistent := by
  cases starts : calls.starts with
  | true =>
      have created := target.createTemp_run calls
        ((World.start directory writes).arrive calls.cancels)
      have absent : target.createsTemp calls
          ((World.start directory writes).arrive calls.cancels).directory = Option.none :=
        none starts
      rw [absent] at created
      obtain ⟨error, ran⟩ := created
      rw [writeHistoryExport_started _ _ _ _ _ _ _ _ _ starts, Program.bind_run, ran]
      exact ⟨error, _, rfl, rfl, arrived_consistent calls directory writes⟩
  | false =>
      unfold writeHistoryExport
      cases fits : calls.deadlineFits with
      | false => exact ⟨_, _, rfl, rfl, CancelHistory.consistent_new⟩
      | true =>
          obtain ⟨failure, ran⟩ := check_start calls directory writes fits starts
          rw [Program.ensure_true, Program.ret_bind, Program.bind_run]
          unfold Program.mapError
          rw [ran]
          exact ⟨_, _, rfl, rfl, arrived_consistent calls directory writes⟩

/-- A run that makes a temporary entry and refuses it fails and leaves the entry. -/
theorem writeHistoryExport_refused {name : FileName} (starts : calls.starts = true)
    (made : target.createsTemp calls directory = some name)
    (refused : acceptsTemp calls target.parent directory.next = false) :
    directory.entries name = none ∧
      writeHistoryExport toVec calls blake3 store format request target
        (.start directory writes) =
      (.error .unsafeTarget, .holdingTemp calls directory writes name) := by
  have created := target.createTemp_run calls
    ((World.start directory writes).arrive calls.cancels)
  have located : target.createsTemp calls
      ((World.start directory writes).arrive calls.cancels).directory = some name := made
  rw [located] at created
  obtain ⟨free, ran⟩ := created
  refine ⟨free, ?_⟩
  have rejects : acceptsTemp calls target.parent
      ((World.start directory writes).arrive calls.cancels).directory.next = false := refused
  rw [rejects] at ran
  rw [writeHistoryExport_started _ _ _ _ _ _ _ _ _ starts, Program.bind_run, ran]
  rfl

/-- A run that owns its temporary entry drops it at the end. -/
theorem writeHistoryExport_owned {name : FileName} (starts : calls.starts = true)
    (made : target.createsTemp calls directory = some name)
    (accepted : acceptsTemp calls target.parent directory.next = true) :
    directory.entries name = none ∧
      writeHistoryExport toVec calls blake3 store format request target
        (.start directory writes) =
      ((beforeDrop toVec calls blake3 store format request target directory writes name).1,
        (OwnedTemp.created target.parent name directory.next).drop calls.tempAtDrop
          (beforeDrop toVec calls blake3 store format request target directory writes name).2) := by
  have created := target.createTemp_run calls
    ((World.start directory writes).arrive calls.cancels)
  have located : target.createsTemp calls
      ((World.start directory writes).arrive calls.cancels).directory = some name := made
  rw [located] at created
  obtain ⟨free, ran⟩ := created
  refine ⟨free, ?_⟩
  have accepts : acceptsTemp calls target.parent
      ((World.start directory writes).arrive calls.cancels).directory.next = true := accepted
  rw [accepts] at ran
  rw [writeHistoryExport_started _ _ _ _ _ _ _ _ _ starts, Program.bind_run, ran]
  rfl

theorem entryMatches_of_entry {world : Directory} {name : FileName} {file : Inode}
    (located : world.entries name = some file) (answer : StatAnswer) (parent : DirectoryHandle) :
    world.entryMatchesIdentity answer name ⟨parent.identity.device, file⟩ =
      recognisesTemp answer parent := by
  unfold Directory.entryMatchesIdentity recognisesTemp Directory.statOf
  cases answer with
  | none => rfl
  | some attributes => simp [located, Stat.identity]

theorem entryMatches_of_none {world : Directory} {name : FileName}
    (absent : world.entries name = none) (answer : StatAnswer) (identity : FileIdentity) :
    world.entryMatchesIdentity answer name identity = false := by
  unfold Directory.entryMatchesIdentity Directory.statOf
  cases answer with
  | none => rfl
  | some attributes => simp [absent]

theorem drop_of_none {world : World} {temp : OwnedTemp}
    (absent : world.directory.entries temp.name = none) (answer : StatAnswer) :
    temp.drop answer world = world := by
  unfold OwnedTemp.drop
  rw [entryMatches_of_none absent]
  rfl

/-- The run that starts with its temporary entry. -/
theorem holding_holdingTemp (name : FileName) :
    Holding (directory.create name) directory.next []
      (.holdingTemp calls directory writes name) where
  directory := (Directory.append_nil _ _).symm
  consistent := arrived_consistent calls directory writes
  uncommitted := CancelHistory.cancels_commitState _ _

/-- The directory right after the link of the document `body`. -/
def linkedDirectory (name : FileName) (body : List UInt8) : Directory :=
  ((directory.create name).append directory.next body).link name target.fileName

section Published

variable {name : FileName} {body : List UInt8} {artifact : ExportArtifact} {result : EncoderResult}
  {world : World} (free : directory.entries name = none)
  (published : Published (directory.create name) directory.next body
    (.created target.parent name directory.next) target world)

include published in
theorem target_ne_temp : target.fileName ≠ name := by
  intro same
  have taken := published.free
  rw [same, Directory.create_entries_self] at taken
  cases taken

include published in
theorem target_free : directory.entries target.fileName = none := by
  rw [← published.free, Directory.create_entries_of_ne _ (target_ne_temp target directory published)]

include published in
theorem published_shape : world.directory = linkedDirectory target directory name body ∨
    world.directory = (linkedDirectory target directory name body).unlink name :=
  published.directory

include published in
/-- The target names the new file, and the file holds the document. -/
theorem published_target : world.directory.entries target.fileName = some directory.next ∧
    world.directory.contents directory.next = body := by
  have different := target_ne_temp target directory published
  have entry : (linkedDirectory target directory name body).entries target.fileName =
      some directory.next :=
    (Directory.link_entries_self _ _ _).trans (Directory.create_entries_self _ _)
  have written : (linkedDirectory target directory name body).contents directory.next = body := by
    unfold linkedDirectory
    rw [Directory.link_contents, Directory.append_contents_self, Directory.create_contents_next,
      List.nil_append]
  rcases published_shape target directory published with same | same
  · exact same ▸ ⟨entry, written⟩
  · exact same ▸ ⟨(Directory.unlink_entries_of_ne _ different).trans entry, written⟩

variable (documented : Documented toVec blake3 store format request result body)
  (described : artifact.bytesWritten = result.bytesWritten ∧
    artifact.recordCount = result.recordCount ∧ artifact.logicalDigest = result.logicalDigest)

end Published

/-- The run before its drop has published the document or has linked nothing. -/
theorem beforeDrop_outcome (name : FileName) :
    match beforeDrop toVec calls blake3 store format request target directory writes name with
    | (.ok artifact, world) => ∃ result body,
        Documented toVec blake3 store format request result body ∧
        artifact.bytesWritten = result.bytesWritten ∧
        artifact.recordCount = result.recordCount ∧
        artifact.logicalDigest = result.logicalDigest ∧
        Published (directory.create name) directory.next body
          (.created target.parent name directory.next) target world
    | (.error _, world) => Unlinked (directory.create name) directory.next world := by
  have opened : (OwnedTemp.created target.parent name directory.next).file =
      some directory.next := rfl
  have meets := @meets_publish (directory.create name) directory.next ρ toVec calls format request
    blake3 store target _ opened
  have holding := holding_holdingTemp calls directory writes name
  cases ended : beforeDrop toVec calls blake3 store format request target directory writes name with
  | mk outcome world =>
      cases outcome with
      | ok artifact => exact meets.of_ok holding ended
      | error error => exact meets.of_error holding ended

end Trace

end Guiying.Export
