import Guiying.Export.EncoderReturns
import Guiying.Export.NoTrace

/-!
# Exactly when no trace is left

Which answers take a run to its link, and what they say about the temporary
entry. An entry that the run owns goes when it is dropped, or it has already
gone after the link; else the artifact must say that it may still be there.
-/

namespace Guiying.Export

open Guiying.Foundation

section Calls

variable {base : Directory} {file : Inode} {body : List UInt8} (calls : Calls)
  (target : BoundExportTarget) (look : Nat) (writes : List WriteAnswer)

/-! ## The checks before the link -/

theorem DirectoryHandle.revalidate_run (parent : DirectoryHandle) (answer : Option Stat)
    (world : World) :
    parent.revalidate answer world =
      if parent.recognises answer then (.ok ⟨⟩, world) else (.error .unsafeTarget, world) := by
  unfold DirectoryHandle.recognises DirectoryHandle.revalidate
  cases answer with
  | none => rfl
  | some stat =>
      rw [Program.orFail_some, Program.ret_bind, Option.any_some]
      cases stat.attributes.kind = .directory && stat.identity = parent.identity with
      | true => rfl
      | false => rfl

theorem returnsWhen_revalidate (parent : DirectoryHandle) (answer : Option Stat) (world : World) :
    Program.ReturnsWhen (parent.recognises answer = true) (parent.revalidate answer) world
      (fun _ after => world = after) :=
  .of_test (parent.revalidate_run answer world) rfl

theorem returnsWhen_ensureAbsent (answer : StatAnswer) (name : FileName) (world : World) :
    Program.ReturnsWhen (answer.isSome = true ∧ world.directory.entries name = none)
      (DirectoryHandle.ensureAbsent answer name) world (fun _ after => world = after) := by
  cases answer with
  | none =>
      refine .of_error rfl ?_
      rintro ⟨impossible, _⟩
      cases impossible
  | some attributes =>
      have ran := BoundExportTarget.ensureAbsent_run attributes name world
      cases entry : world.directory.entries name with
      | none =>
          rw [entry] at ran
          exact .of_ok ran ⟨rfl, rfl⟩ rfl
      | some inode =>
          rw [entry] at ran
          exact .of_error ran (by simp)

theorem revalidate_run {world : World} {name : FileName}
    (located : world.directory.entries name = some file) (answers : VerifyAnswers) :
    (OwnedTemp.created target.parent name file).revalidate calls.effectiveUid answers target
        world =
      if verifiesAnswers calls.effectiveUid answers file target.parent then (.ok ⟨⟩, world)
      else (.error .unsafeTarget, world) := by
  have whole : (OwnedTemp.created target.parent name file).revalidate calls.effectiveUid answers
      target world =
        (verifyTempIdentity calls.effectiveUid answers file target.parent name >>= fun identity =>
          Program.ensure (identity = ⟨target.parent.identity.device, file⟩) .unsafeTarget)
          world := by
    unfold OwnedTemp.revalidate OwnedTemp.created
    rw [decide_eq_true rfl, Program.ensure_true, Program.ret_bind, Program.orFail_some,
      Program.ret_bind]
  rw [whole, Program.bind_run,
    BoundExportTarget.verifyTempIdentity_run located calls.effectiveUid answers target.parent]
  cases verifiesAnswers calls.effectiveUid answers file target.parent with
  | true =>
      rw [if_pos rfl, if_pos rfl]
      dsimp only
      rw [decide_eq_true rfl]
      rfl
  | false => rfl

theorem returnsWhen_temp_revalidate {world : World} {name : FileName}
    (located : world.directory.entries name = some file) (answers : VerifyAnswers) :
    Program.ReturnsWhen (verifiesAnswers calls.effectiveUid answers file target.parent = true)
      ((OwnedTemp.created target.parent name file).revalidate calls.effectiveUid answers target)
      world (fun _ after => world = after) :=
  .of_test (revalidate_run calls target located answers) rfl

theorem returnsWhen_flushAndSync (name : FileName) (file : Inode) (world : World) :
    Program.ReturnsWhen (calls.fileFlush = true ∧ calls.fileSync = true)
      ((OwnedTemp.created target.parent name file).flushAndSync calls) world
      (fun _ after => world = after) := by
  refine .orFail_bind (fun _ => rfl) ?_
  rintro _ _
  refine .ensure_bind And.left fun flushes => ?_
  have synced : (Program.ensure calls.fileSync .writeFailed : ExportM PUnit) world =
      if calls.fileSync then (.ok ⟨⟩, world) else (.error .writeFailed, world) := by
    cases calls.fileSync with
    | true => rfl
    | false => rfl
  exact (Program.ReturnsWhen.of_test synced rfl).congr (and_iff_right flushes).symm

/-! ## The link -/

/-- The answers by which `commit_link` links the file. -/
structure AnswersLink (entries : FileName → Option Inode) (file : Inode) : Prop where
  parent : target.parent.recognises calls.parentAtCommit = true
  answered : calls.targetAtCommit.isSome = true
  free : entries target.fileName = none
  verified : verifiesAnswers calls.effectiveUid calls.verifyAtCommit file target.parent = true
  links : calls.linkat = true

/-- The directory after the link, and what the `stat` of the new name has shown. -/
def LinkMade (directory : Directory) (name : FileName) (identityVerified : Bool)
    (world : World) : Prop :=
  world.directory = directory.link name target.fileName ∧
    identityVerified = recognisesTemp calls.linkedAtCommit target.parent

theorem returnsWhen_target_commitLink {world : World} {name : FileName}
    (located : world.directory.entries name = some file) :
    Program.ReturnsWhen (AnswersLink calls target world.directory.entries file)
      (target.commitLink calls (.created target.parent name file)) world
      (LinkMade calls target world.directory name) := by
  refine (returnsWhen_revalidate _ _ world).bind (fun fits => fits.parent) ?_
  rintro _ _ parent rfl
  refine (returnsWhen_ensureAbsent _ _ _).bind (fun fits => ⟨fits.answered, fits.free⟩) ?_
  rintro _ _ ⟨answered, free⟩ rfl
  refine (returnsWhen_temp_revalidate calls target located _).bind (fun fits => fits.verified) ?_
  rintro _ _ verified rfl
  have ran : DirectoryHandle.linkNoReplace calls.linkat name target.fileName world =
      if calls.linkat then (.ok ⟨⟩, { world with
        directory := world.directory.link name target.fileName
        history := world.history.logLink })
      else (.error .publishFailed, world) := by
    unfold DirectoryHandle.linkNoReplace
    rw [free, located, Option.isSome_some, Bool.and_true, if_neg (by simp)]
  have made : Program.ReturnsWhen (calls.linkat = true)
      (DirectoryHandle.linkNoReplace calls.linkat name target.fileName) world
      (fun _ after => after.directory = world.directory.link name target.fileName) :=
    .of_test ran rfl
  refine made.bind (fun fits => fits.links) ?_
  intro _ after links linked
  refine .current_bind (.pure ⟨parent, answered, free, verified, links⟩ ⟨linked, ?_⟩)
  rw [linked]
  apply entryMatches_of_entry
  rw [Directory.link_entries_self, located]

theorem returnsWhen_commitLink {directory : Directory} {operation : ExportM Bool}
    {condition : Prop} {good : Bool → World → Prop}
    (same : ∀ value before after, before.directory = after.directory → good value before →
      good value after)
    (inner : Program.ReturnsWhen condition operation (.quiet directory (look + 1) writes) good) :
    Program.ReturnsWhen (calls.cancels look = 0 ∧ condition) (commitLink calls operation)
      (.quiet directory look writes) good := by
  refine .update_bind (.current_bind ?_)
  have flag : ((World.quiet directory look writes).arrive calls.cancels).history.cells.cancelled =
      (calls.cancels look != 0) :=
    @CancelHistory.cancels_cancelled .new rfl (calls.cancels look)
  have opened : ((World.quiet directory look writes).arrive
      calls.cancels).history.cells.commitState = .openToCancel :=
    CancelHistory.cancels_commitState _ _
  rw [opened, flag]
  refine .ensure_bind (fun _ => rfl) fun _ => .ensure_bind (fun fits => by simp [fits.1]) ?_
  intro quiet
  have none : calls.cancels look = 0 := by simpa using quiet
  have arrived : (World.quiet directory look writes).arrive calls.cancels =
      .quiet directory (look + 1) writes := by
    unfold World.quiet World.arrive
    rw [none]
    rfl
  rw [arrived]
  refine inner.bind And.right ?_
  intro value after holds fits
  exact .update_bind (.pure ⟨none, holds⟩ (same value after _ rfl fits))

/-! ## After the link -/

/-- The entry of the temporary file goes after the link, or the artifact reports it: its removal
fails, and the target still shows the file of the run. -/
def RemovalSettled : Prop :=
  recognisesTemp calls.tempAtRemove target.parent = true ∨
    recognisesTemp calls.linkedAtCommit target.parent = true ∧
      target.parent.recognises calls.parentAtFinish = true ∧
      recognisesTemp calls.linkedAtFinish target.parent = true

theorem reports_publicationOutcome : ∀ identityVerified revalidated cleanupFailed syncFailed : Bool,
    (publicationOutcome identityVerified revalidated cleanupFailed syncFailed).warningCode =
        some "TEMP_CLEANUP_DEFERRED" ∨
      (publicationOutcome identityVerified revalidated cleanupFailed syncFailed).warningCode =
        some "TEMP_CLEANUP_AND_DIRECTORY_SYNC_UNAVAILABLE" ↔
    identityVerified = true ∧ revalidated = true ∧ cleanupFailed = true := by
  decide

theorem removeOwnedName_run {world : World} {name : FileName}
    (located : world.directory.entries name = some file) :
    (OwnedTemp.created target.parent name file).removeOwnedName calls.tempAtRemove world =
      if recognisesTemp calls.tempAtRemove target.parent then
        (.ok ⟨⟩, world.setDirectory (world.directory.unlink name))
      else (.error .unsafeTarget, world) := by
  have whole : (OwnedTemp.created target.parent name file).removeOwnedName calls.tempAtRemove
      world = (Program.ensure (world.directory.entryMatchesIdentity calls.tempAtRemove name
          ⟨target.parent.identity.device, file⟩) .unsafeTarget >>= fun _ =>
        Program.update fun world => world.setDirectory (world.directory.unlink name)) world := rfl
  rw [whole, entryMatches_of_entry located]
  cases recognisesTemp calls.tempAtRemove target.parent with
  | true => rfl
  | false => rfl

theorem finishCommitted_run {temp : OwnedTemp} {world after : World}
    {removed : Except ExportTargetError PUnit}
    (ran : temp.removeOwnedName calls.tempAtRemove world = (removed, after))
    (identityVerified : Bool) :
    target.finishCommitted calls temp identityVerified world =
      (.ok (publicationOutcome identityVerified
        (target.parent.recognises calls.parentAtFinish &&
          after.directory.entryMatchesIdentity calls.linkedAtFinish target.fileName
            temp.identity) (!removed.isOk) (!calls.directorySync)), after) := by
  have attempted : (Program.attempt (temp.removeOwnedName calls.tempAtRemove) :
      ExportM (Except ExportTargetError PUnit)) world = (.ok removed, after) := by
    unfold Program.attempt
    rw [ran]
  unfold BoundExportTarget.finishCommitted
  rw [Program.bind_after attempted, Program.bind_run]
  unfold Program.attempt
  rw [DirectoryHandle.revalidate_run]
  cases target.parent.recognises calls.parentAtFinish with
  | true => rfl
  | false => rfl

/-- After the link the run returns, and its temporary entry is gone unless it is reported. -/
theorem returnsWhen_finishCommitted {world : World} {name : FileName}
    (located : world.directory.entries name = some file)
    (linked : world.directory.entries target.fileName = some file) :
    Program.ReturnsWhen True
      (target.finishCommitted calls (.created target.parent name file)
        (recognisesTemp calls.linkedAtCommit target.parent)) world
      (fun publication after => (after.directory.entries name = none ∨
          publication.warningCode = some "TEMP_CLEANUP_DEFERRED" ∨
          publication.warningCode = some "TEMP_CLEANUP_AND_DIRECTORY_SYNC_UNAVAILABLE") ↔
        RemovalSettled calls target) := by
  have removal := removeOwnedName_run calls target located
  unfold RemovalSettled
  cases removes : recognisesTemp calls.tempAtRemove target.parent with
  | true =>
      rw [removes] at removal
      refine .of_ok (finishCommitted_run calls target removal _) trivial ?_
      exact iff_of_true (.inl (Directory.unlink_entries_self _ _)) (.inl rfl)
  | false =>
      rw [removes] at removal
      refine .of_ok (finishCommitted_run calls target removal _) trivial ?_
      rw [reports_publicationOutcome, located, Bool.and_eq_true]
      have matched : world.directory.entryMatchesIdentity calls.linkedAtFinish target.fileName
          (OwnedTemp.created target.parent name file).identity =
            recognisesTemp calls.linkedAtFinish target.parent :=
        entryMatches_of_entry linked _ _
      rw [matched]
      simp [Except.isOk, Except.toBool]

end Calls

/-! ## The whole run -/

section Trace

variable {ρ : Type} (toVec : ρ → Option (List UInt8)) (calls : Calls)
  (blake3 : List UInt8 → List UInt8) (store : StoreRun ρ) (format : ExportFormat)
  (request : HistoryExportRequest) (target : BoundExportTarget) (directory : Directory)
  (writes : List WriteAnswer)

/-- The answers by which a run with the temporary entry `name` makes its link. -/
structure ReachesLink (name : FileName) : Prop where
  document : ∃ canonical,
    WritesDocument toVec calls blake3 store format request 1 writes canonical
  quiet : calls.QuietFrom (1 + pagesLooks store.pages) 2
  flushes : calls.fileFlush = true
  syncs : calls.fileSync = true
  verified : verifiesAnswers calls.effectiveUid calls.verifyBeforeCommit directory.next
    target.parent = true
  uncancelled : calls.cancels (1 + pagesLooks store.pages + 2) = 0
  links : AnswersLink calls target (directory.create name).entries directory.next

theorem returnsWhen_publish (name : FileName) :
    Program.ReturnsWhen
      (ReachesLink toVec calls blake3 store format request target directory writes name)
      (publish toVec calls blake3 store format request target
        (.created target.parent name directory.next))
      (.quiet (directory.create name) 1 writes)
      (fun artifact after => after.directory.entries name = none ∨ artifact.ReportsTemp ↔
        RemovalSettled calls target) := by
  have snapshot := @returnsWhen_withScanHistoryExportSnapshot ρ toVec calls
    (directory.create name) directory.next format request blake3 store
    (.created target.parent name directory.next) rfl 1 writes
  rw [Directory.append_nil] at snapshot
  refine (Program.ReturnsWhen.mapError snapshot).bind (fun fits => fits.document) ?_
  rintro result _ document ⟨body, left, rfl⟩
  have located : ((directory.create name).append directory.next body).entries name =
      some directory.next := Directory.create_entries_self _ _
  have apart := calls.quietFrom_add (1 + pagesLooks store.pages) 1 1
  refine (Program.ReturnsWhen.mapError (returnsWhen_check calls _ _ left)).bind
    (fun fits => (apart.mp fits.quiet).1) ?_
  rintro _ _ first rfl
  refine (returnsWhen_flushAndSync calls target name directory.next _).bind
    (fun fits => ⟨fits.flushes, fits.syncs⟩) ?_
  rintro _ _ ⟨flushes, syncs⟩ rfl
  refine (returnsWhen_temp_revalidate calls target located _).bind (fun fits => fits.verified) ?_
  rintro _ _ verified rfl
  refine (Program.ReturnsWhen.mapError (returnsWhen_check calls _ _ left)).bind
    (fun fits => (apart.mp fits.quiet).2) ?_
  rintro _ _ second rfl
  refine (returnsWhen_commitLink calls _ left ?_
    (returnsWhen_target_commitLink calls target located)).bind
    (fun fits => ⟨fits.uncancelled, fits.links⟩) ?_
  · rintro value before after same ⟨directory, identity⟩
    exact ⟨same ▸ directory, identity⟩
  rintro _ world ⟨uncancelled, links⟩ ⟨linked, rfl⟩
  have target_ne : target.fileName ≠ name := by
    intro same
    have taken := links.free
    rw [same] at taken
    exact absurd (located.symm.trans taken) (by simp)
  have source : world.directory.entries name = some directory.next := by
    rw [linked]
    exact (Directory.link_entries_of_ne _ _ target_ne.symm).trans located
  have placed : world.directory.entries target.fileName = some directory.next := by
    rw [linked]
    exact (Directory.link_entries_self _ _ _).trans located
  refine (returnsWhen_finishCommitted calls target source placed).bind (fun _ => trivial) ?_
  intro publication after _ settled
  exact .pure ⟨document, apart.mpr ⟨first, second⟩, flushes, syncs, verified, uncancelled, links⟩
    settled

/-- Nobody has cancelled a run that starts. -/
theorem World.holdingTemp_of_starts {calls : Calls} {directory : Directory}
    {writes : List WriteAnswer} {name : FileName} (starts : calls.starts = true) :
    World.holdingTemp calls directory writes name = .quiet (directory.create name) 1 writes := by
  unfold Calls.starts at starts
  simp only [Bool.and_eq_true, decide_eq_true_eq] at starts
  have none : calls.cancels 0 = 0 := starts.1.2
  unfold World.holdingTemp World.start World.arrive World.quiet World.setDirectory
  dsimp only
  rw [none]
  rfl

/-- A run whose answers reach the link returns. -/
theorem exportRun_ok_of_reachesLink {name : FileName} (starts : calls.starts = true)
    (made : target.createsTemp calls directory = some name)
    (accepted : acceptsTemp calls target.parent directory.next = true)
    (reaches : ReachesLink toVec calls blake3 store format request target directory writes name) :
    ∃ artifact, (exportRun toVec calls blake3 store format request target directory writes).1 =
      .ok artifact := by
  obtain ⟨free, ran⟩ := writeHistoryExport_owned toVec calls blake3 store format request target
    directory writes starts made accepted
  obtain ⟨artifact, after, returned⟩ := (returnsWhen_publish toVec calls blake3 store format
    request target directory writes name).returns reaches
  refine ⟨artifact, ?_⟩
  unfold exportRun
  rw [ran]
  unfold beforeDrop
  rw [World.holdingTemp_of_starts starts, returned]

end Trace

/-! ## A volume without permission bits -/

def emptyDirectory : Directory := ⟨fun _ => none, fun _ => [], 0, fun _ _ found => by cases found⟩

def sampleTarget : BoundExportTarget := ⟨⟨0, ⟨1, 2⟩⟩, [97], [97]⟩

def directoryStat : Stat := ⟨⟨.directory, 1, 2, 501, 0o755⟩, 2⟩

/-- Every file reads as mode 0o777, whatever `fchmod` is told. -/
def looseAttributes : Attributes := ⟨.regular, 1, 1, 501, 0o777⟩

def looseAnswers : VerifyAnswers := ⟨some looseAttributes, some looseAttributes⟩

/-- Nothing fails and nobody cancels; only the permission bits are not kept. -/
def looseCalls : Calls where
  deadlineFits := true
  expired _ := false
  cancels _ := 0
  effectiveUid := 501
  parentAtCreate := some directoryStat
  targetAtCreate := some looseAttributes
  attempt _ := ⟨some (List.replicate 24 0), .created⟩
  fchmod := true
  verifyAtCreate := looseAnswers
  encoderFlush := true
  fileFlush := true
  fileSync := true
  verifyBeforeCommit := looseAnswers
  parentAtCommit := some directoryStat
  targetAtCommit := some looseAttributes
  verifyAtCommit := looseAnswers
  linkat := true
  linkedAtCommit := some looseAttributes
  tempAtRemove := some looseAttributes
  directorySync := true
  parentAtFinish := some directoryStat
  linkedAtFinish := some looseAttributes
  tempAtDrop := some looseAttributes

end Guiying.Export
