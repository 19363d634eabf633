import Guiying.Quarantine.MoveSafety
import Guiying.Quarantine.RestoreFile

/-!
# Restoring an operation

The loop over the files of a manifest. It rewrites the manifest after every file,
counts the files that it has restored itself, and stops at the first one that it
cannot restore; files that an earlier run restored keep their state.
-/

namespace Guiying.Quarantine

open Guiying.Foundation ByteString MachineInt Program
open Guiying.Desktop (AppError)

structure RestoreQuarantineOperationResponse where
  operationId : Text
  restoredCount : Nat
  remainingCount : Nat
  status : String
  deriving DecidableEq

/-- What one run meets: how the restore of each file ends, the clock and the disk at each write of
the manifest, and the final look at the root. -/
structure RestoreRun where
  restoreOneFile : Nat → Except AppError Unit
  unixTimeMs : Nat → Nat
  disk : Nat → ManifestDisk
  finish : Except AppError Unit
  toVecPretty : OperationManifest → List UInt8

def ManifestFile.markRestored (file : ManifestFile) : ManifestFile :=
  { file with state := "restored" }

namespace RestoreRun

/-- The `write`-th write of the manifest. -/
def writeManifest (run : RestoreRun) (write : Nat) (manifest : OperationManifest) :
    Program OperationManifest AppError OperationManifest :=
  Quarantine.writeManifest run.toVecPretty (run.unixTimeMs write) (run.disk write) manifest

/-- The loop of `restore_operation`: the manifest, the files restored in this run, and whether it
has stopped. -/
def restoreFiles (run : RestoreRun) (done : List ManifestFile) (restoredCount : Nat) :
    List ManifestFile → OperationManifest →
      Program OperationManifest AppError (OperationManifest × Nat × Bool)
  | [], manifest => pure (manifest, restoredCount, false)
  | file :: rest, manifest =>
      match run.restoreOneFile done.length with
      | .ok _ => do
          let restoredCount ← orFail (manifestInvalid "恢复文件计数溢出。")
            (checkedAdd u64Bound restoredCount 1)
          let manifest ← run.writeManifest (done.length + 1)
            { manifest with files := done ++ file.markRestored :: rest }
          run.restoreFiles (done ++ [file.markRestored]) restoredCount rest manifest
      | .error _ => pure (manifest, restoredCount, true)

/-- `restore_operation`, from the manifest that was read on; the state is the manifest on disk. -/
def restoreOperation (run : RestoreRun) (operationId : Text) (manifest : OperationManifest) :
    Program OperationManifest AppError RestoreQuarantineOperationResponse := do
  ofExcept (validateManifest manifest operationId)
  let _ ← ofExcept (parseHex32 manifest.contentDigestHex "contentDigestHex")
  let manifest ← run.writeManifest 0 { manifest with status := "restoring" }
  let (manifest, restoredCount, stopped) ← run.restoreFiles [] 0 manifest.files manifest
  let remaining := manifest.files.length - restoredCount
  let status := if !stopped && remaining = 0 then "restored" else "partially_restored"
  let _ ← run.writeManifest (manifest.files.length + 1) { manifest with status }
  ofExcept run.finish
  pure ⟨operationId, restoredCount, remaining, status⟩

end RestoreRun

/-! ## What a run leaves -/

variable {run : RestoreRun} {published after : OperationManifest}

theorem writeManifest_ok {write : Nat} {manifest written : OperationManifest}
    (ran : run.writeManifest write manifest published = (.ok written, after)) :
    after = written ∧ written.files = manifest.files ∧ written.status = manifest.status := by
  obtain ⟨_, s₁, -, ran⟩ := bind_eq_ok.mp ran
  obtain ⟨_, s₂, -, ran⟩ := bind_eq_ok.mp ran
  cases disk : run.disk write with
  | refuses error =>
      rw [disk] at ran
      cases fail_eq_ok.mp ran
  | unsynced error =>
      rw [disk] at ran
      obtain ⟨_, s₃, -, ran⟩ := bind_eq_ok.mp ran
      cases fail_eq_ok.mp ran
  | takes =>
      rw [disk] at ran
      obtain ⟨_, s₃, updated, ran⟩ := bind_eq_ok.mp ran
      obtain ⟨rfl, rfl⟩ := pure_eq_ok.mp ran
      exact ⟨(update_eq_ok.mp updated).symm ▸ rfl, rfl, rfl⟩

/-- The loop restores a first part of the files and leaves the rest as it was. -/
structure LoopRan (run : RestoreRun) (done rest : List ManifestFile) (restoredCount : Nat)
    (result : OperationManifest × Nat × Bool) : Prop where
  split : ∃ now left, rest = now ++ left ∧
    result.1.files = done ++ now.map ManifestFile.markRestored ++ left ∧
    result.2.1 = restoredCount + now.length ∧
    (result.2.2 = true ↔ left ≠ []) ∧
    (∀ earlier < now.length, (run.restoreOneFile (done.length + earlier)).isOk = true) ∧
    (left ≠ [] → (run.restoreOneFile (done.length + now.length)).isOk = false)

theorem restoreFiles_ok {done rest : List ManifestFile} {restoredCount : Nat}
    {manifest : OperationManifest} {result : OperationManifest × Nat × Bool}
    (files : manifest.files = done ++ rest)
    (ran : run.restoreFiles done restoredCount rest manifest published = (.ok result, after)) :
    LoopRan run done rest restoredCount result := by
  induction rest generalizing done restoredCount manifest published with
  | nil =>
      obtain ⟨rfl, rfl⟩ := pure_eq_ok.mp ran
      exact ⟨[], [], rfl, by simpa using files, rfl, by simp, nofun, by simp⟩
  | cons file rest ih =>
      unfold RestoreRun.restoreFiles at ran
      cases outcome : run.restoreOneFile done.length with
      | error error =>
          rw [outcome] at ran
          obtain ⟨rfl, rfl⟩ := pure_eq_ok.mp ran
          refine ⟨[], file :: rest, rfl, by simpa using files, rfl, by simp, nofun, ?_⟩
          intro _
          simp [outcome, Except.isOk, Except.toBool]
      | ok _ =>
          rw [outcome] at ran
          obtain ⟨counted, s₁, added, ran⟩ := bind_eq_ok.mp ran
          obtain ⟨written, s₂, wrote, ran⟩ := bind_eq_ok.mp ran
          obtain ⟨added, -⟩ := orFail_eq_ok.mp added
          obtain ⟨-, rfl⟩ := checkedAdd_eq_some.mp added
          obtain ⟨-, sameFiles, -⟩ := writeManifest_ok wrote
          obtain ⟨now, left, same, after, count, stopped, restored, failed⟩ :=
            (ih (by simpa using sameFiles) ran).split
          refine ⟨file :: now, left, by simp [same], by simpa using after, ?_, stopped, ?_, ?_⟩
          · rw [count]
            simp only [List.length_cons]
            omega
          · intro earlier small
            cases earlier with
            | zero => simp [outcome, Except.isOk, Except.toBool]
            | succ earlier =>
                have before := restored earlier (by simpa using small)
                simpa [Nat.add_assoc, Nat.add_comm 1] using before
          · intro more
            have stop := failed more
            simpa [Nat.add_assoc, Nat.add_comm 1] using stop

theorem restoreOperation_ran {operationId : Text} {manifest : OperationManifest}
    {response : RestoreQuarantineOperationResponse}
    (ran : run.restoreOperation operationId manifest published = (.ok response, after)) :
    ∃ now left, manifest.files = now ++ left ∧
      after.files = now.map ManifestFile.markRestored ++ left ∧
      (∀ earlier < now.length, (run.restoreOneFile earlier).isOk = true) ∧
      (left ≠ [] → (run.restoreOneFile now.length).isOk = false) ∧
      response.restoredCount = now.length ∧ response.remainingCount = left.length ∧
      response.status = after.status ∧
      after.status = if left = [] then "restored" else "partially_restored" := by
  obtain ⟨_, s₁, -, ran⟩ := bind_eq_ok.mp ran
  obtain ⟨_, s₂, -, ran⟩ := bind_eq_ok.mp ran
  obtain ⟨restoring, s₃, wrote, ran⟩ := bind_eq_ok.mp ran
  obtain ⟨⟨last, restoredCount, stopped⟩, s₄, looped, ran⟩ := bind_eq_ok.mp ran
  obtain ⟨final, s₅, rewrote, ran⟩ := bind_eq_ok.mp ran
  obtain ⟨_, s₆, finished, ran⟩ := bind_eq_ok.mp ran
  obtain ⟨-, rfl⟩ := ofExcept_eq_ok.mp finished
  obtain ⟨rfl, rfl⟩ := pure_eq_ok.mp ran
  obtain ⟨-, sameFiles, -⟩ := writeManifest_ok wrote
  obtain ⟨rfl, finalFiles, finalStatus⟩ := writeManifest_ok rewrote
  obtain ⟨now, left, same, files, count, isStopped, restored, failed⟩ :=
    (restoreFiles_ok (by simp) looped).split
  dsimp only at files count isStopped finalFiles finalStatus
  have remaining : last.files.length - restoredCount = left.length := by
    rw [files, count]
    simp
  have status : (if (!stopped && decide (last.files.length - restoredCount = 0)) = true
      then "restored" else "partially_restored") =
        if left = [] then "restored" else "partially_restored" := by
    rw [remaining]
    by_cases none_ : left = []
    · have running : stopped = false := by
        by_contra stops
        exact isStopped.mp (by simpa using stops) none_
      simp [none_, running]
    · simp [none_, isStopped.mpr none_]
  refine ⟨now, left, ?_, ?_, ?_, ?_, ?_, remaining, ?_, ?_⟩
  · rw [← sameFiles, same]
  · rw [finalFiles, files, List.nil_append]
  · simpa using restored
  · simpa using failed
  · simpa using count
  · exact finalStatus.symm
  · rw [finalStatus]
    exact status

/-! ## The account -/

/-- What the response says of a run agrees with the manifest that the run has published. -/
structure Accounted (before : OperationManifest) (response : RestoreQuarantineOperationResponse)
    (published : OperationManifest) : Prop where
  total : response.restoredCount + response.remainingCount = before.files.length
  remaining : response.remainingCount =
    (published.files.filter fun file => file.state ≠ "restored").length
  answered : response.status = "restored" ↔ ∀ file ∈ published.files, file.state = "restored"
  written : published.status = "restored" ↔ ∀ file ∈ published.files, file.state = "restored"
  settled : (∀ file ∈ before.files, file.state = "restored") → published.status = "restored"

/-- No file at or after the first one that cannot be restored now was restored before. -/
def NoneRestoredAfterStop (run : RestoreRun) (manifest : OperationManifest) : Prop :=
  ∀ stop < manifest.files.length, (∀ earlier < stop, (run.restoreOneFile earlier).isOk = true) →
    (run.restoreOneFile stop).isOk = false →
    ∀ file ∈ manifest.files.drop stop, file.state ≠ "restored"

/-- The run stops where its loop has stopped. -/
theorem noneRestoredAfterStop_iff {manifest : OperationManifest} {now left : List ManifestFile}
    (split : manifest.files = now ++ left)
    (restored : ∀ earlier < now.length, (run.restoreOneFile earlier).isOk = true)
    (failed : left ≠ [] → (run.restoreOneFile now.length).isOk = false) :
    NoneRestoredAfterStop run manifest ↔ ∀ file ∈ left, file.state ≠ "restored" := by
  constructor
  · intro none_ file isLeft
    have more : left ≠ [] := List.ne_nil_of_mem isLeft
    have shorter : now.length < manifest.files.length := by
      rw [split, List.length_append]
      have := List.length_pos_iff.mpr more
      omega
    apply none_ now.length shorter restored (failed more) file
    rwa [split, List.drop_left]
  · intro none_ stop shorter passed stopped file later
    have same : stop = now.length := by
      rcases Nat.lt_trichotomy stop now.length with before | same | beyond
      · rw [restored stop before] at stopped
        cases stopped
      · exact same
      · have more : left ≠ [] := by
          rintro rfl
          rw [split, List.append_nil] at shorter
          omega
        have refused := failed more
        rw [passed now.length beyond] at refused
        cases refused
    subst same
    rw [split, List.drop_left] at later
    exact none_ file later

/-- A run that returns is accounted for exactly when its stop leaves no restored file behind. -/
theorem restoreOperation_accounted_iff (run : RestoreRun) (operationId : Text)
    (manifest published : OperationManifest) (response : RestoreQuarantineOperationResponse)
    (ran : run.restoreOperation operationId manifest manifest = (.ok response, published)) :
    Accounted manifest response published ↔ NoneRestoredAfterStop run manifest := by
  obtain ⟨now, left, split, files, restored, failed, count, remaining, status, published'⟩ :=
    restoreOperation_ran ran
  rw [noneRestoredAfterStop_iff split restored failed]
  have unrestored : (published.files.filter fun file => file.state ≠ "restored") =
      left.filter fun file => file.state ≠ "restored" := by
    rw [files, List.filter_append]
    have none_ : ((now.map ManifestFile.markRestored).filter fun file =>
        file.state ≠ "restored") = [] := by
      apply List.filter_eq_nil_iff.mpr
      intro file marked
      obtain ⟨_, -, rfl⟩ := List.mem_map.mp marked
      simp [ManifestFile.markRestored]
    rw [none_, List.nil_append]
  constructor
  · intro accounted
    have all := accounted.remaining
    rw [unrestored, remaining] at all
    have kept := List.length_filter_eq_length_iff.mp all.symm
    intro file isLeft
    simpa using kept file isLeft
  · intro none_
    have kept : left.filter (fun file => file.state ≠ "restored") = left := by
      apply List.filter_eq_self.mpr
      intro file isLeft
      simpa using none_ file isLeft
    have all : (∀ file ∈ published.files, file.state = "restored") ↔ left = [] := by
      rw [← List.length_eq_zero_iff, ← kept, ← unrestored, List.length_eq_zero_iff,
        List.filter_eq_nil_iff]
      simp
    have whole : published.status = "restored" ↔ left = [] := by
      rw [published']
      by_cases nothing : left = [] <;> simp [nothing]
    refine ⟨?_, ?_, ?_, ?_, ?_⟩
    · rw [count, remaining, split, List.length_append]
    · rw [unrestored, kept, remaining]
    · rw [status, whole, all]
    · rw [whole, all]
    · intro before
      rw [whole]
      by_contra more
      obtain ⟨file, isLeft⟩ := List.exists_mem_of_ne_nil left more
      exact none_ file isLeft (before file (split ▸ List.mem_append_right now isLeft))

/-! ## A restored file that was edited -/

/-- The files of the album's operation: both were restored by an earlier run. -/
def albumManifest : OperationManifest where
  schemaVersion := 1
  operationId := albumOperation
  scanRunId := ['1']
  groupBuildId := ['1']
  keeperOrdinal := ['0']
  groupKeyHex := List.replicate 64 '0'
  evidenceManifestHex := List.replicate 64 '0'
  contentDigestAlgorithm := "blake3"
  contentDigestHex := List.replicate 64 '0'
  createdAtUnixMs := ['1']
  updatedAtUnixMs := ['1']
  status := "restored"
  files :=
    [⟨['1'], ['1'], "Y29weS5qcGc".toList, "member-000001.bin".toList, ['1'], List.replicate 64 '0',
        "restored"⟩,
      ⟨['2'], ['2'], "Y29weTIuanBn".toList, "member-000002.bin".toList, ['1'],
        List.replicate 64 '0', "restored"⟩]

/-- The album after the restore, in which the user has added a byte to the first file. -/
def editedAlbum : FileTree :=
  { albumTree with
    objects := Function.update albumTree.objects (albumKey 21)
      (some (albumObject .regular [7, 7])) }

/-- A second run over the edited album. -/
def editedRun : RestoreRun where
  restoreOneFile index :=
    (restoreOneFileWithPostRenameHook (fun _ => Bytes32.filled 0)
      ⟨501, fun _ => true, fun _ _ => true⟩ albumCall.root albumCall.filesDirectory albumOperation
      (albumManifest.files.getD index ⟨[], [], [], [], [], [], ""⟩) (Bytes32.filled 0) ⟨1, 0⟩ ⟨2, 0⟩
      [] editedAlbum).1
  unixTimeMs _ := 2
  disk _ := .takes
  finish := .ok ()
  toVecPretty _ := []

def editedManifest : OperationManifest :=
  { albumManifest with updatedAtUnixMs := ['2'], status := "partially_restored" }

theorem editedRun_ran :
    editedRun.restoreOperation albumOperation albumManifest albumManifest =
      (.ok ⟨albumOperation, 0, 2, "partially_restored"⟩, editedManifest) := rfl

theorem restoreOperation_accounted_iff_edited :
    editedRun.restoreOperation albumOperation albumManifest albumManifest =
        (.ok ⟨albumOperation, 0, 2, "partially_restored"⟩, editedManifest) ∧
      (Accounted albumManifest ⟨albumOperation, 0, 2, "partially_restored"⟩ editedManifest ↔
        NoneRestoredAfterStop editedRun albumManifest) :=
  ⟨editedRun_ran, restoreOperation_accounted_iff editedRun albumOperation albumManifest
    editedManifest _ editedRun_ran⟩

/-- Every file of the operation was restored, and the second run says that two remain. -/
theorem editedRun_not_accounted :
    editedRun.restoreOperation albumOperation albumManifest albumManifest =
        (.ok ⟨albumOperation, 0, 2, "partially_restored"⟩, editedManifest) ∧
      ¬ Accounted albumManifest ⟨albumOperation, 0, 2, "partially_restored"⟩ editedManifest := by
  refine ⟨editedRun_ran, ?_⟩
  intro accounted
  have remaining := accounted.remaining
  exact absurd remaining (by decide)

end Guiying.Quarantine
