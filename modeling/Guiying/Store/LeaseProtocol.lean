import Guiying.Store.ControlOrder
import Guiying.Store.ControlOutcomes

/-!
# The protocol of a lease

Between two operations an active lease is in one of two phases. Run and job are
running and the request acknowledged last is no pause, or both are paused and the
checkpoint of that pause carries what the lease counts. An operation moves run and
job together or moves neither.
-/

namespace Guiying.Store

open Guiying.Foundation Guiying.Foundation.MachineInt Program

variable {Rest : Type} {hash : List UInt8 → Bytes32} {evidenceExists : Rest → Int → Bool}

/-! ## Phases -/

/-- The checkpoint has the cursor and the digest of what the lease counts. -/
structure PauseCheckpointRow.Carries (checkpoint : PauseCheckpointRow) (lease : RuntimeLeaseRow) :
    Prop where
  directories : (checkpoint.cursor.nextDirectoryOrdinal : Int) = lease.directoryEvidenceCount
  files : (checkpoint.cursor.nextFileOrdinal : Int) = lease.fileEvidenceCount
  digest : checkpoint.evidenceManifestDigest = lease.evidenceChainDigest

inductive Phase (database : Database Rest) (lease : RuntimeLeaseRow) (run : ScanRunRow)
    (job : ScanJobRow) : Prop
  | running (runState : run.state = .running) (jobState : job.state = .running)
      (latest : ∀ request, database.latestAcknowledged lease.scanRunId = some request →
        request.kind ≠ .pause)
  | paused {request : ControlRequestRow} {checkpoint : PauseCheckpointRow}
      (runState : run.state = .paused) (jobState : job.state = .paused)
      (latest : database.latestAcknowledged lease.scanRunId = some request)
      (kind : request.kind = .pause) (inside : checkpoint ∈ database.checkpointsOf lease.scanRunId)
      (ofRequest : checkpoint.pauseRequestId = request.id) (carries : checkpoint.Carries lease)

/-- Run and job of the lease are there, the job is of this run, and both are in a phase. -/
structure LeaseSettled (database : Database Rest) (lease : RuntimeLeaseRow) (run : ScanRunRow)
    (job : ScanJobRow) : Prop where
  runFound : database.runs.get? lease.scanRunId = some run
  jobFound : database.jobs.get? lease.scanJobId = some job
  bound : job.activeScanRunId = some lease.scanRunId
  phase : Phase database lease run job

/-- A run and its job, before and after: neither was moved, or both were. -/
inductive Together (run run' : ScanRunRow) (job job' : ScanJobRow) : Prop
  | still (runState : run'.state = run.state) (runVersion : run'.stateVersion = run.stateVersion)
      (jobState : job'.state = job.state) (jobVersion : job'.stateVersion = job.stateVersion)
  | moved (runState : run'.state ≠ run.state) (runVersion : run'.stateVersion = run.stateVersion + 1)
      (jobState : job'.state ≠ job.state) (jobVersion : job'.stateVersion = job.stateVersion + 1)

/-- The counters of a run do not fall. -/
structure ScanRunRow.NoLess (run run' : ScanRunRow) : Prop where
  discovered : run.discoveredCount ≤ run'.discoveredCount
  fingerprinted : run.fingerprintedCount ≤ run'.fingerprintedCount
  errors : run.errorCount ≤ run'.errorCount
  bytes : run.logicalBytesSeen ≤ run'.logicalBytesSeen

theorem ScanRunRow.NoLess.refl (run : ScanRunRow) : run.NoLess run :=
  ⟨le_refl _, le_refl _, le_refl _, le_refl _⟩

/-- The lease counts no less, and is of the same run and job. -/
structure RuntimeLeaseRow.Grows (lease lease' : RuntimeLeaseRow) : Prop where
  run : lease'.scanRunId = lease.scanRunId
  job : lease'.scanJobId = lease.scanJobId
  directories : lease.directoryEvidenceCount ≤ lease'.directoryEvidenceCount
  files : lease.fileEvidenceCount ≤ lease'.fileEvidenceCount

theorem RuntimeLeaseRow.Grows.refl (lease : RuntimeLeaseRow) : lease.Grows lease :=
  ⟨rfl, rfl, le_refl _, le_refl _⟩

theorem RuntimeLeaseRow.Grows.trans {first second third : RuntimeLeaseRow}
    (left : first.Grows second) (right : second.Grows third) : first.Grows third where
  run := right.run.trans left.run
  job := right.job.trans left.job
  directories := left.directories.trans right.directories
  files := left.files.trans right.files

/-- What became of an active lease, its run and its job. -/
inductive StepsTogether (before after : Database Rest) (lease : RuntimeLeaseRow) : Prop
  | intro {lease' : RuntimeLeaseRow} {run run' : ScanRunRow} {job job' : ScanJobRow}
      (leaseAfter : after.leases.get? lease.scanRunId = some lease') (grows : lease.Grows lease')
      (runBefore : before.runs.get? lease.scanRunId = some run)
      (runAfter : after.runs.get? lease.scanRunId = some run')
      (jobBefore : before.jobs.get? lease.scanJobId = some job)
      (jobAfter : after.jobs.get? lease.scanJobId = some job')
      (together : Together run run' job job') (counters : run.NoLess run')

/-- Every active lease of the run is settled. -/
def Database.Settled (database : Database Rest) (scanRunId : Int) : Prop :=
  ∀ lease, database.leases.get? scanRunId = some lease → lease.state = .active →
    ∃ run job, LeaseSettled database lease run job

/-- One operation leaves the lease of the run settled, and moves run and job together. -/
structure ProtocolStep (before after : Database Rest) (scanRunId : Int) : Prop where
  settled : after.Settled scanRunId
  together : ∀ lease, before.leases.get? scanRunId = some lease → lease.state = .active →
    StepsTogether before after lease

/-! ## Operations that leave a lease alone -/

/-- Nothing of the run was changed while its lease is active. -/
structure Untouched (before after : Database Rest) (scanRunId : Int) : Prop where
  lease : after.leases.get? scanRunId = before.leases.get? scanRunId
  requests : after.requestsOf scanRunId = before.requestsOf scanRunId
  checkpoints : after.checkpointsOf scanRunId = before.checkpointsOf scanRunId
  run : ∀ lease, before.leases.get? scanRunId = some lease → lease.state = .active →
    after.runs.get? scanRunId = before.runs.get? scanRunId
  job : ∀ lease, before.leases.get? scanRunId = some lease → lease.state = .active →
    after.jobs.get? lease.scanJobId = before.jobs.get? lease.scanJobId

section Untouched

variable {before after : Database Rest} {scanRunId : Int}

theorem Untouched.refl (database : Database Rest) (scanRunId : Int) :
    Untouched database database scanRunId :=
  ⟨rfl, rfl, rfl, fun _ _ _ => rfl, fun _ _ _ => rfl⟩

theorem Untouched.trans {first second third : Database Rest}
    (left : Untouched first second scanRunId) (right : Untouched second third scanRunId) :
    Untouched first third scanRunId where
  lease := right.lease.trans left.lease
  requests := right.requests.trans left.requests
  checkpoints := right.checkpoints.trans left.checkpoints
  run := fun lease found active =>
    (right.run lease (left.lease.trans found) active).trans (left.run lease found active)
  job := fun lease found active =>
    (right.job lease (left.lease.trans found) active).trans (left.job lease found active)

theorem LeaseSettled.still {database : Database Rest} {lease : RuntimeLeaseRow} {run : ScanRunRow}
    {job : ScanJobRow} (settled : LeaseSettled database lease run job)
    (leaseAfter : after.leases.get? lease.scanRunId = some lease)
    (runAfter : after.runs.get? lease.scanRunId = some run)
    (jobAfter : after.jobs.get? lease.scanJobId = some job) : StepsTogether database after lease :=
  .intro leaseAfter (.refl lease) settled.runFound runAfter settled.jobFound jobAfter
    (.still rfl rfl rfl rfl) (.refl run)

theorem scanRunId_of_get? {database : Database Rest} {lease : RuntimeLeaseRow}
    (found : database.leases.get? scanRunId = some lease) : lease.scanRunId = scanRunId :=
  (Table.get?_eq_some.mp found).2

theorem latestAcknowledged_of_eq
    (requests : after.requestsOf scanRunId = before.requestsOf scanRunId) :
    after.latestAcknowledged scanRunId = before.latestAcknowledged scanRunId := by
  unfold Database.latestAcknowledged
  rw [requests]

theorem ProtocolStep.of_untouched (settled : before.Settled scanRunId)
    (untouched : Untouched before after scanRunId) : ProtocolStep before after scanRunId where
  settled := by
    intro lease found active
    rw [untouched.lease] at found
    obtain ⟨run, job, same⟩ := settled lease found active
    have id := scanRunId_of_get? found
    subst id
    refine ⟨run, job, ?_, ?_, same.bound, ?_⟩
    · rw [untouched.run lease found active]
      exact same.runFound
    · rw [untouched.job lease found active]
      exact same.jobFound
    · cases same.phase with
      | running runState jobState latest =>
          refine .running runState jobState fun request => ?_
          rw [latestAcknowledged_of_eq untouched.requests]
          exact latest request
      | paused runState jobState latest kind inside ofRequest carries =>
          rw [← latestAcknowledged_of_eq untouched.requests] at latest
          rw [← untouched.checkpoints] at inside
          exact .paused runState jobState latest kind inside ofRequest carries
  together := by
    intro lease found active
    obtain ⟨run, job, same⟩ := settled lease found active
    have id := scanRunId_of_get? found
    subst id
    refine same.still (untouched.lease.trans found) ?_ ?_
    · rw [untouched.run lease found active]
      exact same.runFound
    · rw [untouched.job lease found active]
      exact same.jobFound

/-! The statements of an operation on another run. -/

theorem untouched_withMovedRun {database : Database Rest} {other version nowMs : Int}
    {target : ScanRunState} {lastError : Option (String × String)} (different : scanRunId ≠ other) :
    Untouched database (database.withMovedRun other target version nowMs lastError) scanRunId := by
  refine ⟨rfl, rfl, rfl, fun _ _ _ => Table.get?_modify_other ?_ different, fun _ _ _ => rfl⟩
  exact ScanRunRow.moved_id target version nowMs lastError

theorem untouched_withMovedJob {database : Database Rest} {scanJobId version nowMs : Int}
    {target : ScanJobState} (different : ∀ lease, database.leases.get? scanRunId = some lease →
      lease.state = .active → lease.scanJobId ≠ scanJobId) :
    Untouched database (database.withMovedJob scanJobId target version nowMs) scanRunId := by
  refine ⟨rfl, rfl, rfl, fun _ _ _ => rfl, fun lease found active =>
    Table.get?_modify_other ?_ (different lease found active)⟩
  exact ScanJobRow.moved_id target version nowMs

theorem untouched_withReleasing {database : Database Rest} {other nowMs : Int}
    {reason : ReleaseReason} (different : scanRunId ≠ other) :
    Untouched database (database.withReleasing other reason nowMs) scanRunId := by
  refine ⟨Table.get?_modify_other ?_ different, rfl, rfl, fun _ _ _ => rfl, fun _ _ _ => rfl⟩
  exact fun _ => rfl

theorem untouched_withReleased {database : Database Rest} {other nowMs : Int}
    (different : scanRunId ≠ other) :
    Untouched database (database.withReleased other nowMs) scanRunId := by
  refine ⟨Table.get?_modify_other ?_ different, rfl, rfl, fun _ _ _ => rfl, fun _ _ _ => rfl⟩
  exact fun _ => rfl

theorem requestsOf_withAcknowledged {database : Database Rest} {requestId jobVersion runVersion : Int}
    {generation : Option Int} {reasonCode : String} {acknowledgedAtMs : Int}
    {pauseCheckpoint : Option (Bytes32 × Bytes32)} :
    (database.withAcknowledged requestId jobVersion runVersion generation reasonCode
      acknowledgedAtMs pauseCheckpoint).requestsOf scanRunId =
      (database.requestsOf scanRunId).map fun row =>
        if row.id = requestId then row.acknowledged jobVersion runVersion generation reasonCode
          acknowledgedAtMs pauseCheckpoint
        else row := by
  apply requestsOf_update
  intro row
  split
  · rfl
  · rfl

theorem untouched_withAcknowledged {database : Database Rest} {requestId jobVersion runVersion : Int}
    {generation : Option Int} {reasonCode : String} {acknowledgedAtMs : Int}
    {pauseCheckpoint : Option (Bytes32 × Bytes32)} {request : ControlRequestRow}
    (present : database.requests.get? requestId = some request)
    (different : scanRunId ≠ request.scanRunId) :
    Untouched database (database.withAcknowledged requestId jobVersion runVersion generation
      reasonCode acknowledgedAtMs pauseCheckpoint) scanRunId := by
  obtain ⟨inside, id⟩ := Table.get?_eq_some.mp present
  refine ⟨rfl, ?_, rfl, fun _ _ _ => rfl, fun _ _ _ => rfl⟩
  rw [requestsOf_withAcknowledged]
  refine (List.map_congr_left fun row among => ?_).trans (List.map_id _)
  obtain ⟨there, ofRun⟩ := Database.mem_requestsOf.mp among
  refine if_neg fun same => different ?_
  rw [← Table.eq_of_key there inside (same.trans id.symm), ofRun]

theorem untouched_superseding {database : Database Rest} {other requestedAtMs byId : Int}
    (different : scanRunId ≠ other) :
    Untouched database (database.superseding other requestedAtMs byId) scanRunId := by
  refine ⟨rfl, ?_, rfl, fun _ _ _ => rfl, fun _ _ _ => rfl⟩
  unfold Database.superseding
  rw [requestsOf_update fun row => (supersededRow_columns other requestedAtMs byId row).1]
  refine (List.map_congr_left fun row inside => ?_).trans (List.map_id _)
  obtain ⟨-, ofRun⟩ := Database.mem_requestsOf.mp inside
  unfold supersededRow
  exact if_neg fun superseded => different (ofRun.symm.trans superseded.1)

theorem untouched_insertRequest {database : Database Rest} {row : ControlRequestRow}
    {requests : Table ControlRequestRow.id}
    (inserted : database.requests.insert row = some requests) (different : scanRunId ≠ row.scanRunId) :
    Untouched database { database with requests := requests } scanRunId := by
  refine ⟨rfl, ?_, rfl, fun _ _ _ => rfl, fun _ _ _ => rfl⟩
  rw [requestsOf_insert inserted, if_neg (Ne.symm different)]

theorem untouched_withCheckpoints {database : Database Rest} {row : PauseCheckpointRow}
    {checkpoints : Table PauseCheckpointRow.key}
    (inserted : database.checkpoints.insert row = some checkpoints)
    (different : scanRunId ≠ row.scanRunId) :
    Untouched database (database.withCheckpoints checkpoints) scanRunId := by
  refine ⟨rfl, rfl, ?_, fun _ _ _ => rfl, fun _ _ _ => rfl⟩
  unfold Database.withCheckpoints
  rw [checkpointsOf_insert inserted, if_neg (Ne.symm different)]

end Untouched

end Guiying.Store
