import Guiying.Store.ControlOutcomes

/-!
# One operation at two clocks

Two databases that differ only in the times of their runs, jobs and leases. What the
triggers ask of a run, a job and a request does not look at these times, so a
statement that is made in one of them is made in the other.
-/

namespace Guiying.Store

open Guiying.Foundation

/-! ## Rows -/

/-- Two rows of a run that differ in their times and counters at most. -/
structure ScanRunRow.Alike (a b : ScanRunRow) : Prop where
  id : a.id = b.id
  volumeId : a.volumeId = b.volumeId
  state : a.state = b.state
  stateVersion : a.stateVersion = b.stateVersion
  lastError : a.lastError = b.lastError

structure ScanJobRow.Alike (a b : ScanJobRow) : Prop where
  id : a.id = b.id
  volumeId : a.volumeId = b.volumeId
  state : a.state = b.state
  stateVersion : a.stateVersion = b.stateVersion
  activeScanRunId : a.activeScanRunId = b.activeScanRunId

structure RuntimeLeaseRow.Alike (a b : RuntimeLeaseRow) : Prop where
  scanRunId : a.scanRunId = b.scanRunId
  volumeId : a.volumeId = b.volumeId
  scanJobId : a.scanJobId = b.scanJobId
  runtimeLeaseKey : a.runtimeLeaseKey = b.runtimeLeaseKey
  state : a.state = b.state
  releaseReason : a.releaseReason = b.releaseReason

theorem ScanRunRow.Alike.refl (row : ScanRunRow) : row.Alike row := ⟨rfl, rfl, rfl, rfl, rfl⟩

theorem ScanJobRow.Alike.refl (row : ScanJobRow) : row.Alike row := ⟨rfl, rfl, rfl, rfl, rfl⟩

theorem RuntimeLeaseRow.Alike.refl (row : RuntimeLeaseRow) : row.Alike row :=
  ⟨rfl, rfl, rfl, rfl, rfl, rfl⟩

theorem ScanRunRow.Alike.moved {a b : ScanRunRow} (alike : a.Alike b) (target : ScanRunState)
    (version nowMs laterMs : Int) (lastError : Option (String × String)) :
    (a.moved target version nowMs lastError).Alike (b.moved target version laterMs lastError) :=
  ⟨alike.id, alike.volumeId, rfl, rfl, rfl⟩

theorem ScanJobRow.Alike.moved {a b : ScanJobRow} (alike : a.Alike b) (target : ScanJobState)
    (version nowMs laterMs : Int) :
    (a.moved target version nowMs).Alike (b.moved target version laterMs) :=
  ⟨alike.id, alike.volumeId, rfl, rfl, alike.activeScanRunId⟩

/-! ## Databases -/

variable {Rest : Type}

/-- Two databases that differ in the times of runs, jobs and leases at most. -/
structure Database.Alike (first second : Database Rest) : Prop where
  runs : Table.Alike ScanRunRow.Alike first.runs second.runs
  jobs : Table.Alike ScanJobRow.Alike first.jobs second.jobs
  leases : Table.Alike RuntimeLeaseRow.Alike first.leases second.leases
  sessions : first.sessions = second.sessions
  requests : first.requests = second.requests
  checkpoints : first.checkpoints = second.checkpoints
  stageSeals : first.stageSeals = second.stageSeals

namespace Database.Alike

variable {first second : Database Rest}

theorem refl (database : Database Rest) : database.Alike database where
  runs := .refl ScanRunRow.Alike.refl _
  jobs := .refl ScanJobRow.Alike.refl _
  leases := .refl RuntimeLeaseRow.Alike.refl _
  sessions := rfl
  requests := rfl
  checkpoints := rfl
  stageSeals := rfl

section LookUps

variable (alike : first.Alike second) (id : Int)
include alike

theorem run : Option.Rel ScanRunRow.Alike (first.runs.get? id) (second.runs.get? id) :=
  alike.runs.get? (fun _ _ same => same.id) id

theorem job : Option.Rel ScanJobRow.Alike (first.jobs.get? id) (second.jobs.get? id) :=
  alike.jobs.get? (fun _ _ same => same.id) id

theorem lease : Option.Rel RuntimeLeaseRow.Alike (first.leases.get? id) (second.leases.get? id) :=
  alike.leases.get? (fun _ _ same => same.scanRunId) id

theorem requestsOf : first.requestsOf id = second.requestsOf id := by
  unfold Database.requestsOf
  rw [alike.requests]

theorem checkpointsOf : first.checkpointsOf id = second.checkpointsOf id := by
  unfold Database.checkpointsOf
  rw [alike.checkpoints]

theorem hasPending : first.hasPending id = second.hasPending id := by
  unfold Database.hasPending
  rw [alike.requestsOf]

theorem hasPendingKind (kind : ScanControlKind) :
    first.hasPendingKind id kind = second.hasPendingKind id kind := by
  unfold Database.hasPendingKind
  rw [alike.requestsOf]

theorem leaseIs {condition : RuntimeLeaseRow → Bool}
    (same : ∀ a b, RuntimeLeaseRow.Alike a b → condition a = condition b) :
    first.leaseIs id condition = second.leaseIs id condition :=
  Table.any_of_rel (alike.lease id) same

end LookUps

/-! ## Triggers -/

theorem runControlGate (alike : first.Alike second) {old old' new new' : ScanRunRow}
    (before : old.Alike old') (after : new.Alike new') :
    first.runControlGate old new = second.runControlGate old' new' := by
  have stored : (first.leases.get? old.id).isNone = (second.leases.get? old'.id).isNone := by
    rw [before.id]
    exact Table.isNone_of_rel (alike.lease old'.id)
  unfold Database.runControlGate
  rw [stored, before.state, after.state, before.id, after.stateVersion, alike.requestsOf,
    alike.checkpoints, alike.hasPending, alike.hasPendingKind, alike.hasPendingKind]
  congr 1
  split
  · rw [alike.leaseIs _ fun a b same => by rw [same.state]]
  · rw [alike.leaseIs _ fun a b same => by rw [same.state]]
  · rw [alike.leaseIs _ fun a b same => by rw [same.state, same.releaseReason]]
  · rw [alike.leaseIs _ fun a b same => by rw [same.state, same.releaseReason]]
  · rw [alike.leaseIs _ fun a b same => by rw [same.state, same.releaseReason]]
  · rw [alike.leaseIs _ fun a b same => by rw [same.state, same.releaseReason]]
  · rfl

theorem runStateAllowed (alike : first.Alike second) {old old' new new' : ScanRunRow}
    (before : old.Alike old') (after : new.Alike new') :
    first.runStateAllowed old new = second.runStateAllowed old' new' := by
  have jobs : (first.jobs.rows.all fun job =>
        job.activeScanRunId != some new.id || job.volumeId != new.volumeId ||
          runStateFitsJob new.state job.state) =
      second.jobs.rows.all fun job =>
        job.activeScanRunId != some new'.id || job.volumeId != new'.volumeId ||
          runStateFitsJob new'.state job.state :=
    Table.all_of_forall₂ alike.jobs fun a b same => by
      rw [same.activeScanRunId, same.volumeId, same.state, after.id, after.volumeId, after.state]
  have error : lastErrorAllowed new = lastErrorAllowed new' := by
    unfold lastErrorAllowed
    rw [after.lastError, after.state]
  unfold Database.runStateAllowed Database.stageSealed
  rw [jobs, error, alike.runControlGate before after, alike.sessions, alike.stageSeals,
    before.state, before.stateVersion, after.state, after.stateVersion, after.id, after.volumeId]

theorem jobControlGate (alike : first.Alike second) {old old' new new' : ScanJobRow}
    (before : old.Alike old') (after : new.Alike new') :
    first.jobControlGate old new = second.jobControlGate old' new' := by
  have leases : List.Forall₂ RuntimeLeaseRow.Alike
      (first.leases.rows.filter fun lease => lease.scanJobId = old.id)
      (second.leases.rows.filter fun lease => lease.scanJobId = old'.id) :=
    Table.filter_of_forall₂ alike.leases fun a b same => by rw [same.scanJobId, before.id]
  have stored : ((first.leases.rows.filter fun lease => lease.scanJobId = old.id).any fun lease =>
        old.activeScanRunId = some lease.scanRunId) =
      (second.leases.rows.filter fun lease => lease.scanJobId = old'.id).any fun lease =>
        old'.activeScanRunId = some lease.scanRunId :=
    Table.any_of_forall₂ leases fun a b same => by rw [same.scanRunId, before.activeScanRunId]
  unfold Database.jobControlGate
  dsimp only
  rw [stored, before.state, after.state, after.stateVersion]
  congr 1
  have ends : ∀ a b, RuntimeLeaseRow.Alike a b →
      ((first.runs.get? a.scanRunId).any fun run =>
          a.releaseReason.any fun reason => releaseFitsJob reason run.state new'.state) =
        (second.runs.get? b.scanRunId).any fun run =>
          b.releaseReason.any fun reason => releaseFitsJob reason run.state new'.state := by
    intro a b same
    rw [same.scanRunId, same.releaseReason]
    exact Table.any_of_rel (alike.run b.scanRunId) fun _ _ run => by rw [run.state]
  split
  · exact Table.any_of_forall₂ leases fun a b same => by
      rw [same.state, same.scanRunId, alike.requestsOf, alike.checkpoints]
  · exact Table.any_of_forall₂ leases fun a b same => by
      rw [same.state, same.scanRunId, alike.hasPendingKind]
  · exact Table.any_of_forall₂ leases fun a b same => by rw [same.state, ends a b same]
  · exact Table.any_of_forall₂ leases fun a b same => by rw [same.state, ends a b same]
  · exact Table.any_of_forall₂ leases fun a b same => by rw [same.state, ends a b same]
  · rfl

theorem jobStateAllowed (alike : first.Alike second) {old old' new new' : ScanJobRow}
    (before : old.Alike old') (after : new.Alike new') :
    first.jobStateAllowed old new = second.jobStateAllowed old' new' := by
  have runs : (first.runs.rows.any fun run =>
        new.activeScanRunId = some run.id && run.volumeId = new.volumeId &&
          jobStateFitsRun new.state run.state) =
      second.runs.rows.any fun run =>
        new'.activeScanRunId = some run.id && run.volumeId = new'.volumeId &&
          jobStateFitsRun new'.state run.state :=
    Table.any_of_forall₂ alike.runs fun a b same => by
      rw [same.id, same.volumeId, same.state, after.activeScanRunId, after.volumeId, after.state]
  unfold Database.jobStateAllowed
  rw [runs, alike.jobControlGate before after, before.state, before.stateVersion, after.state,
    after.stateVersion]

theorem acknowledgementAllowed (alike : first.Alike second) {old new new' : ControlRequestRow}
    (job : new.ackJobStateVersion = new'.ackJobStateVersion)
    (run : new.ackRunStateVersion = new'.ackRunStateVersion)
    (generation : new.ackCheckpointGeneration = new'.ackCheckpointGeneration)
    (key : new.pauseCheckpointWriteKey = new'.pauseCheckpointWriteKey)
    (digest : new.pauseCheckpointPayloadDigest = new'.pauseCheckpointPayloadDigest) :
    first.acknowledgementAllowed old new = second.acknowledgementAllowed old new' := by
  unfold Database.acknowledgementAllowed Database.generationBefore
  rw [job, run, generation, key, digest, alike.checkpointsOf, alike.requests]
  refine Table.any_of_rel (alike.lease _) fun a b lease => ?_
  rw [lease.volumeId, lease.runtimeLeaseKey, lease.scanRunId, lease.scanJobId, lease.state,
    lease.releaseReason, alike.checkpointsOf]
  congr 1
  refine Table.any_of_rel (alike.run _) fun a b run => ?_
  rw [run.stateVersion, run.state]
  congr 1
  refine Table.any_of_rel (alike.job _) fun a b job => ?_
  rw [job.stateVersion, job.state]

theorem mayEnd (alike : first.Alike second) (scanRunId scanJobId : Int) (reason : ReleaseReason) :
    first.mayEnd scanRunId scanJobId reason = second.mayEnd scanRunId scanJobId reason := by
  refine Table.any_of_rel (alike.run _) fun a b run => ?_
  refine Table.any_of_rel (alike.job _) fun c d job => ?_
  rw [run.state, job.state]

/-! ## Statements -/

theorem withReleasing (database : Database Rest) (scanRunId : Int) (reason : ReleaseReason)
    (nowMs laterMs : Int) :
    (database.withReleasing scanRunId reason nowMs).Alike
      (database.withReleasing scanRunId reason laterMs) :=
  { refl database with
    leases := by
      refine (refl database).leases.modify ?_ ?_ ?_ ?_
      · exact fun _ _ same => same.scanRunId
      · exact fun _ => rfl
      · exact fun _ => rfl
      · intro a b same
        exact ⟨same.scanRunId, same.volumeId, same.scanJobId, same.runtimeLeaseKey, rfl, rfl⟩ }

theorem withMovedRun (alike : first.Alike second) (scanRunId : Int) (target : ScanRunState)
    (version nowMs laterMs : Int) (lastError : Option (String × String)) :
    (first.withMovedRun scanRunId target version nowMs lastError).Alike
      (second.withMovedRun scanRunId target version laterMs lastError) :=
  { alike with
    runs := by
      refine alike.runs.modify ?_ ?_ ?_ ?_
      · exact fun _ _ same => same.id
      · exact fun _ => rfl
      · exact fun _ => rfl
      · exact fun a b same => same.moved target version nowMs laterMs lastError }

theorem withMovedJob (alike : first.Alike second) (scanJobId : Int) (target : ScanJobState)
    (version nowMs laterMs : Int) :
    (first.withMovedJob scanJobId target version nowMs).Alike
      (second.withMovedJob scanJobId target version laterMs) :=
  { alike with
    jobs := by
      refine alike.jobs.modify ?_ ?_ ?_ ?_
      · exact fun _ _ same => same.id
      · exact fun _ => rfl
      · exact fun _ => rfl
      · exact fun a b same => same.moved target version nowMs laterMs }

theorem ended (database : Database Rest) (scanRunId scanJobId : Int) (kind : EndOfLease)
    (nowMs laterMs : Int) :
    (database.ended scanRunId scanJobId kind nowMs).Alike
      (database.ended scanRunId scanJobId kind laterMs) :=
  (((withReleasing database scanRunId kind.reason nowMs laterMs).withMovedRun _ _ _ _ _
    _).withMovedJob _ _ _ _ _)

end Database.Alike

section Moves

variable {first second : Database Rest}

/-- A run that is moved at one clock is moved at any other from its last update on. -/
theorem MovedRun.at_clock (alike : first.Alike second) {scanRunId expectedVersion nowMs laterMs : Int}
    {expectedState target : ScanRunState} {lastError : Option (String × String)} {row : ScanRunRow}
    (moved : MovedRun second scanRunId expectedState expectedVersion target laterMs lastError row)
    (found : first.runs.get? scanRunId = some row) (nonnegative : 0 ≤ nowMs)
    (clock : row.updatedAtMs ≤ nowMs) :
    MovedRun first scanRunId expectedState expectedVersion target nowMs lastError row :=
  { moved with
    nonnegative := ⟨moved.nonnegative.1, nonnegative⟩
    found := found
    clock := clock
    allowed := by
      have after := (ScanRunRow.Alike.refl row).moved target (expectedVersion + 1) nowMs laterMs
        lastError
      rw [alike.runStateAllowed (.refl row) after]
      exact moved.allowed }

theorem MovedJob.at_clock (alike : first.Alike second) {scanJobId expectedVersion nowMs laterMs : Int}
    {expectedState target : ScanJobState} {row : ScanJobRow}
    (moved : MovedJob second scanJobId expectedState expectedVersion target laterMs row)
    (found : first.jobs.get? scanJobId = some row) (nonnegative : 0 ≤ nowMs)
    (clock : row.updatedAtMs ≤ nowMs) :
    MovedJob first scanJobId expectedState expectedVersion target nowMs row :=
  { moved with
    nonnegative := ⟨moved.nonnegative.1, nonnegative⟩
    found := found
    clock := clock
    allowed := by
      have after := (ScanJobRow.Alike.refl row).moved target (expectedVersion + 1) nowMs laterMs
      rw [alike.jobStateAllowed (.refl row) after]
      exact moved.allowed }

end Moves

/-- A lease that ends at one clock ends at any other from the last update of run and job on. -/
theorem Ending.at_clock {database : Database Rest} {scanRunId scanJobId : Int} {kind : EndOfLease}
    {nowMs laterMs : Int} {lease : RuntimeLeaseRow} {run : ScanRunRow} {job : ScanJobRow}
    (ending : Ending database scanRunId scanJobId kind laterMs lease run job)
    (nonnegative : 0 ≤ nowMs) (runClock : run.updatedAtMs ≤ nowMs)
    (jobClock : job.updatedAtMs ≤ nowMs) :
    Ending database scanRunId scanJobId kind nowMs lease run job := by
  have releasing := Database.Alike.withReleasing database scanRunId kind.reason nowMs laterMs
  have moved := releasing.withMovedRun scanRunId kind.runTarget (kind.runVersion + 1) nowMs laterMs
    kind.lastError
  exact
    { nonnegative := nonnegative
      found := ending.found
      active := ending.active
      run := ending.run.at_clock releasing ending.run.found nonnegative runClock
      job := ending.job.at_clock moved ending.job.found nonnegative jobClock }

end Guiying.Store
