import Guiying.Store.ControlTables

/-!
# The triggers of scan control

What the schema asks of a statement on one of the control tables. A statement
that a trigger aborts leaves the tables as they are.
-/

namespace Guiying.Store

open Guiying.Foundation

/-! ## Runs and jobs -/

def runStateEdge : ScanRunState → ScanRunState → Bool
  | .queued, .running | .queued, .cancelled | .queued, .interrupted => true
  | .running, .paused | .running, .completed | .running, .failed | .running, .cancelled
  | .running, .interrupted => true
  | .paused, .running | .paused, .failed | .paused, .cancelled | .paused, .interrupted => true
  | _, _ => false

def jobStateEdge : ScanJobState → ScanJobState → Bool
  | .queued, .running | .queued, .failed | .queued, .cancelled => true
  | .running, .paused | .running, .completed | .running, .failed | .running, .cancelled => true
  | .paused, .running | .paused, .failed | .paused, .cancelled => true
  | .failed, .running | .failed, .cancelled => true
  | .completed, .running => true
  | .cancelled, .running => true
  | _, _ => false

/-- The states a run may enter while its job is in a state. -/
def runStateFitsJob : ScanRunState → ScanJobState → Bool
  | .queued, .queued | .queued, .running | .queued, .failed => true
  | .running, .running => true
  | .paused, .running | .paused, .paused => true
  | .completed, .running | .completed, .completed => true
  | .failed, .running | .failed, .paused | .failed, .failed => true
  | .interrupted, .queued | .interrupted, .running | .interrupted, .paused
  | .interrupted, .failed => true
  | .cancelled, .queued | .cancelled, .running | .cancelled, .paused
  | .cancelled, .cancelled => true
  | _, _ => false

/-- The states a job may enter while its active run is in a state. -/
def jobStateFitsRun : ScanJobState → ScanRunState → Bool
  | .queued, .queued => true
  | .running, .queued | .running, .running | .running, .paused => true
  | .paused, .paused => true
  | .completed, .completed | .completed, .queued => true
  | .failed, .queued | .failed, .failed | .failed, .interrupted => true
  | .cancelled, .cancelled | .cancelled, .failed | .cancelled, .interrupted
  | .cancelled, .queued => true
  | _, _ => false

/-- The release that a terminal state of a run asks for. -/
def releaseFitsRun : ReleaseReason → ScanRunState → Bool
  | .completed, .completed => true
  | .failed, .failed => true
  | .cancelled, .cancelled | .processRestart, .cancelled => true
  | .interrupted, .interrupted | .processRestart, .interrupted => true
  | _, _ => false

/-- The release that a terminal state of a job asks for, with the state of its run. -/
def releaseFitsJob : ReleaseReason → ScanRunState → ScanJobState → Bool
  | .completed, _, .completed => true
  | .failed, _, .failed => true
  | .interrupted, .interrupted, .failed | .processRestart, .interrupted, .failed => true
  | .cancelled, .cancelled, .cancelled | .processRestart, .cancelled, .cancelled => true
  | _, _, _ => false

/-- The states of run and job with which a release may end. -/
def releaseEnds : ReleaseReason → ScanRunState → ScanJobState → Bool
  | .completed, .completed, .completed => true
  | .failed, .failed, .failed => true
  | .cancelled, .cancelled, .cancelled => true
  | .interrupted, .interrupted, .failed | .interrupted, .cancelled, .cancelled => true
  | .processRestart, .interrupted, .failed | .processRestart, .cancelled, .cancelled => true
  | _, _, _ => false

def isErrorState (state : ScanRunState) : Bool := state = .failed || state = .interrupted

/-- `trg_scan_runs_last_error_v4`. -/
def lastErrorAllowed (row : ScanRunRow) : Bool :=
  match row.lastError with
  | some (code, message) =>
      isErrorState row.state &&
        decide (1 ≤ Decimal.byteLength code.toList ∧ Decimal.byteLength code.toList ≤ 1024 ∧
          1 ≤ Decimal.byteLength message.toList ∧ Decimal.byteLength message.toList ≤ 65536)
  | none => !isErrorState row.state

namespace Database

variable {Rest : Type} (database : Database Rest)

def leaseIs (scanRunId : Int) (condition : RuntimeLeaseRow → Bool) : Bool :=
  (database.leases.get? scanRunId).any condition

/-- `trg_scan_runs_runtime_control_gate_v8`. -/
def runControlGate (old new : ScanRunRow) : Bool :=
  (database.leases.get? old.id).isNone ||
  (match old.state, new.state with
    | .running, .paused =>
        database.leaseIs old.id (fun lease => lease.state = .active) &&
          (database.requestsOf old.id).any fun request =>
            isPending request && request.kind = .pause &&
              database.checkpoints.rows.any fun checkpoint =>
                checkpoint.pauseRequestId = request.id &&
                  checkpoint.runStateVersion = new.stateVersion
    | .paused, .running =>
        database.leaseIs old.id (fun lease => lease.state = .active) &&
          database.hasPendingKind old.id .resume
    | _, .cancelled =>
        database.leaseIs old.id (fun lease =>
          lease.state = .releasing && lease.releaseReason.any (releaseFitsRun · .cancelled)) &&
          database.hasPendingKind old.id .cancel
    | _, .completed | _, .failed | _, .interrupted =>
        database.leaseIs old.id (fun lease =>
          lease.state = .releasing && lease.releaseReason.any (releaseFitsRun · new.state)) &&
          !database.hasPending old.id
    | _, _ => false)

/-- The triggers of `UPDATE OF state ON scan_runs`. -/
def runStateAllowed (old new : ScanRunRow) : Bool :=
  runStateEdge old.state new.state && new.stateVersion = old.stateVersion + 1 &&
    (database.jobs.rows.all fun job =>
      job.activeScanRunId != some new.id || job.volumeId != new.volumeId ||
        runStateFitsJob new.state job.state) &&
    (new.state != .running ||
      (database.sessions.get? new.id).any fun session =>
        session.volumeId = new.volumeId && session.current) &&
    (new.state != .completed || database.stageSealed new.id "exact_verification") &&
    lastErrorAllowed new && database.runControlGate old new

/-- `trg_scan_jobs_runtime_control_gate_v8`. -/
def jobControlGate (old new : ScanJobRow) : Bool :=
  let leases := database.leases.rows.filter fun lease => lease.scanJobId = old.id
  (!leases.any fun lease => old.activeScanRunId = some lease.scanRunId) ||
  (match old.state, new.state with
    | .running, .paused =>
        leases.any fun lease => lease.state = .active &&
          (database.requestsOf lease.scanRunId).any fun request =>
            isPending request && request.kind = .pause &&
              database.checkpoints.rows.any fun checkpoint =>
                checkpoint.pauseRequestId = request.id &&
                  checkpoint.jobStateVersion = new.stateVersion
    | .paused, .running =>
        leases.any fun lease => lease.state = .active &&
          database.hasPendingKind lease.scanRunId .resume
    | _, .completed | _, .failed | _, .cancelled =>
        leases.any fun lease => lease.state = .releasing &&
          (database.runs.get? lease.scanRunId).any fun run =>
            lease.releaseReason.any fun reason => releaseFitsJob reason run.state new.state
    | _, _ => false)

/-- The triggers of `UPDATE OF state ON scan_jobs`, for a job with an active run. -/
def jobStateAllowed (old new : ScanJobRow) : Bool :=
  jobStateEdge old.state new.state && new.stateVersion = old.stateVersion + 1 &&
    ((database.runs.rows.any fun run =>
      new.activeScanRunId = some run.id && run.volumeId = new.volumeId &&
        jobStateFitsRun new.state run.state)) &&
    database.jobControlGate old new

/-! ## Leases -/

/-- `trg_scan_runtime_leases_insert_guard_v8`. -/
def leaseInsertAllowed (new : RuntimeLeaseRow) : Bool :=
  new.state = .active && new.acquiredAtMs = new.lastHeartbeatAtMs &&
    (database.runs.get? new.scanRunId).any fun run =>
      run.volumeId = new.volumeId && run.state = .running &&
      (database.jobs.get? new.scanJobId).any fun job =>
        job.volumeId = new.volumeId && job.activeScanRunId = some run.id && job.state = .running &&
      (database.sessions.get? run.id).any fun session =>
        session.volumeId = run.volumeId && session.mountSessionKey = new.mountSessionKey &&
        session.capabilityProfileId = new.capabilityProfileId &&
        session.namespaceProfileId = new.namespaceProfileId &&
      (database.coreSessions.get? run.id).any fun core =>
        core.volumeId = run.volumeId && core.coreSessionId = new.coreSessionId &&
        core.capabilityProfileId = new.capabilityProfileId &&
        core.namespaceProfileId = new.namespaceProfileId && core.boundAtMs ≤ new.acquiredAtMs

/-- The columns of a lease that no statement may change. -/
def sameLease (old new : RuntimeLeaseRow) : Bool :=
  new.scanRunId = old.scanRunId && new.volumeId = old.volumeId && new.scanJobId = old.scanJobId &&
    new.capabilityProfileId = old.capabilityProfileId &&
    new.namespaceProfileId = old.namespaceProfileId && new.runtimeLeaseKey = old.runtimeLeaseKey &&
    new.coreSessionId = old.coreSessionId && new.mountSessionKey = old.mountSessionKey &&
    new.workPlanDigest = old.workPlanDigest && new.acquiredAtMs = old.acquiredAtMs

def sameEvidence (old new : RuntimeLeaseRow) : Bool :=
  new.directoryEvidenceCount = old.directoryEvidenceCount &&
    new.fileEvidenceCount = old.fileEvidenceCount &&
    new.directoryEvidenceDigest = old.directoryEvidenceDigest &&
    new.fileEvidenceDigest = old.fileEvidenceDigest &&
    new.evidenceChainDigest = old.evidenceChainDigest

/-- One more directory or one more file, with new digests. -/
def oneMoreEvidence (old new : RuntimeLeaseRow) : Bool :=
  new.evidenceChainDigest != old.evidenceChainDigest &&
    (new.directoryEvidenceCount = old.directoryEvidenceCount + 1 &&
        new.fileEvidenceCount = old.fileEvidenceCount &&
        new.directoryEvidenceDigest != old.directoryEvidenceDigest &&
        new.fileEvidenceDigest = old.fileEvidenceDigest ||
      new.directoryEvidenceCount = old.directoryEvidenceCount &&
        new.fileEvidenceCount = old.fileEvidenceCount + 1 &&
        new.directoryEvidenceDigest = old.directoryEvidenceDigest &&
        new.fileEvidenceDigest != old.fileEvidenceDigest)

/-- `trg_scan_runtime_leases_update_guard_v8`. -/
def leaseUpdateAllowed (old new : RuntimeLeaseRow) : Bool :=
  sameLease old new &&
    match old.state, new.state with
    | .active, .active =>
        new.releaseReason.isNone &&
          (sameEvidence old new && decide (old.lastHeartbeatAtMs ≤ new.lastHeartbeatAtMs) ||
            new.lastHeartbeatAtMs = old.lastHeartbeatAtMs && oneMoreEvidence old new)
    | .active, .releasing =>
        new.lastHeartbeatAtMs = old.lastHeartbeatAtMs && sameEvidence old new &&
          new.releaseReason.isSome &&
          new.releaseStartedAtMs.any fun started => old.lastHeartbeatAtMs ≤ started
    | .releasing, .released =>
        new.lastHeartbeatAtMs = old.lastHeartbeatAtMs && sameEvidence old new &&
          new.releaseReason = old.releaseReason &&
          new.releaseStartedAtMs = old.releaseStartedAtMs &&
          (old.releaseStartedAtMs.any fun started => new.releasedAtMs.any (started ≤ ·)) &&
          (database.runs.get? old.scanRunId).any fun run =>
            (database.jobs.get? old.scanJobId).any fun job =>
              old.releaseReason.any fun reason => releaseEnds reason run.state job.state
    | _, _ => false

/-! ## Requests -/

/-- The checkpoint that a resume names: the latest, of the request acknowledged last. -/
def resumeCheckpointAllowed (new : ControlRequestRow) : Bool :=
  (database.checkpointsOf new.scanRunId).any fun checkpoint =>
    new.expectedCheckpointGeneration = some checkpoint.generation &&
      checkpoint.runtimeLeaseKey = new.runtimeLeaseKey &&
      ((database.latestCheckpoint new.scanRunId).map PauseCheckpointRow.generation =
        some checkpoint.generation) &&
      ((database.latestAcknowledged new.scanRunId).map ControlRequestRow.id =
        some checkpoint.pauseRequestId)

/-- `trg_scan_control_requests_insert_guard_v8`. -/
def requestInsertAllowed (new : ControlRequestRow) : Bool :=
  new.disposition = .pending &&
    new.sequence = database.lastSequence new.scanRunId + 1 &&
    (!(database.requestsOf new.scanRunId).any fun request => request.kind = .cancel) &&
    (!database.hasPending new.scanRunId) &&
    (database.leases.get? new.scanRunId).any fun lease =>
      lease.volumeId = new.volumeId && lease.runtimeLeaseKey = new.runtimeLeaseKey &&
      lease.state = .active && decide (lease.lastHeartbeatAtMs ≤ new.requestedAtMs) &&
      (database.runs.get? lease.scanRunId).any fun run =>
        run.stateVersion = new.expectedRunStateVersion &&
      (database.jobs.get? lease.scanJobId).any fun job =>
        job.stateVersion = new.expectedJobStateVersion &&
        (match new.kind with
          | .pause => run.state = .running && job.state = .running
          | .resume =>
              run.state = .paused && job.state = .paused && database.resumeCheckpointAllowed new
          | .cancel =>
              (run.state = .running || run.state = .paused) &&
                (job.state = .running || job.state = .paused))

/-- The columns of a request that no statement may change. -/
def sameRequest (old new : ControlRequestRow) : Bool :=
  new.id = old.id && new.requestKey = old.requestKey && new.scanRunId = old.scanRunId &&
    new.volumeId = old.volumeId && new.runtimeLeaseKey = old.runtimeLeaseKey &&
    new.sequence = old.sequence && new.kind = old.kind &&
    new.expectedJobStateVersion = old.expectedJobStateVersion &&
    new.expectedRunStateVersion = old.expectedRunStateVersion &&
    new.expectedCheckpointGeneration = old.expectedCheckpointGeneration &&
    new.requestedAtMs = old.requestedAtMs

/-- The highest generation of the pauses before a request. -/
def generationBefore (request : ControlRequestRow) : Option Int :=
  let before := (database.checkpointsOf request.scanRunId).filter fun checkpoint =>
    (database.requests.get? checkpoint.pauseRequestId).any fun pause =>
      pause.sequence < request.sequence
  (highest PauseCheckpointRow.generation before).map PauseCheckpointRow.generation

/-- The state of lease, run, job and checkpoints that an acknowledgement states. -/
def acknowledgementAllowed (old new : ControlRequestRow) : Bool :=
  (database.leases.get? old.scanRunId).any fun lease =>
    lease.volumeId = old.volumeId && lease.runtimeLeaseKey = old.runtimeLeaseKey &&
    (database.runs.get? lease.scanRunId).any fun run =>
      new.ackRunStateVersion = some run.stateVersion &&
    (database.jobs.get? lease.scanJobId).any fun job =>
      new.ackJobStateVersion = some job.stateVersion &&
      (match old.kind with
        | .pause =>
            lease.state = .active && job.state = .paused && run.state = .paused &&
              (database.checkpointsOf lease.scanRunId).any fun checkpoint =>
                checkpoint.pauseRequestId = old.id &&
                  new.ackCheckpointGeneration = some checkpoint.generation &&
                  new.pauseCheckpointWriteKey = some checkpoint.writeKey &&
                  new.pauseCheckpointPayloadDigest = some checkpoint.payloadDigest &&
                  new.ackJobStateVersion = some checkpoint.jobStateVersion &&
                  new.ackRunStateVersion = some checkpoint.runStateVersion
        | .resume =>
            lease.state = .active && job.state = .running && run.state = .running &&
              (database.checkpointsOf lease.scanRunId).any fun checkpoint =>
                old.expectedCheckpointGeneration = some checkpoint.generation &&
                  new.ackCheckpointGeneration = some checkpoint.generation
        | .cancel =>
            lease.state = .releasing &&
              (lease.releaseReason.any fun reason =>
                reason = .cancelled || reason = .processRestart) &&
              job.state = .cancelled && run.state = .cancelled &&
              new.ackCheckpointGeneration = database.generationBefore old)

/-- `trg_scan_control_requests_update_guard_v8`. -/
def requestUpdateAllowed (old new : ControlRequestRow) : Bool :=
  sameRequest old new && isPending old &&
    (new.acknowledgedAtMs.any fun acknowledged => old.requestedAtMs ≤ acknowledged) &&
    match new.disposition with
    | .acknowledged =>
        new.ackJobStateVersion = some (old.expectedJobStateVersion + 1) &&
          new.ackRunStateVersion = some (old.expectedRunStateVersion + 1) &&
          new.ackReasonCode.isSome && new.supersededByRequestId.isNone &&
          database.acknowledgementAllowed old new
    | .interrupted =>
        (old.kind = .pause || old.kind = .resume) &&
          new.ackReasonCode = some "PROCESS_RESTART" && new.supersededByRequestId.isNone &&
          (database.leases.get? old.scanRunId).any fun lease =>
            lease.runtimeLeaseKey = old.runtimeLeaseKey && lease.state = .releasing &&
              lease.releaseReason = some .processRestart
    | .superseded =>
        new.ackReasonCode = some "CANCEL_DOMINATED" && new.supersededByRequestId.isSome
    | .pending => false

/-! ## Checkpoints -/

/-- A checkpoint continues the one before it. -/
def checkpointContinues (previous new : PauseCheckpointRow) : Bool :=
  previous.volumeId = new.volumeId && previous.runtimeLeaseKey = new.runtimeLeaseKey &&
    previous.coreSessionId = new.coreSessionId && previous.mountSessionKey = new.mountSessionKey &&
    previous.workPlanDigest = new.workPlanDigest &&
    (database.requests.get? previous.pauseRequestId).any fun previousRequest =>
      (database.requests.get? new.pauseRequestId).any fun request =>
        decide (previousRequest.sequence < request.sequence ∧
          previous.discoveredCount ≤ new.discoveredCount ∧
          previous.fingerprintedCount ≤ new.fingerprintedCount ∧
          previous.errorCount ≤ new.errorCount ∧
          previous.logicalBytesSeen ≤ new.logicalBytesSeen ∧
          previous.savedAtMs ≤ new.savedAtMs ∧
          previous.cursor.nextDirectoryOrdinal ≤ new.cursor.nextDirectoryOrdinal ∧
          previous.cursor.nextFileOrdinal ≤ new.cursor.nextFileOrdinal)

/-- `COALESCE(max(generation) + 1, 1)` over the checkpoints of a run. -/
def nextGeneration (scanRunId : Int) : Int :=
  ((database.latestCheckpoint scanRunId).map PauseCheckpointRow.generation).getD 0 + 1

/-- `trg_scan_pause_checkpoints_insert_guard_v8`. -/
def checkpointInsertAllowed (new : PauseCheckpointRow) : Bool :=
  new.generation = database.nextGeneration new.scanRunId &&
    (new.generation = 1 ||
      (database.checkpoints.get? (new.scanRunId, new.generation - 1)).any fun previous =>
        database.checkpointContinues previous new) &&
    (database.leases.get? new.scanRunId).any fun lease =>
      lease.volumeId = new.volumeId && lease.runtimeLeaseKey = new.runtimeLeaseKey &&
      lease.coreSessionId = new.coreSessionId && lease.mountSessionKey = new.mountSessionKey &&
      lease.state = .active &&
      decide ((new.cursor.nextDirectoryOrdinal : Int) = lease.directoryEvidenceCount) &&
      decide ((new.cursor.nextFileOrdinal : Int) = lease.fileEvidenceCount) &&
      new.workPlanDigest = lease.workPlanDigest &&
      new.evidenceManifestDigest = lease.evidenceChainDigest &&
      (database.requests.get? new.pauseRequestId).any fun request =>
        request.requestKey = new.pauseRequestKey && request.kind = .pause && isPending request &&
        request.scanRunId = new.scanRunId && request.volumeId = new.volumeId &&
        request.runtimeLeaseKey = new.runtimeLeaseKey && decide (request.requestedAtMs ≤ new.savedAtMs) &&
      (database.runs.get? new.scanRunId).any fun run =>
        run.state = .running && new.runStateVersion = run.stateVersion + 1 &&
        new.discoveredCount = run.discoveredCount &&
        new.fingerprintedCount = run.fingerprintedCount && new.errorCount = run.errorCount &&
        new.logicalBytesSeen = run.logicalBytesSeen &&
      (database.jobs.get? lease.scanJobId).any fun job =>
        job.state = .running && new.jobStateVersion = job.stateVersion + 1

end Database

end Guiying.Store
