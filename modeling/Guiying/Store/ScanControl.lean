import Guiying.Store.ControlDigests

/-!
# Scan control

The operations of one transaction on a leased run: the core session is bound, the
lease acquired, evidence and progress recorded, a pause, a resume or a cancel
requested and acknowledged, and the run and its job are moved to a terminal state
together.
-/

namespace Guiying.Store

open Guiying.Foundation Guiying.Foundation.MachineInt

variable {Rest : Type} (hash : List UInt8 → Bytes32)

/-! ## The core session and the lease -/

structure CoreSessionInput where
  coreSessionId : Bytes32
  rootObjectSignature : Bytes32
  rootSourceSignature : Bytes32
  boundAtMs : Int
  deriving DecidableEq

def coreSessionRow (guard : RunEvidenceGuard) (context : BoundRunContext)
    (input : CoreSessionInput) : CoreSessionRow where
  scanRunId := guard.scanRunId
  volumeId := context.volumeId
  capabilityProfileId := context.capabilityProfileId
  namespaceProfileId := context.namespaceProfileId
  coreSessionId := input.coreSessionId
  rootObjectSignature := input.rootObjectSignature
  rootSourceSignature := input.rootSourceSignature
  boundAtMs := input.boundAtMs

/-- `trg_scan_core_sessions_insert_guard_v6`. -/
def Database.coreSessionAllowed (database : Database Rest) (new : CoreSessionRow) : Bool :=
  ((database.runs.get? new.scanRunId).any fun run =>
    run.volumeId = new.volumeId && run.state = .running &&
    (database.sessions.get? run.id).any fun session =>
      session.volumeId = run.volumeId && session.capabilityProfileId = new.capabilityProfileId &&
      session.namespaceProfileId = new.namespaceProfileId &&
      session.rootObjectSignature = new.rootObjectSignature && session.current &&
      session.createdAtMs ≤ new.boundAtMs) &&
    !database.stageSealed new.scanRunId "enumeration"

def insertCoreSession (row : CoreSessionRow) : Tx Rest PUnit :=
  statement fun database =>
    if database.coreSessionAllowed row then
      match database.coreSessions.insert row with
      | some after => .ok (⟨⟩, { database with coreSessions := after })
      | none => .error .sqlite
    else .error .sqlite

def bindCoreSession (guard : RunEvidenceGuard) (input : CoreSessionInput) : Tx Rest PUnit := do
  let context ← validateV5RunGuard guard
  requireNonnegative "bound_at_ms" input.boundAtMs
  let tx ← Program.current
  let membership := (guard.scanRunId, input.coreSessionId)
  match tx.database.coreSessions.get? guard.scanRunId with
  | some existing =>
      if existing = coreSessionRow guard context input then
        Program.ensure (tx.knowsCore membership)
          (.concurrencyConflict "live_core_session_store_instance" guard.scanRunId)
      else
        Program.fail (.idempotencyConflict "core_scan_session" (toString guard.scanRunId))
  | none => do
      insertCoreSession (coreSessionRow guard context input)
      Program.update fun tx =>
        { tx with boundCoreSessions := tx.boundCoreSessions ++ [membership] }

structure AcquireRuntimeLeaseInput where
  leaseKey : Bytes32
  coreSessionId : Bytes32
  acquiredAtMs : Int
  deriving DecidableEq

def runtimeWorkPlanDigest (database : Database Rest) (scanRunId : Int)
    (leaseKey coreSessionId : Bytes32) : Result Bytes32 :=
  match database.sessions.get? scanRunId, database.coreSessions.get? scanRunId with
  | some session, some core =>
      if core.volumeId = session.volumeId ∧ core.coreSessionId = coreSessionId then
        .ok (computeRuntimeWorkPlanDigest hash session core leaseKey coreSessionId)
      else .error .sqlite
  | _, _ => .error .sqlite

def acquiredLeaseRow (guard : RunEvidenceGuard) (context : BoundRunContext)
    (input : AcquireRuntimeLeaseInput) (workPlanDigest : Bytes32) : RuntimeLeaseRow :=
  let directoryDigest := emptyRuntimeEvidenceDigest hash "directory\x00" workPlanDigest
  let fileDigest := emptyRuntimeEvidenceDigest hash "file\x00" workPlanDigest
  { scanRunId := guard.scanRunId
    volumeId := context.volumeId
    scanJobId := context.scanJobId
    capabilityProfileId := context.capabilityProfileId
    namespaceProfileId := context.namespaceProfileId
    runtimeLeaseKey := input.leaseKey
    coreSessionId := input.coreSessionId
    mountSessionKey := guard.mountSessionKey
    workPlanDigest := workPlanDigest
    directoryEvidenceCount := 0
    fileEvidenceCount := 0
    directoryEvidenceDigest := directoryDigest
    fileEvidenceDigest := fileDigest
    evidenceChainDigest :=
      combineRuntimeEvidenceDigests hash workPlanDigest 0 directoryDigest 0 fileDigest
    state := .active
    acquiredAtMs := input.acquiredAtMs
    lastHeartbeatAtMs := input.acquiredAtMs
    releaseReason := none
    releaseStartedAtMs := none
    releasedAtMs := none }

/-- An existing lease answers the call that acquired it once more. -/
def answersAcquire (existing : RuntimeLeaseRow) (guard : RunEvidenceGuard)
    (context : BoundRunContext) (input : AcquireRuntimeLeaseInput) (workPlanDigest : Bytes32) :
    Bool :=
  existing.runtimeLeaseKey = input.leaseKey && existing.coreSessionId = input.coreSessionId &&
    existing.mountSessionKey = guard.mountSessionKey && existing.state = .active &&
    existing.acquiredAtMs = input.acquiredAtMs && existing.volumeId = context.volumeId &&
    existing.scanJobId = context.scanJobId &&
    existing.capabilityProfileId = context.capabilityProfileId &&
    existing.namespaceProfileId = context.namespaceProfileId &&
    existing.workPlanDigest = workPlanDigest

def insertLease (row : RuntimeLeaseRow) : Tx Rest PUnit :=
  statement fun database =>
    if database.leaseInsertAllowed row ∧
        row.runtimeLeaseKey ∉ database.leases.rows.map RuntimeLeaseRow.runtimeLeaseKey then
      match database.leases.insert row with
      | some after => .ok (⟨⟩, { database with leases := after })
      | none => .error .sqlite
    else .error .sqlite

/-- `evidenceExists` says whether directories or files of the run were recorded before. -/
def acquireRuntimeLease (evidenceExists : Rest → Int → Bool) (guard : RunEvidenceGuard)
    (input : AcquireRuntimeLeaseInput) : Tx Rest RuntimeLeaseGuard := do
  let tx ← Program.current
  Program.ensure (tx.storeInstanceKey ≠ noInstance)
    (.concurrencyConflict "runtime_lease_store_instance" guard.scanRunId)
  Program.ensure (tx.knowsCore (guard.scanRunId, input.coreSessionId))
    (.concurrencyConflict "live_runtime_core_session" guard.scanRunId)
  let context ← validateCoreSessionGuard guard input.coreSessionId
  requireNonnegative "acquired_at_ms" input.acquiredAtMs
  let workPlanDigest ← query fun database =>
    runtimeWorkPlanDigest hash database guard.scanRunId input.leaseKey input.coreSessionId
  let lease : RuntimeLeaseGuard := ⟨guard, input.leaseKey, input.coreSessionId, tx.storeInstanceKey⟩
  match tx.database.leases.get? guard.scanRunId with
  | some existing => do
      Program.ensure
        (answersAcquire existing guard context input workPlanDigest && tx.knowsLease lease.membership)
        (.idempotencyConflict "runtime_lease" (toString guard.scanRunId))
      pure lease
  | none => do
      Program.ensure (!evidenceExists tx.database.rest guard.scanRunId)
        (.concurrencyConflict "runtime_lease_preexisting_core_evidence" guard.scanRunId)
      insertLease (acquiredLeaseRow hash guard context input workPlanDigest)
      Program.update fun tx =>
        { tx with acquiredRuntimeLeases := tx.acquiredRuntimeLeases ++ [lease.membership] }
      pure lease

/-! ## Requests -/

structure ScanControlRequestInput where
  requestKey : Bytes32
  kind : ScanControlKind
  expectedJobStateVersion : Int
  expectedRunStateVersion : Int
  expectedCheckpointGeneration : Option Int
  requestedAtMs : Int
  deriving DecidableEq

/-- A stored request is the one that the call asks for. -/
def answersRequest (existing : ControlRequestRow) (guard : RuntimeLeaseGuard)
    (input : ScanControlRequestInput) : Bool :=
  existing.runtimeLeaseKey = guard.leaseKey && existing.scanRunId = guard.scanRunId &&
    existing.kind = input.kind &&
    existing.expectedJobStateVersion = input.expectedJobStateVersion &&
    existing.expectedRunStateVersion = input.expectedRunStateVersion &&
    existing.expectedCheckpointGeneration = input.expectedCheckpointGeneration &&
    existing.requestedAtMs = input.requestedAtMs

def newRequestRow (guard : RuntimeLeaseGuard) (input : ScanControlRequestInput)
    (volumeId id sequence : Int) : ControlRequestRow where
  id := id
  requestKey := input.requestKey
  scanRunId := guard.scanRunId
  volumeId := volumeId
  runtimeLeaseKey := guard.leaseKey
  sequence := sequence
  kind := input.kind
  expectedJobStateVersion := input.expectedJobStateVersion
  expectedRunStateVersion := input.expectedRunStateVersion
  expectedCheckpointGeneration := input.expectedCheckpointGeneration
  disposition := .pending
  requestedAtMs := input.requestedAtMs
  acknowledgedAtMs := none
  ackJobStateVersion := none
  ackRunStateVersion := none
  ackCheckpointGeneration := none
  ackReasonCode := none
  pauseCheckpointWriteKey := none
  pauseCheckpointPayloadDigest := none
  supersededByRequestId := none

/-- The pending pause or resume of the run, as a cancel leaves it. -/
def supersededRow (scanRunId requestedAtMs byId : Int) (row : ControlRequestRow) :
    ControlRequestRow :=
  if row.scanRunId = scanRunId ∧ row.disposition = .pending ∧
      (row.kind = .pause ∨ row.kind = .resume) then
    { row with
      disposition := .superseded
      acknowledgedAtMs := some (max row.requestedAtMs requestedAtMs)
      ackReasonCode := some "CANCEL_DOMINATED"
      supersededByRequestId := some byId }
  else row

theorem supersededRow_id (scanRunId requestedAtMs byId : Int) (row : ControlRequestRow) :
    (supersededRow scanRunId requestedAtMs byId row).id = row.id := by
  unfold supersededRow
  split
  · rfl
  · rfl

def supersedePending (scanRunId requestedAtMs byId : Int) : Tx Rest PUnit :=
  statement fun database =>
    let change := supersededRow scanRunId requestedAtMs byId
    if database.requests.rows.all fun row =>
        change row = row || database.requestUpdateAllowed row (change row) then
      .ok (⟨⟩, { database with
        requests := database.requests.update change (supersededRow_id scanRunId requestedAtMs byId) })
    else .error .sqlite

/-- The keys that no two requests share, next to the rules of the trigger. -/
def insertRequest (row : ControlRequestRow) : Tx Rest PUnit :=
  statement fun database =>
    if database.requestInsertAllowed row ∧
        row.requestKey ∉ database.requests.rows.map ControlRequestRow.requestKey then
      match database.requests.insert row with
      | some after => .ok (⟨⟩, { database with requests := after })
      | none => .error .sqlite
    else .error .sqlite

/-- The versions of the job and the run of an active lease. -/
def leasedVersions (database : Database Rest) (scanRunId : Int) : Option (Int × Int) := do
  let lease ← database.leases.get? scanRunId
  let job ← database.jobs.get? lease.scanJobId
  let run ← database.runs.get? lease.scanRunId
  if lease.state = .active then some (job.stateVersion, run.stateVersion) else none

def requestScanControl (guard : RuntimeLeaseGuard) (input : ScanControlRequestInput) :
    Tx Rest ControlRequestRow := do
  validateRuntimeGuardInstance guard
  let tx ← Program.current
  match tx.database.requests.rows.find? fun row => row.requestKey = input.requestKey with
  | some existing => do
      Program.ensure (answersRequest existing guard input)
        (.idempotencyConflict "scan_control_request" (lowerHex input.requestKey))
      pure existing
  | none => do
      let context ← validateRuntimeLeaseGuard guard
      let versions ← Program.orFail .sqlite (leasedVersions tx.database guard.scanRunId)
      Program.ensure
        (versions = (input.expectedJobStateVersion, input.expectedRunStateVersion))
        (.concurrencyConflict "scan_control_state_version" guard.scanRunId)
      let nextId := tx.database.lastRequestId + 1
      let sequence := tx.database.lastSequence guard.scanRunId + 1
      let row := newRequestRow guard input context.volumeId nextId sequence
      if input.kind = .cancel then
        supersedePending guard.scanRunId input.requestedAtMs nextId
      else pure ⟨⟩
      insertRequest row
      pure row

/-- The pending request that an acknowledgement names. -/
def pendingRequest (database : Database Rest) (guard : RuntimeLeaseGuard) (requestId : Int)
    (requestKey : Bytes32) (kind : ScanControlKind) : Option ControlRequestRow :=
  (database.requests.get? requestId).filter fun row =>
    row.requestKey = requestKey && row.scanRunId = guard.scanRunId &&
      row.runtimeLeaseKey = guard.leaseKey && row.kind = kind && row.disposition = .pending

def requirePendingControlRequest (guard : RuntimeLeaseGuard) (requestId : Int)
    (requestKey : Bytes32) (kind : ScanControlKind) : Tx Rest ControlRequestRow := do
  requirePositive "control_request_id" requestId
  query fun database =>
    Outcome.orError (.concurrencyConflict "pending_scan_control_request" requestId)
      (pendingRequest database guard requestId requestKey kind)

/-- The request as an acknowledgement leaves it. -/
def ControlRequestRow.acknowledged (row : ControlRequestRow) (jobVersion runVersion : Int)
    (checkpointGeneration : Option Int) (reasonCode : String) (acknowledgedAtMs : Int)
    (pauseCheckpoint : Option (Bytes32 × Bytes32)) : ControlRequestRow where
  id := row.id
  requestKey := row.requestKey
  scanRunId := row.scanRunId
  volumeId := row.volumeId
  runtimeLeaseKey := row.runtimeLeaseKey
  sequence := row.sequence
  kind := row.kind
  expectedJobStateVersion := row.expectedJobStateVersion
  expectedRunStateVersion := row.expectedRunStateVersion
  expectedCheckpointGeneration := row.expectedCheckpointGeneration
  disposition := .acknowledged
  requestedAtMs := row.requestedAtMs
  acknowledgedAtMs := some acknowledgedAtMs
  ackJobStateVersion := some jobVersion
  ackRunStateVersion := some runVersion
  ackCheckpointGeneration := checkpointGeneration
  ackReasonCode := some reasonCode
  pauseCheckpointWriteKey := pauseCheckpoint.map Prod.fst
  pauseCheckpointPayloadDigest := pauseCheckpoint.map Prod.snd
  supersededByRequestId := row.supersededByRequestId

theorem ControlRequestRow.acknowledged_id (jobVersion runVersion : Int)
    (checkpointGeneration : Option Int) (reasonCode : String) (acknowledgedAtMs : Int)
    (pauseCheckpoint : Option (Bytes32 × Bytes32)) (row : ControlRequestRow) :
    (row.acknowledged jobVersion runVersion checkpointGeneration reasonCode acknowledgedAtMs
      pauseCheckpoint).id = row.id := rfl

/-- The generation an acknowledgement must have, by the kind of the request. -/
def acknowledgedShape (row : ControlRequestRow) : Bool :=
  match row.kind with
  | .pause => row.ackCheckpointGeneration.isSome && row.pauseCheckpointWriteKey.isSome
  | .resume => row.ackCheckpointGeneration.isSome && row.pauseCheckpointWriteKey.isNone
  | .cancel => row.pauseCheckpointWriteKey.isNone

def acknowledgeControlRequest (requestId jobVersion runVersion : Int)
    (checkpointGeneration : Option Int) (reasonCode : String) (acknowledgedAtMs : Int)
    (pauseCheckpoint : Option (Bytes32 × Bytes32)) : Tx Rest PUnit :=
  statement fun database =>
    match database.requests.get? requestId with
    | some row =>
        if row.disposition = .pending then
          let change := fun (old : ControlRequestRow) => old.acknowledged jobVersion runVersion
            checkpointGeneration reasonCode acknowledgedAtMs pauseCheckpoint
          if database.requestUpdateAllowed row (change row) && acknowledgedShape (change row) then
            .ok (⟨⟩, { database with
              requests := database.requests.modify requestId change
                (ControlRequestRow.acknowledged_id jobVersion runVersion checkpointGeneration
                  reasonCode acknowledgedAtMs pauseCheckpoint) })
          else .error .sqlite
        else .error (.concurrencyConflict "scan_control_acknowledgement" requestId)
    | none => .error (.concurrencyConflict "scan_control_acknowledgement" requestId)

/-! ## Pause -/

namespace PauseCheckpointInput

/-- What the constructor asks of the values. -/
def valid (input : PauseCheckpointInput) : Bool :=
  decide (0 < input.pauseRequestId ∧ 0 ≤ input.expectedJobStateVersion ∧
    0 ≤ input.expectedRunStateVersion ∧ 0 ≤ input.discoveredCount ∧
    0 ≤ input.fingerprintedCount ∧ 0 ≤ input.errorCount ∧ 0 ≤ input.logicalBytesSeen ∧
    0 ≤ input.savedAtMs ∧ input.fingerprintedCount ≤ input.discoveredCount ∧
    (input.cursor.nextDirectoryOrdinal : Int) ≤ i64Max ∧
    (input.cursor.nextFileOrdinal : Int) ≤ i64Max) &&
    input.expectedGeneration.all fun generation => 0 < generation

end PauseCheckpointInput

def pauseCursorOrdinals (cursor : PauseCheckpointCursor) : Result (Int × Int) := do
  let directory ← Outcome.orError
    (.invalidInput "next_directory_ordinal"
      "pause cursor ordinal exceeds SQLite's signed 64-bit domain")
    (checkedI64 cursor.nextDirectoryOrdinal)
  let file ← Outcome.orError
    (.invalidInput "next_file_ordinal" "pause cursor ordinal exceeds SQLite's signed 64-bit domain")
    (checkedI64 cursor.nextFileOrdinal)
  .ok (directory, file)

/-- What an acknowledgement of the pause answers: the versions of job and run and the generation. -/
structure PauseAnswer where
  jobVersion : Int
  runVersion : Int
  generation : Int
  deriving DecidableEq, Repr

/-- The answer that the expected versions and generation lead to. -/
def expectedPauseAnswer (input : PauseCheckpointInput) : Tx Rest PauseAnswer := do
  let jobVersion ←
    nextVersion "job_state_version" "state version overflow" input.expectedJobStateVersion
  let runVersion ←
    nextVersion "run_state_version" "state version overflow" input.expectedRunStateVersion
  let generation ←
    match input.expectedGeneration with
    | some generation =>
        nextVersion "pause_checkpoint_generation" "generation overflow" generation
    | none => pure 1
  pure ⟨jobVersion, runVersion, generation⟩

/-- A stored checkpoint and its request answer the call. -/
def answersPause (checkpoint : PauseCheckpointRow) (request : ControlRequestRow)
    (guard : RuntimeLeaseGuard) (input : PauseCheckpointInput) (acknowledgedAtMs : Int)
    (answer : PauseAnswer) (payloadDigest : Bytes32) : Bool :=
  checkpoint.scanRunId = guard.scanRunId && checkpoint.pauseRequestId = input.pauseRequestId &&
    checkpoint.pauseRequestKey = input.pauseRequestKey && request.disposition = .acknowledged &&
    request.acknowledgedAtMs = some acknowledgedAtMs &&
    request.ackJobStateVersion = some answer.jobVersion &&
    request.ackRunStateVersion = some answer.runVersion &&
    request.ackCheckpointGeneration = some answer.generation &&
    checkpoint.payloadDigest = payloadDigest

/-- The checkpoint of a write key, with its request. -/
def writtenCheckpoint (database : Database Rest) (writeKey : Bytes32) :
    Option (PauseCheckpointRow × ControlRequestRow) := do
  let checkpoint ← database.checkpoints.rows.find? fun row => row.writeKey = writeKey
  let request ← database.requests.get? checkpoint.pauseRequestId
  some (checkpoint, request)

def newCheckpointRow (guard : RuntimeLeaseGuard) (input : PauseCheckpointInput)
    (volumeId : Int) (lease : RuntimeLeaseRow) (answer : PauseAnswer) (payloadDigest : Bytes32) :
    PauseCheckpointRow where
  scanRunId := guard.scanRunId
  volumeId := volumeId
  runtimeLeaseKey := guard.leaseKey
  coreSessionId := guard.coreSessionId
  mountSessionKey := guard.run.mountSessionKey
  pauseRequestId := input.pauseRequestId
  pauseRequestKey := input.pauseRequestKey
  generation := answer.generation
  writeKey := input.writeKey
  payloadDigest := payloadDigest
  cursor := input.cursor
  workPlanDigest := lease.workPlanDigest
  evidenceManifestDigest := lease.evidenceChainDigest
  jobStateVersion := answer.jobVersion
  runStateVersion := answer.runVersion
  discoveredCount := input.discoveredCount
  fingerprintedCount := input.fingerprintedCount
  errorCount := input.errorCount
  logicalBytesSeen := input.logicalBytesSeen
  savedAtMs := input.savedAtMs

/-- The latest checkpoint is the one the call expects, and the cursor does not rewind it. -/
def continuesLatest (database : Database Rest) (guard : RuntimeLeaseGuard)
    (input : PauseCheckpointInput) (lease : RuntimeLeaseRow) : Result Unit :=
  match database.latestCheckpoint guard.scanRunId, input.expectedGeneration with
  | none, none => .ok ()
  | some latest, expected =>
      if expected = some latest.generation ∧ latest.writeKey ≠ input.writeKey ∧
          latest.workPlanDigest = lease.workPlanDigest ∧
          latest.cursor.nextDirectoryOrdinal ≤ input.cursor.nextDirectoryOrdinal ∧
          latest.cursor.nextFileOrdinal ≤ input.cursor.nextFileOrdinal then
        .ok ()
      else if latest.writeKey = input.writeKey then
        .error (.idempotencyConflict "pause_checkpoint_write" (toString latest.generation))
      else .error (.concurrencyConflict "pause_checkpoint_generation" guard.scanRunId)
  | none, some _ => .error (.concurrencyConflict "pause_checkpoint_generation" guard.scanRunId)

def insertCheckpoint (row : PauseCheckpointRow) : Tx Rest PUnit :=
  statement fun database =>
    if database.checkpointInsertAllowed row ∧
        row.writeKey ∉ database.checkpoints.rows.map PauseCheckpointRow.writeKey ∧
        row.pauseRequestId ∉ database.checkpoints.rows.map PauseCheckpointRow.pauseRequestId then
      match database.checkpoints.insert row with
      | some after => .ok (⟨⟩, { database with checkpoints := after })
      | none => .error .sqlite
    else .error .sqlite

/-- The pause proper, once its write key is known to be new. -/
def writePause (guard : RuntimeLeaseGuard) (input : PauseCheckpointInput) (acknowledgedAtMs : Int)
    (answer : PauseAnswer) (payloadDigest : Bytes32) : Tx Rest PauseAnswer := do
  let context ← validateRuntimeLeaseGuard guard
  let lease ← query fun database =>
    Outcome.orError .sqlite
      ((database.leases.get? guard.scanRunId).filter fun lease => lease.state = .active)
  Program.ensure (context.runState = .running && context.jobState = .running)
    (.concurrencyConflict "pause_runtime_state" guard.scanRunId)
  let request ← requirePendingControlRequest guard input.pauseRequestId input.pauseRequestKey .pause
  Program.ensure
    (request.expectedJobStateVersion = input.expectedJobStateVersion &&
      request.expectedRunStateVersion = input.expectedRunStateVersion &&
      decide (input.savedAtMs ≤ acknowledgedAtMs))
    (.concurrencyConflict "pause_request_checkpoint_binding" input.pauseRequestId)
  Program.ensure
    (decide ((input.cursor.nextDirectoryOrdinal : Int) = lease.directoryEvidenceCount) &&
      decide ((input.cursor.nextFileOrdinal : Int) = lease.fileEvidenceCount))
    (.concurrencyConflict "pause_checkpoint_evidence_cursor" guard.scanRunId)
  query fun database => continuesLatest database guard input lease
  insertCheckpoint (newCheckpointRow guard input context.volumeId lease answer payloadDigest)
  let observedRun ← transitionScanRun guard.scanRunId .running input.expectedRunStateVersion .paused
    acknowledgedAtMs none
  let observedJob ← transitionScanJob context.scanJobId .running input.expectedJobStateVersion
    .paused acknowledgedAtMs
  acknowledgeControlRequest input.pauseRequestId observedJob observedRun (some answer.generation)
    "PAUSE_SAFE_POINT_ACKNOWLEDGED" acknowledgedAtMs (some (input.writeKey, payloadDigest))
  pure ⟨observedJob, observedRun, answer.generation⟩

def acknowledgePause (guard : RuntimeLeaseGuard) (input : PauseCheckpointInput)
    (acknowledgedAtMs : Int) : Tx Rest PauseAnswer := do
  validateRuntimeGuardInstance guard
  requireNonnegative "acknowledged_at_ms" acknowledgedAtMs
  Program.ensure (decide ((cursorJson input.cursor).length ≤ 16 * 1024))
    (.invalidInput "pause_checkpoint_cursor" "typed pause cursor exceeds 16 KiB")
  let _ ← Program.ofExcept (pauseCursorOrdinals input.cursor)
  let answer ← expectedPauseAnswer input
  let payloadDigest := pauseCheckpointPayloadDigest hash input acknowledgedAtMs answer.jobVersion
    answer.runVersion answer.generation
  let tx ← Program.current
  match writtenCheckpoint tx.database input.writeKey with
  | some (checkpoint, request) => do
      Program.ensure
        (answersPause checkpoint request guard input acknowledgedAtMs answer payloadDigest)
        (.idempotencyConflict "pause_checkpoint_write" (lowerHex input.writeKey))
      pure answer
  | none => writePause guard input acknowledgedAtMs answer payloadDigest

/-! ## Resume, cancel and the terminal states -/

def acknowledgeResume (guard : RuntimeLeaseGuard) (requestId : Int) (requestKey : Bytes32)
    (acknowledgedAtMs : Int) : Tx Rest (Int × Int) := do
  let context ← validateRuntimeLeaseGuard guard
  let request ← requirePendingControlRequest guard requestId requestKey .resume
  let generation ← Program.orFail
    (.concurrencyConflict "resume_checkpoint_generation" guard.scanRunId)
    request.expectedCheckpointGeneration
  let observedJob ← transitionScanJob context.scanJobId .paused request.expectedJobStateVersion
    .running acknowledgedAtMs
  let observedRun ← transitionScanRun guard.scanRunId .paused request.expectedRunStateVersion
    .running acknowledgedAtMs none
  acknowledgeControlRequest requestId observedJob observedRun (some generation)
    "RESUME_ACKNOWLEDGED" acknowledgedAtMs none
  pure (observedJob, observedRun)

def acknowledgeCancel (guard : RuntimeLeaseGuard) (requestId : Int) (requestKey : Bytes32)
    (acknowledgedAtMs : Int) : Tx Rest (Int × Int) := do
  let context ← validateRuntimeLeaseGuard guard
  let request ← requirePendingControlRequest guard requestId requestKey .cancel
  beginRuntimeLeaseRelease guard .cancelled acknowledgedAtMs
  let observedRun ← transitionScanRun guard.scanRunId context.runState
    request.expectedRunStateVersion .cancelled acknowledgedAtMs none
  let observedJob ← transitionScanJob context.scanJobId context.jobState
    request.expectedJobStateVersion .cancelled acknowledgedAtMs
  let generation ← query fun database =>
    .ok ((database.latestCheckpoint guard.scanRunId).map PauseCheckpointRow.generation)
  acknowledgeControlRequest requestId observedJob observedRun generation "CANCEL_ACKNOWLEDGED"
    acknowledgedAtMs none
  finishRuntimeLeaseRelease guard acknowledgedAtMs
  pure (observedJob, observedRun)

inductive LeasedScanTerminalOutcome where
  | completed
  | failed
  | interrupted
  deriving DecidableEq, Repr

namespace LeasedScanTerminalOutcome

def runState : LeasedScanTerminalOutcome → ScanRunState
  | .completed => .completed
  | .failed => .failed
  | .interrupted => .interrupted

def jobState : LeasedScanTerminalOutcome → ScanJobState
  | .completed => .completed
  | .failed | .interrupted => .failed

def releaseReason : LeasedScanTerminalOutcome → ReleaseReason
  | .completed => .completed
  | .failed => .failed
  | .interrupted => .interrupted

end LeasedScanTerminalOutcome

def requireStageSealed (scanRunId : Int) (stage : String) : Tx Rest PUnit :=
  query fun database =>
    if database.stageSealed scanRunId stage then .ok ⟨⟩
    else .error (.invalidInput "stage" s!"{stage} is not sealed")

def transitionLeasedScanJobAndRun (guard : RuntimeLeaseGuard) (expectedJobState : ScanJobState)
    (expectedJobVersion : Int) (expectedRunState : ScanRunState) (expectedRunVersion : Int)
    (outcome : LeasedScanTerminalOutcome) (nowMs : Int) (lastError : Option (String × String)) :
    Tx Rest (Int × Int) := do
  let context ← validateRuntimeLeaseGuard guard
  Program.ensure (context.jobState = expectedJobState && context.runState = expectedRunState)
    (.concurrencyConflict "leased_terminal_state" guard.scanRunId)
  let pending ← query fun database => .ok (database.hasPending guard.scanRunId)
  Program.ensure (!pending) (.concurrencyConflict "leased_terminal_pending_control" guard.scanRunId)
  if outcome = .completed then requireStageSealed guard.scanRunId "exact_verification"
  else pure ⟨⟩
  beginRuntimeLeaseRelease guard outcome.releaseReason nowMs
  let observedRun ← transitionScanRun guard.scanRunId expectedRunState expectedRunVersion
    outcome.runState nowMs lastError
  let observedJob ← transitionScanJob context.scanJobId expectedJobState expectedJobVersion
    outcome.jobState nowMs
  finishRuntimeLeaseRelease guard nowMs
  pure (observedJob, observedRun)

/-! ## Evidence and progress -/

/-- A directory or a file that the enumeration reports. `recorded` is what the tables of the evidence
say of it: an error, whether they hold it already, and what they hold afterwards. -/
structure EvidenceInput (Rest : Type) where
  directoryObjectSignature : Option Bytes32
  evidenceId : Int
  sourceSignature : Bytes32
  ticketSortKey : Bytes32
  ticketBlob : List UInt8
  recorded : Rest → Result (Bool × Rest)

/-- The lease after one more directory or file. -/
def RuntimeLeaseRow.withEvidence (row : RuntimeLeaseRow) (input : EvidenceInput Rest) :
    RuntimeLeaseRow :=
  match input.directoryObjectSignature with
  | some signature =>
      let digest := advanceRuntimeEvidenceDigest hash row.directoryEvidenceDigest "directory\x00"
        input.evidenceId input.sourceSignature input.ticketSortKey (some signature)
      { row with
        directoryEvidenceCount := row.directoryEvidenceCount + 1
        directoryEvidenceDigest := digest
        evidenceChainDigest := combineRuntimeEvidenceDigests hash row.workPlanDigest
          (row.directoryEvidenceCount + 1) digest row.fileEvidenceCount row.fileEvidenceDigest }
  | none =>
      let digest := advanceRuntimeEvidenceDigest hash row.fileEvidenceDigest "file\x00"
        input.evidenceId input.sourceSignature input.ticketSortKey none
      { row with
        fileEvidenceCount := row.fileEvidenceCount + 1
        fileEvidenceDigest := digest
        evidenceChainDigest := combineRuntimeEvidenceDigests hash row.workPlanDigest
          row.directoryEvidenceCount row.directoryEvidenceDigest (row.fileEvidenceCount + 1)
          digest }

theorem RuntimeLeaseRow.withEvidence_scanRunId (row : RuntimeLeaseRow)
    (input : EvidenceInput Rest) : (row.withEvidence hash input).scanRunId = row.scanRunId := by
  unfold withEvidence
  split
  · rfl
  · rfl

namespace EvidenceInput

/-- The count that the input raises. -/
def count (input : EvidenceInput Rest) (row : RuntimeLeaseRow) : Int :=
  if input.directoryObjectSignature.isSome then row.directoryEvidenceCount
  else row.fileEvidenceCount

def countField (input : EvidenceInput Rest) : String :=
  if input.directoryObjectSignature.isSome then "runtime_directory_evidence_count"
  else "runtime_file_evidence_count"

end EvidenceInput

/-- The lease counts the evidence, if it is active. -/
def appendRuntimeEvidence (scanRunId : Int) (input : EvidenceInput Rest) : Tx Rest PUnit :=
  statement fun database =>
    match (database.leases.get? scanRunId).filter fun lease => lease.state = .active with
    | none => .ok (⟨⟩, database)
    | some row =>
        if !validTicketSortKey hash input.ticketBlob input.ticketSortKey then
          .error (.invalidInput "ticket_sort_key"
            "leased runtime ticket key is not the core-domain digest of its opaque ticket")
        else if (checkedI64 (input.count row + 1)).isNone then
          .error (.invalidInput input.countField "count overflow")
        else if database.leaseUpdateAllowed row (row.withEvidence hash input) then
          .ok (⟨⟩, { database with
            leases := database.leases.modify scanRunId (fun old => old.withEvidence hash input)
              fun old => old.withEvidence_scanRunId hash input })
        else .error .sqlite

def recordEvidence (scanRunId : Int) (input : EvidenceInput Rest) : Tx Rest PUnit := do
  let known ← statement fun database =>
    match input.recorded database.rest with
    | .ok (known, rest) => .ok (known, { database with rest := rest })
    | .error error => .error error
  if known then pure ⟨⟩ else appendRuntimeEvidence hash scanRunId input

def recordEvidenceItems (scanRunId : Int) : List (EvidenceInput Rest) → Tx Rest PUnit
  | [] => pure ⟨⟩
  | input :: inputs => do
      recordEvidence hash scanRunId input
      recordEvidenceItems scanRunId inputs

def maxV5WriteBatch : Nat := 128

def recordCoreEvidenceBatch (field : String) (guard : RunEvidenceGuard) (coreSessionId : Bytes32)
    (inputs : List (EvidenceInput Rest)) : Tx Rest PUnit := do
  Program.ensure (decide (1 ≤ inputs.length ∧ inputs.length ≤ maxV5WriteBatch))
    (.invalidInput field s!"batch must contain between 1 and {maxV5WriteBatch} records")
  let _ ← validateCoreSessionGuard guard coreSessionId
  requireActiveRuntimeLeaseForCore guard coreSessionId
  recordEvidenceItems hash guard.scanRunId inputs

def recordCoreObservationBatch (guard : RunEvidenceGuard) (coreSessionId : Bytes32)
    (inputs : List (EvidenceInput Rest)) : Tx Rest PUnit :=
  recordCoreEvidenceBatch hash "core_file_observations" guard coreSessionId inputs

def recordCoreDirectoryBatch (guard : RunEvidenceGuard) (coreSessionId : Bytes32)
    (inputs : List (EvidenceInput Rest)) : Tx Rest PUnit :=
  recordCoreEvidenceBatch hash "core_directory_observations" guard coreSessionId inputs

structure ScanProgress where
  discoveredCount : Int
  fingerprintedCount : Int
  errorCount : Int
  logicalBytesSeen : Int
  heartbeatAtMs : Int
  deriving DecidableEq, Repr

/-- The run with the progress that was reported. -/
def ScanRunRow.progressed (row : ScanRunRow) (progress : ScanProgress) : ScanRunRow :=
  { row with
    discoveredCount := progress.discoveredCount
    fingerprintedCount := progress.fingerprintedCount
    errorCount := progress.errorCount
    logicalBytesSeen := progress.logicalBytesSeen
    heartbeatAtMs := some progress.heartbeatAtMs
    updatedAtMs := progress.heartbeatAtMs }

def updateBoundScanProgress (guard : RunEvidenceGuard) (progress : ScanProgress) :
    Tx Rest PUnit := do
  let _ ← validateV5RunGuard guard
  requireNonnegative "discovered_count" progress.discoveredCount
  requireNonnegative "fingerprinted_count" progress.fingerprintedCount
  requireNonnegative "error_count" progress.errorCount
  requireNonnegative "logical_bytes_seen" progress.logicalBytesSeen
  requireNonnegative "heartbeat_at_ms" progress.heartbeatAtMs
  Program.ensure (decide (progress.fingerprintedCount ≤ progress.discoveredCount))
    (.invalidInput "fingerprinted_count" "fingerprinted count cannot exceed discovered count")
  statement fun database =>
    match database.runs.get? guard.scanRunId with
    | some row =>
        if row.state = .running ∧ row.discoveredCount ≤ progress.discoveredCount ∧
            row.fingerprintedCount ≤ progress.fingerprintedCount ∧
            row.errorCount ≤ progress.errorCount ∧
            row.logicalBytesSeen ≤ progress.logicalBytesSeen ∧
            row.updatedAtMs ≤ progress.heartbeatAtMs then
          .ok (⟨⟩, { database with
            runs := database.runs.modify guard.scanRunId (fun old => old.progressed progress)
              fun _ => rfl })
        else .error (.concurrencyConflict "scan_run_progress" guard.scanRunId)
    | none => .error (.concurrencyConflict "scan_run_progress" guard.scanRunId)

end Guiying.Store
