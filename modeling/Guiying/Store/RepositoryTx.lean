import Guiying.Foundation.MachineInt
import Guiying.Foundation.Outcome
import Guiying.Foundation.Program
import Guiying.Store.ControlGuards

/-!
# A write transaction of the repository

What one transaction holds: the database as it has written it, the sessions and
leases that were live when it began, and those it has bound, acquired and released
since. A statement changes the database or fails and leaves it.
-/

namespace Guiying.Store

open Guiying.Foundation Guiying.Foundation.MachineInt

/-- A run and the core session bound to it. -/
abbrev CoreMembership := Int × Bytes32

/-- A run, the key of its lease and the core session of the lease. -/
abbrev LeaseMembership := Int × Bytes32 × Bytes32

instance : LawfulBEq CoreMembership := inferInstance

instance : LawfulBEq LeaseMembership := inferInstance

structure RepositoryTx (Rest : Type) where
  database : Database Rest
  storeInstanceKey : Bytes32
  poisoned : Bool
  liveCoreSessions : List CoreMembership
  liveRuntimeLeases : List LeaseMembership
  boundCoreSessions : List CoreMembership
  acquiredRuntimeLeases : List LeaseMembership
  releasedRuntimeLeases : List LeaseMembership

abbrev Tx (Rest : Type) (α : Type) := Program (RepositoryTx Rest) StoreError α

/-- Evidence of a run, made anew by every caller. -/
structure RunEvidenceGuard where
  scanRunId : Int
  capabilityProfileId : Int
  mountSessionKey : Bytes32
  deriving DecidableEq

/-- The right to write under a lease, handed out by the store instance that acquired it. -/
structure RuntimeLeaseGuard where
  run : RunEvidenceGuard
  leaseKey : Bytes32
  coreSessionId : Bytes32
  storeInstanceKey : Bytes32
  deriving DecidableEq

namespace RuntimeLeaseGuard

def scanRunId (guard : RuntimeLeaseGuard) : Int := guard.run.scanRunId

def membership (guard : RuntimeLeaseGuard) : LeaseMembership :=
  (guard.scanRunId, guard.leaseKey, guard.coreSessionId)

end RuntimeLeaseGuard

/-- The key that no store instance has. -/
def noInstance : Bytes32 := Bytes32.filled 0

def hexDigit (nibble : Nat) : Char :=
  if nibble < 10 then Char.ofNat (48 + nibble) else Char.ofNat (87 + nibble)

def lowerHex (key : Bytes32) : String :=
  String.ofList (key.bytes.flatMap fun byte => [hexDigit (byte.toNat / 16), hexDigit (byte.toNat % 16)])

section Statements

variable {Rest : Type} {α : Type}

def query (look : Database Rest → Result α) : Tx Rest α := fun tx =>
  match look tx.database with
  | .ok value => (.ok value, tx)
  | .error error => (.error error, tx)

/-- A statement with a result; one that fails leaves the database. -/
def statement (change : Database Rest → Result (α × Database Rest)) : Tx Rest α := fun tx =>
  match change tx.database with
  | .ok (value, after) => (.ok value, { tx with database := after })
  | .error error => (.error error, tx)

def requirePositive (field : String) (value : Int) : Tx Rest PUnit :=
  .ensure (decide (0 < value)) (.invalidInput field "value must be positive")

def requireNonnegative (field : String) (value : Int) : Tx Rest PUnit :=
  .ensure (decide (0 ≤ value)) (.invalidInput field "value must be non-negative")

/-- `checked_add(1)`. -/
def nextVersion (field reason : String) (value : Int) : Tx Rest Int :=
  .orFail (.invalidInput field reason) (checkedI64 (value + 1))

end Statements

/-! ## Guards -/

structure BoundRunContext where
  scanRunId : Int
  volumeId : Int
  namespaceProfileId : Int
  capabilityProfileId : Int
  scanJobId : Int
  runState : ScanRunState
  jobState : ScanJobState
  deriving DecidableEq, Repr

namespace Database

variable {Rest : Type}

/-- The row of `validate_v5_bound_run_guard`. -/
def boundRun (database : Database Rest) (guard : RunEvidenceGuard) : Option BoundRunContext := do
  let run ← database.runs.get? guard.scanRunId
  let session ← database.sessions.get? run.id
  let job ← database.jobs.get? session.scanJobId
  if job.volumeId = session.volumeId ∧ job.activeScanRunId = some run.id ∧
      session.capabilityProfileId = guard.capabilityProfileId ∧
      session.mountSessionKey = guard.mountSessionKey ∧ session.current = true then
    some ⟨guard.scanRunId, run.volumeId, session.namespaceProfileId, session.capabilityProfileId,
      session.scanJobId, run.state, job.state⟩
  else none

/-- The core session of the context, as `validate_core_session_guard` looks for it. -/
def hasCoreSession (database : Database Rest) (context : BoundRunContext) (coreSessionId : Bytes32) :
    Bool :=
  (database.coreSessions.get? context.scanRunId).any fun core =>
    core.volumeId = context.volumeId && core.capabilityProfileId = context.capabilityProfileId &&
      core.namespaceProfileId = context.namespaceProfileId && core.coreSessionId = coreSessionId

/-- The active lease of the context, as `validate_runtime_lease_guard` looks for it. -/
def hasActiveLease (database : Database Rest) (context : BoundRunContext)
    (guard : RuntimeLeaseGuard) : Bool :=
  database.leaseIs guard.scanRunId fun lease =>
    lease.volumeId = context.volumeId && lease.scanJobId = context.scanJobId &&
      lease.capabilityProfileId = context.capabilityProfileId &&
      lease.namespaceProfileId = context.namespaceProfileId &&
      lease.runtimeLeaseKey = guard.leaseKey && lease.coreSessionId = guard.coreSessionId &&
      lease.mountSessionKey = guard.run.mountSessionKey && lease.state = .active

end Database

section Guards

variable {Rest : Type}

def validateV5BoundRunGuard (guard : RunEvidenceGuard) : Tx Rest BoundRunContext := do
  requirePositive "scan_run_id" guard.scanRunId
  requirePositive "capability_profile_id" guard.capabilityProfileId
  query fun database =>
    Outcome.orError (.concurrencyConflict "bound_run_evidence_guard" guard.scanRunId)
      (database.boundRun guard)

def validateV5RunGuard (guard : RunEvidenceGuard) : Tx Rest BoundRunContext := do
  let context ← validateV5BoundRunGuard guard
  Program.ensure (context.runState = .running && context.jobState = .running)
    (.concurrencyConflict "running_run_evidence_guard" guard.scanRunId)
  pure context

namespace RepositoryTx

/-- A session that was live when the transaction began, or was bound in it. -/
def knowsCore (tx : RepositoryTx Rest) (membership : CoreMembership) : Bool :=
  membership ∈ tx.liveCoreSessions || membership ∈ tx.boundCoreSessions

/-- A lease that was live when the transaction began, or was acquired in it. -/
def knowsLease (tx : RepositoryTx Rest) (membership : LeaseMembership) : Bool :=
  membership ∈ tx.liveRuntimeLeases || membership ∈ tx.acquiredRuntimeLeases

/-- The same for any lease of a core session. -/
def knowsLeaseOfCore (tx : RepositoryTx Rest) (membership : CoreMembership) : Bool :=
  (tx.liveRuntimeLeases ++ tx.acquiredRuntimeLeases).any fun lease =>
    lease.1 = membership.1 && lease.2.2 = membership.2

end RepositoryTx

def validateCoreSessionGuard (guard : RunEvidenceGuard) (coreSessionId : Bytes32) :
    Tx Rest BoundRunContext := do
  let tx ← Program.current
  Program.ensure (tx.knowsCore (guard.scanRunId, coreSessionId))
    (.concurrencyConflict "live_core_session_store_instance" guard.scanRunId)
  let context ← validateV5RunGuard guard
  Program.ensure (tx.database.hasCoreSession context coreSessionId)
    (.concurrencyConflict "core_session_evidence_guard" guard.scanRunId)
  pure context

def validateRuntimeGuardInstance (guard : RuntimeLeaseGuard) : Tx Rest PUnit := do
  let tx ← Program.current
  Program.ensure (tx.storeInstanceKey ≠ noInstance && guard.storeInstanceKey = tx.storeInstanceKey)
    (.concurrencyConflict "runtime_lease_store_instance" guard.scanRunId)

def requireActiveRuntimeLeaseForCore (guard : RunEvidenceGuard) (coreSessionId : Bytes32) :
    Tx Rest PUnit := do
  let tx ← Program.current
  let persisted := tx.database.leaseIs guard.scanRunId fun lease =>
    lease.coreSessionId = coreSessionId && lease.state = .active
  Program.ensure (tx.knowsLeaseOfCore (guard.scanRunId, coreSessionId) && persisted)
    (.concurrencyConflict "core_evidence_requires_live_runtime_lease" guard.scanRunId)

def validateRuntimeLeaseMembership (guard : RuntimeLeaseGuard) : Tx Rest PUnit := do
  validateRuntimeGuardInstance guard
  let tx ← Program.current
  Program.ensure (tx.knowsLease guard.membership)
    (.concurrencyConflict "live_runtime_lease_store_instance" guard.scanRunId)

def validateRuntimeLeaseGuard (guard : RuntimeLeaseGuard) : Tx Rest BoundRunContext := do
  validateRuntimeLeaseMembership guard
  let context ← validateV5BoundRunGuard guard.run
  let tx ← Program.current
  Program.ensure (tx.database.hasActiveLease context guard)
    (.concurrencyConflict "active_runtime_lease_guard" guard.scanRunId)
  pure context

end Guards

/-! ## Statements on runs, jobs and leases -/

/-- The changes a job or a run may be asked for. -/
def validJobTransition : ScanJobState → ScanJobState → Bool
  | .queued, .running | .queued, .cancelled => true
  | .running, .paused | .running, .completed | .running, .failed | .running, .cancelled => true
  | .paused, .running | .paused, .failed | .paused, .cancelled => true
  | .failed, .running | .completed, .running | .cancelled, .running => true
  | _, _ => false

def validRunTransition : ScanRunState → ScanRunState → Bool
  | .queued, .running | .queued, .cancelled => true
  | .running, .paused | .running, .completed | .running, .failed | .running, .cancelled
  | .running, .interrupted => true
  | .paused, .running | .paused, .failed | .paused, .cancelled | .paused, .interrupted => true
  | _, _ => false

def maxTextBytes : Nat := 64 * 1024

def requireBoundedNonempty (field value : String) (maxBytes : Nat) : Result Unit :=
  if value.toList.all Decimal.isWhitespace then .error (.invalidInput field "value must not be empty")
  else if Decimal.byteLength value.toList > maxBytes then
    .error (.invalidInput field s!"value exceeds {maxBytes} UTF-8 bytes")
  else .ok ()

def validateTransitionError (target : ScanRunState) (lastError : Option (String × String)) :
    Result Unit :=
  match isErrorState target, lastError with
  | true, some (code, message) => do
      requireBoundedNonempty "last_error_code" code maxIdentifierBytes
      requireBoundedNonempty "last_error_message" message maxTextBytes
  | true, none =>
      .error (.invalidInput "last_error"
        "failed or interrupted scan runs require an error code and message")
  | false, some _ =>
      .error (.invalidInput "last_error"
        "non-error scan states cannot carry last-error evidence")
  | false, none => .ok ()

def isTerminal (state : ScanRunState) : Bool :=
  state = .completed || state = .failed || state = .cancelled || state = .interrupted

/-- The row that `transition_scan_run` writes. -/
def ScanRunRow.moved (row : ScanRunRow) (target : ScanRunState) (version nowMs : Int)
    (lastError : Option (String × String)) : ScanRunRow where
  id := row.id
  volumeId := row.volumeId
  state := target
  stateVersion := version
  discoveredCount := row.discoveredCount
  fingerprintedCount := row.fingerprintedCount
  errorCount := row.errorCount
  logicalBytesSeen := row.logicalBytesSeen
  startedAtMs :=
    if target = .running ∨ isTerminal target then some (row.startedAtMs.getD nowMs)
    else row.startedAtMs
  heartbeatAtMs := if target = .running ∨ target = .paused then some nowMs else row.heartbeatAtMs
  finishedAtMs := if isTerminal target then some nowMs else none
  lastError := lastError
  createdAtMs := row.createdAtMs
  updatedAtMs := nowMs

/-- The row that `transition_scan_job` writes. -/
def ScanJobRow.moved (row : ScanJobRow) (target : ScanJobState) (version nowMs : Int) :
    ScanJobRow where
  id := row.id
  volumeId := row.volumeId
  state := target
  stateVersion := version
  activeScanRunId := row.activeScanRunId
  createdAtMs := row.createdAtMs
  updatedAtMs := nowMs

theorem ScanRunRow.moved_id (target : ScanRunState) (version nowMs : Int)
    (lastError : Option (String × String)) (row : ScanRunRow) :
    (row.moved target version nowMs lastError).id = row.id := rfl

theorem ScanJobRow.moved_id (target : ScanJobState) (version nowMs : Int) (row : ScanJobRow) :
    (row.moved target version nowMs).id = row.id := rfl

namespace Database

variable {Rest : Type}

/-- One row of a table replaced by a change that the triggers allow. -/
def moveRun (database : Database Rest) (row : ScanRunRow) (target : ScanRunState)
    (version nowMs : Int) (lastError : Option (String × String)) : Result (Int × Database Rest) :=
  if database.runStateAllowed row (row.moved target version nowMs lastError) then
    .ok (version, { database with
      runs := database.runs.modify row.id (fun old => old.moved target version nowMs lastError)
        (ScanRunRow.moved_id target version nowMs lastError) })
  else .error .sqlite

def moveJob (database : Database Rest) (row : ScanJobRow) (target : ScanJobState)
    (version nowMs : Int) : Result (Int × Database Rest) :=
  if database.jobStateAllowed row (row.moved target version nowMs) then
    .ok (version, { database with
      jobs := database.jobs.modify row.id (fun old => old.moved target version nowMs)
        (ScanJobRow.moved_id target version nowMs) })
  else .error .sqlite

end Database

section Transitions

variable {Rest : Type}

def transitionScanJob (scanJobId : Int) (expectedState : ScanJobState) (expectedVersion : Int)
    (targetState : ScanJobState) (nowMs : Int) : Tx Rest Int := do
  requireNonnegative "expected_version" expectedVersion
  requireNonnegative "now_ms" nowMs
  Program.ensure (validJobTransition expectedState targetState)
    (.invalidInput "target_state"
      s!"unsupported scan job transition {expectedState.asStr} -> {targetState.asStr}")
  let next ← nextVersion "expected_version" "state version overflow" expectedVersion
  statement fun database =>
    match database.jobs.get? scanJobId with
    | some row =>
        if row.state = expectedState ∧ row.stateVersion = next - 1 ∧ row.updatedAtMs ≤ nowMs then
          database.moveJob row targetState next nowMs
        else .error (.concurrencyConflict "scan_job" scanJobId)
    | none => .error (.concurrencyConflict "scan_job" scanJobId)

def transitionScanRun (scanRunId : Int) (expectedState : ScanRunState) (expectedVersion : Int)
    (targetState : ScanRunState) (nowMs : Int) (lastError : Option (String × String)) :
    Tx Rest Int := do
  requirePositive "scan_run_id" scanRunId
  requireNonnegative "expected_version" expectedVersion
  requireNonnegative "now_ms" nowMs
  Program.ensure (validRunTransition expectedState targetState)
    (.invalidInput "target_state"
      s!"unsupported scan run transition {expectedState.asStr} -> {targetState.asStr}")
  Program.ofExcept (validateTransitionError targetState lastError)
  let next ← nextVersion "expected_version" "state version overflow" expectedVersion
  statement fun database =>
    match database.runs.get? scanRunId with
    | some row =>
        if row.state = expectedState ∧ row.stateVersion = next - 1 ∧ row.updatedAtMs ≤ nowMs then
          database.moveRun row targetState next nowMs lastError
        else .error (.concurrencyConflict "scan_run" scanRunId)
    | none => .error (.concurrencyConflict "scan_run" scanRunId)

/-- The update of the lease of a run in one state; an update without a row is refused. -/
def updateLease (scanRunId : Int) (state : LeaseState) (entity : String)
    (change : RuntimeLeaseRow → RuntimeLeaseRow)
    (keeps : ∀ row, (change row).scanRunId = row.scanRunId) : Tx Rest PUnit :=
  statement fun database =>
    match database.leases.get? scanRunId with
    | some row =>
        if row.state = state then
          if database.leaseUpdateAllowed row (change row) then
            .ok (⟨⟩, { database with leases := database.leases.modify scanRunId change keeps })
          else .error .sqlite
        else .error (.concurrencyConflict entity scanRunId)
    | none => .error (.concurrencyConflict entity scanRunId)

/-- Moves the active lease to `releasing`, at the latest of the clock and the last heartbeat. -/
def beginRuntimeLeaseRelease (guard : RuntimeLeaseGuard) (reason : ReleaseReason) (nowMs : Int) :
    Tx Rest PUnit := do
  requireNonnegative "release_started_at_ms" nowMs
  updateLease guard.scanRunId .active "runtime_lease_release_intent"
    (fun row => { row with
      state := .releasing
      releaseReason := some reason
      releaseStartedAtMs := some (max nowMs row.lastHeartbeatAtMs) })
    fun _ => rfl

/-- Completes a release, at the latest of the clock and the time it was begun. -/
def finishRuntimeLeaseRelease (guard : RuntimeLeaseGuard) (nowMs : Int) : Tx Rest PUnit := do
  updateLease guard.scanRunId .releasing "runtime_lease_release"
    (fun row => { row with
      state := .released
      releasedAtMs := row.releaseStartedAtMs.map (max nowMs) })
    fun _ => rfl
  Program.update fun tx =>
    { tx with releasedRuntimeLeases := tx.releasedRuntimeLeases ++ [guard.membership] }

end Transitions

end Guiying.Store
