import Guiying.Store.ScanControl

/-!
# What the parts of scan control did

A guard that passed, a statement that was made, a row that was moved: each read
from the fact that it returned.
-/

namespace Guiying.Store

open Guiying.Foundation Guiying.Foundation.MachineInt Program

variable {Rest : Type} {α : Type} {tx after : RepositoryTx Rest}

/-! ## Statements -/

theorem query_eq_ok {look : Database Rest → Result α} {value : α} :
    query look tx = (.ok value, after) ↔ look tx.database = .ok value ∧ tx = after := by
  unfold query
  cases look tx.database with
  | ok _ => simp
  | error _ => simp

theorem reads_query (look : Database Rest → Result α) : Reads (query look) := by
  intro tx
  unfold query
  cases look tx.database with
  | ok _ => rfl
  | error _ => rfl

theorem statement_eq_ok {change : Database Rest → Result (α × Database Rest)} {value : α} :
    statement change tx = (.ok value, after) ↔
      ∃ database, change tx.database = .ok (value, database) ∧
        { tx with database := database } = after := by
  unfold statement
  cases ran : change tx.database with
  | ok both =>
      obtain ⟨result, database⟩ := both
      constructor
      · rintro ⟨⟨⟩, rfl⟩
        exact ⟨database, rfl, rfl⟩
      · rintro ⟨_, ⟨⟨⟩, ⟨⟩⟩, rfl⟩
        rfl
  | error _ => simp

theorem requirePositive_eq_ok {field : String} {value : Int} {done : PUnit} :
    (requirePositive field value : Tx Rest PUnit) tx = (.ok done, after) ↔
      0 < value ∧ tx = after := by
  unfold requirePositive
  rw [ensure_eq_ok, decide_eq_true_eq]

theorem requireNonnegative_eq_ok {field : String} {value : Int} {done : PUnit} :
    (requireNonnegative field value : Tx Rest PUnit) tx = (.ok done, after) ↔
      0 ≤ value ∧ tx = after := by
  unfold requireNonnegative
  rw [ensure_eq_ok, decide_eq_true_eq]

theorem nextVersion_eq_ok {field reason : String} {value next : Int} :
    (nextVersion field reason value : Tx Rest Int) tx = (.ok next, after) ↔
      checkedI64 (value + 1) = some next ∧ tx = after := by
  unfold nextVersion
  rw [orFail_eq_ok]

theorem eq_of_nextVersion {value next : Int} (fits : checkedI64 (value + 1) = some next) :
    next = value + 1 :=
  (checkedI64_eq_some.mp fits).2

/-! ## Guards -/

theorem validateV5BoundRunGuard_eq_ok {guard : RunEvidenceGuard} {context : BoundRunContext} :
    (validateV5BoundRunGuard guard : Tx Rest BoundRunContext) tx = (.ok context, after) ↔
      (0 < guard.scanRunId ∧ 0 < guard.capabilityProfileId) ∧
        tx.database.boundRun guard = some context ∧ tx = after := by
  unfold validateV5BoundRunGuard
  simp only [bind_eq_ok, requirePositive_eq_ok, query_eq_ok, Outcome.orError_eq_ok]
  constructor
  · rintro ⟨_, _, ⟨run, rfl⟩, _, _, ⟨profile, rfl⟩, bound, rfl⟩
    exact ⟨⟨run, profile⟩, bound, rfl⟩
  · rintro ⟨⟨run, profile⟩, bound, rfl⟩
    exact ⟨⟨⟩, tx, ⟨run, rfl⟩, ⟨⟩, tx, ⟨profile, rfl⟩, bound, rfl⟩

theorem validateV5RunGuard_eq_ok {guard : RunEvidenceGuard} {context : BoundRunContext} :
    (validateV5RunGuard guard : Tx Rest BoundRunContext) tx = (.ok context, after) ↔
      (0 < guard.scanRunId ∧ 0 < guard.capabilityProfileId) ∧
        tx.database.boundRun guard = some context ∧
        (context.runState = .running ∧ context.jobState = .running) ∧ tx = after := by
  unfold validateV5RunGuard
  simp only [bind_eq_ok, validateV5BoundRunGuard_eq_ok, ensure_eq_ok, pure_eq_ok, Bool.and_eq_true,
    decide_eq_true_eq]
  constructor
  · rintro ⟨_, _, ⟨positive, bound, rfl⟩, _, _, ⟨running, rfl⟩, rfl, rfl⟩
    exact ⟨positive, bound, running, rfl⟩
  · rintro ⟨positive, bound, running, rfl⟩
    exact ⟨context, tx, ⟨positive, bound, rfl⟩, ⟨⟩, tx, ⟨running, rfl⟩, rfl, rfl⟩

theorem validateRuntimeGuardInstance_eq_ok {guard : RuntimeLeaseGuard} {done : PUnit} :
    (validateRuntimeGuardInstance guard : Tx Rest PUnit) tx = (.ok done, after) ↔
      (tx.storeInstanceKey ≠ noInstance ∧ guard.storeInstanceKey = tx.storeInstanceKey) ∧
        tx = after := by
  unfold validateRuntimeGuardInstance
  simp only [bind_eq_ok, current_eq_ok, ensure_eq_ok, Bool.and_eq_true, decide_eq_true_eq]
  constructor
  · rintro ⟨_, _, ⟨rfl, rfl⟩, same, rfl⟩
    exact ⟨same, rfl⟩
  · rintro ⟨same, rfl⟩
    exact ⟨tx, tx, ⟨rfl, rfl⟩, same, rfl⟩

/-- A lease guard that is honoured: it is of this instance, and its lease is known to be live. -/
def RepositoryTx.Honours (tx : RepositoryTx Rest) (guard : RuntimeLeaseGuard) : Prop :=
  (tx.storeInstanceKey ≠ noInstance ∧ guard.storeInstanceKey = tx.storeInstanceKey) ∧
    tx.knowsLease guard.membership = true

theorem validateRuntimeLeaseMembership_eq_ok {guard : RuntimeLeaseGuard} {done : PUnit} :
    (validateRuntimeLeaseMembership guard : Tx Rest PUnit) tx = (.ok done, after) ↔
      tx.Honours guard ∧ tx = after := by
  unfold validateRuntimeLeaseMembership RepositoryTx.Honours
  simp only [bind_eq_ok, validateRuntimeGuardInstance_eq_ok, current_eq_ok, ensure_eq_ok]
  constructor
  · rintro ⟨_, _, ⟨same, rfl⟩, _, _, ⟨rfl, rfl⟩, known, rfl⟩
    exact ⟨⟨same, known⟩, rfl⟩
  · rintro ⟨⟨same, known⟩, rfl⟩
    exact ⟨⟨⟩, tx, ⟨same, rfl⟩, tx, tx, ⟨rfl, rfl⟩, known, rfl⟩

/-- What a lease guard that passed says of the transaction. -/
structure RepositoryTx.Leased (tx : RepositoryTx Rest) (guard : RuntimeLeaseGuard)
    (context : BoundRunContext) : Prop where
  honoured : tx.Honours guard
  positive : 0 < guard.scanRunId ∧ 0 < guard.run.capabilityProfileId
  bound : tx.database.boundRun guard.run = some context
  active : tx.database.hasActiveLease context guard = true

theorem validateRuntimeLeaseGuard_eq_ok {guard : RuntimeLeaseGuard} {context : BoundRunContext} :
    (validateRuntimeLeaseGuard guard : Tx Rest BoundRunContext) tx = (.ok context, after) ↔
      tx.Leased guard context ∧ tx = after := by
  unfold validateRuntimeLeaseGuard
  simp only [bind_eq_ok, validateRuntimeLeaseMembership_eq_ok, validateV5BoundRunGuard_eq_ok,
    current_eq_ok, ensure_eq_ok, pure_eq_ok]
  constructor
  · rintro ⟨_, _, ⟨honoured, rfl⟩, _, _, ⟨positive, bound, rfl⟩, _, _, ⟨rfl, rfl⟩, _, _,
      ⟨active, rfl⟩, rfl, rfl⟩
    exact ⟨⟨honoured, positive, bound, active⟩, rfl⟩
  · rintro ⟨⟨honoured, positive, bound, active⟩, rfl⟩
    exact ⟨⟨⟩, tx, ⟨honoured, rfl⟩, context, tx, ⟨positive, bound, rfl⟩, tx, tx, ⟨rfl, rfl⟩, ⟨⟩, tx,
      ⟨active, rfl⟩, rfl, rfl⟩

/-- The active lease of a guard that passed. -/
theorem RepositoryTx.Leased.lease {guard : RuntimeLeaseGuard} {context : BoundRunContext}
    (leased : tx.Leased guard context) :
    ∃ lease, tx.database.leases.get? guard.scanRunId = some lease ∧ lease.state = .active ∧
      lease.scanJobId = context.scanJobId ∧ lease.runtimeLeaseKey = guard.leaseKey := by
  have active := leased.active
  unfold Database.hasActiveLease Database.leaseIs at active
  obtain ⟨lease, found, holds⟩ := (Option.any_eq_true _ _).mp active
  simp only [Bool.and_eq_true, decide_eq_true_eq] at holds
  obtain ⟨⟨⟨⟨⟨⟨⟨-, job⟩, -⟩, -⟩, key⟩, -⟩, -⟩, state⟩ := holds
  exact ⟨lease, found, state, job, key⟩

theorem RepositoryTx.Leased.scanJobId {guard : RuntimeLeaseGuard} {context : BoundRunContext}
    {lease : RuntimeLeaseRow} (leased : tx.Leased guard context)
    (found : tx.database.leases.get? guard.scanRunId = some lease) :
    lease.scanJobId = context.scanJobId := by
  obtain ⟨own, there, -, job, -⟩ := leased.lease
  rw [found] at there
  cases there
  exact job

/-- The run and the job of a guard that passed. -/
theorem Database.boundRun_rows {database : Database Rest} {guard : RunEvidenceGuard}
    {context : BoundRunContext} (bound : database.boundRun guard = some context) :
    ∃ run job, database.runs.get? guard.scanRunId = some run ∧ run.state = context.runState ∧
      database.jobs.get? context.scanJobId = some job ∧ job.state = context.jobState ∧
      job.activeScanRunId = some guard.scanRunId := by
  unfold Database.boundRun at bound
  simp only [Option.bind_eq_bind, Option.bind_eq_some_iff] at bound
  obtain ⟨run, runFound, session, -, job, jobFound, bound⟩ := bound
  have id : run.id = guard.scanRunId := (Table.get?_eq_some.mp runFound).2
  split at bound
  · rename_i same
    cases bound
    exact ⟨run, job, runFound, rfl, jobFound, rfl, by rw [same.2.1, id]⟩
  · cases bound

theorem validateCoreSessionGuard_eq_ok {guard : RunEvidenceGuard} {coreSessionId : Bytes32}
    {context : BoundRunContext} :
    (validateCoreSessionGuard guard coreSessionId : Tx Rest BoundRunContext) tx =
        (.ok context, after) ↔
      tx.knowsCore (guard.scanRunId, coreSessionId) = true ∧
        (0 < guard.scanRunId ∧ 0 < guard.capabilityProfileId) ∧
        tx.database.boundRun guard = some context ∧
        (context.runState = .running ∧ context.jobState = .running) ∧
        tx.database.hasCoreSession context coreSessionId = true ∧ tx = after := by
  unfold validateCoreSessionGuard
  simp only [bind_eq_ok, validateV5RunGuard_eq_ok, current_eq_ok, ensure_eq_ok, pure_eq_ok]
  constructor
  · rintro ⟨_, _, ⟨rfl, rfl⟩, _, _, ⟨known, rfl⟩, _, _, ⟨positive, bound, running, rfl⟩, _, _,
      ⟨found, rfl⟩, rfl, rfl⟩
    exact ⟨known, positive, bound, running, found, rfl⟩
  · rintro ⟨known, positive, bound, running, found, rfl⟩
    exact ⟨tx, tx, ⟨rfl, rfl⟩, ⟨⟩, tx, ⟨known, rfl⟩, context, tx, ⟨positive, bound, running, rfl⟩,
      ⟨⟩, tx, ⟨found, rfl⟩, rfl, rfl⟩

theorem requireActiveRuntimeLeaseForCore_eq_ok {guard : RunEvidenceGuard} {coreSessionId : Bytes32}
    {done : PUnit} :
    (requireActiveRuntimeLeaseForCore guard coreSessionId : Tx Rest PUnit) tx =
        (.ok done, after) ↔
      (tx.knowsLeaseOfCore (guard.scanRunId, coreSessionId) = true ∧
        tx.database.leaseIs guard.scanRunId (fun lease =>
          lease.coreSessionId = coreSessionId && lease.state = .active) = true) ∧ tx = after := by
  unfold requireActiveRuntimeLeaseForCore
  simp only [bind_eq_ok, current_eq_ok, ensure_eq_ok, Bool.and_eq_true]
  constructor
  · rintro ⟨_, _, ⟨rfl, rfl⟩, both, rfl⟩
    exact ⟨both, rfl⟩
  · rintro ⟨both, rfl⟩
    exact ⟨tx, tx, ⟨rfl, rfl⟩, both, rfl⟩

theorem requirePendingControlRequest_eq_ok {guard : RuntimeLeaseGuard} {requestId : Int}
    {requestKey : Bytes32} {kind : ScanControlKind} {request : ControlRequestRow} :
    (requirePendingControlRequest guard requestId requestKey kind : Tx Rest ControlRequestRow) tx =
        (.ok request, after) ↔
      0 < requestId ∧
        pendingRequest tx.database guard requestId requestKey kind = some request ∧ tx = after := by
  unfold requirePendingControlRequest
  simp only [bind_eq_ok, requirePositive_eq_ok, query_eq_ok, Outcome.orError_eq_ok]
  constructor
  · rintro ⟨_, _, ⟨positive, rfl⟩, found, rfl⟩
    exact ⟨positive, found, rfl⟩
  · rintro ⟨positive, found, rfl⟩
    exact ⟨⟨⟩, tx, ⟨positive, rfl⟩, found, rfl⟩

theorem requireStageSealed_eq_ok {scanRunId : Int} {stage : String} {done : PUnit} :
    (requireStageSealed scanRunId stage : Tx Rest PUnit) tx = (.ok done, after) ↔
      tx.database.stageSealed scanRunId stage = true ∧ tx = after := by
  unfold requireStageSealed
  rw [query_eq_ok]
  split
  · rename_i present
    simp [present]
  · rename_i absent
    simp [absent]

/-! ## Guards only read -/

theorem reads_requirePositive {field : String} {value : Int} :
    Reads (requirePositive field value : Tx Rest PUnit) := reads_ensure

theorem reads_requireNonnegative {field : String} {value : Int} :
    Reads (requireNonnegative field value : Tx Rest PUnit) := reads_ensure

theorem reads_nextVersion {field reason : String} {value : Int} :
    Reads (nextVersion field reason value : Tx Rest Int) := reads_orFail

theorem reads_validateV5BoundRunGuard {guard : RunEvidenceGuard} :
    Reads (validateV5BoundRunGuard guard : Tx Rest BoundRunContext) :=
  reads_bind reads_requirePositive fun _ =>
    reads_bind reads_requirePositive fun _ => reads_query _

theorem reads_validateV5RunGuard {guard : RunEvidenceGuard} :
    Reads (validateV5RunGuard guard : Tx Rest BoundRunContext) :=
  reads_bind reads_validateV5BoundRunGuard fun _ => reads_bind reads_ensure fun _ => reads_pure

theorem reads_validateCoreSessionGuard {guard : RunEvidenceGuard} {coreSessionId : Bytes32} :
    Reads (validateCoreSessionGuard guard coreSessionId : Tx Rest BoundRunContext) :=
  reads_bind reads_current fun _ => reads_bind reads_ensure fun _ =>
    reads_bind reads_validateV5RunGuard fun _ => reads_bind reads_ensure fun _ => reads_pure

theorem reads_validateRuntimeGuardInstance {guard : RuntimeLeaseGuard} :
    Reads (validateRuntimeGuardInstance guard : Tx Rest PUnit) :=
  reads_bind reads_current fun _ => reads_ensure

theorem reads_requireActiveRuntimeLeaseForCore {guard : RunEvidenceGuard}
    {coreSessionId : Bytes32} :
    Reads (requireActiveRuntimeLeaseForCore guard coreSessionId : Tx Rest PUnit) :=
  reads_bind reads_current fun _ => reads_ensure

theorem reads_validateRuntimeLeaseGuard {guard : RuntimeLeaseGuard} :
    Reads (validateRuntimeLeaseGuard guard : Tx Rest BoundRunContext) :=
  reads_bind (reads_bind reads_validateRuntimeGuardInstance fun _ =>
    reads_bind reads_current fun _ => reads_ensure) fun _ =>
      reads_bind reads_validateV5BoundRunGuard fun _ =>
        reads_bind reads_current fun _ => reads_bind reads_ensure fun _ => reads_pure

theorem reads_requirePendingControlRequest {guard : RuntimeLeaseGuard} {requestId : Int}
    {requestKey : Bytes32} {kind : ScanControlKind} :
    Reads (requirePendingControlRequest guard requestId requestKey kind :
      Tx Rest ControlRequestRow) :=
  reads_bind reads_requirePositive fun _ => reads_query _

theorem reads_requireStageSealed {scanRunId : Int} {stage : String} :
    Reads (requireStageSealed scanRunId stage : Tx Rest PUnit) := reads_query _

/-! ## Moved rows -/

/-- A run that was moved: its row before, and what was asked of it. -/
structure MovedRun (database : Database Rest) (scanRunId : Int) (expectedState : ScanRunState)
    (expectedVersion : Int) (target : ScanRunState) (nowMs : Int)
    (lastError : Option (String × String)) (row : ScanRunRow) : Prop where
  positive : 0 < scanRunId
  nonnegative : 0 ≤ expectedVersion ∧ 0 ≤ nowMs
  valid : validRunTransition expectedState target = true
  error : validateTransitionError target lastError = .ok ()
  fits : checkedI64 (expectedVersion + 1) = some (expectedVersion + 1)
  found : database.runs.get? scanRunId = some row
  state : row.state = expectedState
  version : row.stateVersion = expectedVersion
  clock : row.updatedAtMs ≤ nowMs
  allowed :
    database.runStateAllowed row (row.moved target (expectedVersion + 1) nowMs lastError) = true

/-- The database after a run was moved. -/
def Database.withMovedRun (database : Database Rest) (scanRunId : Int) (target : ScanRunState)
    (version nowMs : Int) (lastError : Option (String × String)) : Database Rest :=
  { database with
    runs := database.runs.modify scanRunId (fun old => old.moved target version nowMs lastError)
      (ScanRunRow.moved_id target version nowMs lastError) }

/-- The database after a job was moved. -/
def Database.withMovedJob (database : Database Rest) (scanJobId : Int) (target : ScanJobState)
    (version nowMs : Int) : Database Rest :=
  { database with
    jobs := database.jobs.modify scanJobId (fun old => old.moved target version nowMs)
      (ScanJobRow.moved_id target version nowMs) }

theorem transitionScanRun_eq_ok {scanRunId expectedVersion nowMs version : Int}
    {expectedState target : ScanRunState} {lastError : Option (String × String)} :
    (transitionScanRun scanRunId expectedState expectedVersion target nowMs lastError :
        Tx Rest Int) tx = (.ok version, after) ↔
      ∃ row, MovedRun tx.database scanRunId expectedState expectedVersion target nowMs lastError
          row ∧ version = expectedVersion + 1 ∧
        after = { tx with database :=
          tx.database.withMovedRun scanRunId target (expectedVersion + 1) nowMs lastError } := by
  unfold transitionScanRun
  simp only [bind_eq_ok, requirePositive_eq_ok, requireNonnegative_eq_ok, ensure_eq_ok,
    ofExcept_eq_ok, nextVersion_eq_ok, statement_eq_ok]
  constructor
  · rintro ⟨_, _, ⟨positive, rfl⟩, _, _, ⟨versionNonneg, rfl⟩, _, _, ⟨nowNonneg, rfl⟩, _, _,
      ⟨valid, rfl⟩, _, _, ⟨error, rfl⟩, next, _, ⟨fits, rfl⟩, database, ran, rfl⟩
    have same := eq_of_nextVersion fits
    subst same
    cases found : tx.database.runs.get? scanRunId with
    | none =>
        rw [found] at ran
        cases ran
    | some row =>
        rw [found] at ran
        dsimp only at ran
        split at ran
        · rename_i matching
          obtain ⟨state, rowVersion, clock⟩ := matching
          unfold Database.moveRun at ran
          split at ran
          · rename_i allowed
            cases ran
            have id : row.id = scanRunId := (Table.get?_eq_some.mp found).2
            subst id
            exact ⟨row, ⟨positive, ⟨versionNonneg, nowNonneg⟩, valid, error, fits, found, state,
              by omega, clock, allowed⟩, rfl, rfl⟩
          · cases ran
        · cases ran
  · rintro ⟨row, moved, rfl, rfl⟩
    refine ⟨⟨⟩, tx, ⟨moved.positive, rfl⟩, ⟨⟩, tx, ⟨moved.nonnegative.1, rfl⟩, ⟨⟩, tx,
      ⟨moved.nonnegative.2, rfl⟩, ⟨⟩, tx, ⟨moved.valid, rfl⟩, (), tx, ⟨moved.error, rfl⟩,
      expectedVersion + 1, tx, ⟨moved.fits, rfl⟩, _, ?_, rfl⟩
    have version := moved.version
    have id : row.id = scanRunId := (Table.get?_eq_some.mp moved.found).2
    rw [moved.found]
    dsimp only
    rw [if_pos ⟨moved.state, by omega, moved.clock⟩]
    unfold Database.moveRun
    rw [if_pos moved.allowed, id]
    rfl

/-- A job that was moved: its row before, and what was asked of it. -/
structure MovedJob (database : Database Rest) (scanJobId : Int) (expectedState : ScanJobState)
    (expectedVersion : Int) (target : ScanJobState) (nowMs : Int) (row : ScanJobRow) : Prop where
  nonnegative : 0 ≤ expectedVersion ∧ 0 ≤ nowMs
  valid : validJobTransition expectedState target = true
  fits : checkedI64 (expectedVersion + 1) = some (expectedVersion + 1)
  found : database.jobs.get? scanJobId = some row
  state : row.state = expectedState
  version : row.stateVersion = expectedVersion
  clock : row.updatedAtMs ≤ nowMs
  allowed : database.jobStateAllowed row (row.moved target (expectedVersion + 1) nowMs) = true

theorem transitionScanJob_eq_ok {scanJobId expectedVersion nowMs version : Int}
    {expectedState target : ScanJobState} :
    (transitionScanJob scanJobId expectedState expectedVersion target nowMs : Tx Rest Int) tx =
        (.ok version, after) ↔
      ∃ row, MovedJob tx.database scanJobId expectedState expectedVersion target nowMs row ∧
        version = expectedVersion + 1 ∧
        after = { tx with database :=
          tx.database.withMovedJob scanJobId target (expectedVersion + 1) nowMs } := by
  unfold transitionScanJob
  simp only [bind_eq_ok, requireNonnegative_eq_ok, ensure_eq_ok, nextVersion_eq_ok,
    statement_eq_ok]
  constructor
  · rintro ⟨_, _, ⟨versionNonneg, rfl⟩, _, _, ⟨nowNonneg, rfl⟩, _, _, ⟨valid, rfl⟩, next, _,
      ⟨fits, rfl⟩, database, ran, rfl⟩
    have same := eq_of_nextVersion fits
    subst same
    cases found : tx.database.jobs.get? scanJobId with
    | none =>
        rw [found] at ran
        cases ran
    | some row =>
        rw [found] at ran
        dsimp only at ran
        split at ran
        · rename_i matching
          obtain ⟨state, rowVersion, clock⟩ := matching
          unfold Database.moveJob at ran
          split at ran
          · rename_i allowed
            cases ran
            have id : row.id = scanJobId := (Table.get?_eq_some.mp found).2
            subst id
            exact ⟨row, ⟨⟨versionNonneg, nowNonneg⟩, valid, fits, found, state, by omega, clock,
              allowed⟩, rfl, rfl⟩
          · cases ran
        · cases ran
  · rintro ⟨row, moved, rfl, rfl⟩
    refine ⟨⟨⟩, tx, ⟨moved.nonnegative.1, rfl⟩, ⟨⟩, tx, ⟨moved.nonnegative.2, rfl⟩, ⟨⟩, tx,
      ⟨moved.valid, rfl⟩, expectedVersion + 1, tx, ⟨moved.fits, rfl⟩, _, ?_, rfl⟩
    have version := moved.version
    have id : row.id = scanJobId := (Table.get?_eq_some.mp moved.found).2
    rw [moved.found]
    dsimp only
    rw [if_pos ⟨moved.state, by omega, moved.clock⟩]
    unfold Database.moveJob
    rw [if_pos moved.allowed, id]
    rfl

/-! ## Leases -/

theorem updateLease_eq_ok {scanRunId : Int} {state : LeaseState} {entity : String}
    {change : RuntimeLeaseRow → RuntimeLeaseRow}
    {keeps : ∀ row, (change row).scanRunId = row.scanRunId} {done : PUnit} :
    (updateLease scanRunId state entity change keeps : Tx Rest PUnit) tx = (.ok done, after) ↔
      ∃ row, tx.database.leases.get? scanRunId = some row ∧ row.state = state ∧
        tx.database.leaseUpdateAllowed row (change row) = true ∧
        after = { tx with database := { tx.database with
          leases := tx.database.leases.modify scanRunId change keeps } } := by
  unfold updateLease
  rw [statement_eq_ok]
  constructor
  · rintro ⟨database, ran, rfl⟩
    split at ran
    · rename_i row found
      split at ran
      · rename_i same
        split at ran
        · rename_i allowed
          cases ran
          exact ⟨row, found, same, allowed, rfl⟩
        · cases ran
      · cases ran
    · cases ran
  · rintro ⟨row, found, same, allowed, rfl⟩
    refine ⟨_, ?_, rfl⟩
    rw [found]
    dsimp only
    rw [if_pos same, if_pos allowed]

/-- The lease as a release begins. -/
def RuntimeLeaseRow.releasing (row : RuntimeLeaseRow) (reason : ReleaseReason) (nowMs : Int) :
    RuntimeLeaseRow :=
  { row with
    state := .releasing
    releaseReason := some reason
    releaseStartedAtMs := some (max nowMs row.lastHeartbeatAtMs) }

/-- The lease as a release ends. -/
def RuntimeLeaseRow.released (row : RuntimeLeaseRow) (nowMs : Int) : RuntimeLeaseRow :=
  { row with
    state := .released
    releasedAtMs := row.releaseStartedAtMs.map (max nowMs) }

def Database.withReleasing (database : Database Rest) (scanRunId : Int) (reason : ReleaseReason)
    (nowMs : Int) : Database Rest :=
  { database with
    leases := database.leases.modify scanRunId (fun row => row.releasing reason nowMs)
      fun _ => rfl }

def Database.withReleased (database : Database Rest) (scanRunId nowMs : Int) : Database Rest :=
  { database with
    leases := database.leases.modify scanRunId (fun row => row.released nowMs) fun _ => rfl }

theorem beginRuntimeLeaseRelease_eq_ok {guard : RuntimeLeaseGuard} {reason : ReleaseReason}
    {nowMs : Int} {done : PUnit} :
    (beginRuntimeLeaseRelease guard reason nowMs : Tx Rest PUnit) tx = (.ok done, after) ↔
      0 ≤ nowMs ∧ ∃ row, tx.database.leases.get? guard.scanRunId = some row ∧
        row.state = .active ∧
        tx.database.leaseUpdateAllowed row (row.releasing reason nowMs) = true ∧
        after = { tx with database :=
          tx.database.withReleasing guard.scanRunId reason nowMs } := by
  unfold beginRuntimeLeaseRelease
  simp only [bind_eq_ok, requireNonnegative_eq_ok, updateLease_eq_ok]
  constructor
  · rintro ⟨_, _, ⟨nonneg, rfl⟩, row, found, same, allowed, rfl⟩
    exact ⟨nonneg, row, found, same, allowed, rfl⟩
  · rintro ⟨nonneg, row, found, same, allowed, rfl⟩
    exact ⟨⟨⟩, tx, ⟨nonneg, rfl⟩, row, found, same, allowed, rfl⟩

theorem finishRuntimeLeaseRelease_eq_ok {guard : RuntimeLeaseGuard} {nowMs : Int} {done : PUnit} :
    (finishRuntimeLeaseRelease guard nowMs : Tx Rest PUnit) tx = (.ok done, after) ↔
      ∃ row, tx.database.leases.get? guard.scanRunId = some row ∧ row.state = .releasing ∧
        tx.database.leaseUpdateAllowed row (row.released nowMs) = true ∧
        after = { tx with
          database := tx.database.withReleased guard.scanRunId nowMs
          releasedRuntimeLeases := tx.releasedRuntimeLeases ++ [guard.membership] } := by
  unfold finishRuntimeLeaseRelease
  simp only [bind_eq_ok, updateLease_eq_ok, update_eq_ok]
  constructor
  · rintro ⟨_, _, ⟨row, found, same, allowed, rfl⟩, rfl⟩
    exact ⟨row, found, same, allowed, rfl⟩
  · rintro ⟨row, found, same, allowed, rfl⟩
    exact ⟨⟨⟩, _, ⟨row, found, same, allowed, rfl⟩, rfl⟩

/-! ## Acknowledged requests -/

theorem acknowledgeControlRequest_eq_ok {requestId jobVersion runVersion acknowledgedAtMs : Int}
    {generation : Option Int} {reasonCode : String} {pauseCheckpoint : Option (Bytes32 × Bytes32)}
    {done : PUnit} :
    (acknowledgeControlRequest requestId jobVersion runVersion generation reasonCode
        acknowledgedAtMs pauseCheckpoint : Tx Rest PUnit) tx = (.ok done, after) ↔
      ∃ row, tx.database.requests.get? requestId = some row ∧ row.disposition = .pending ∧
        tx.database.requestUpdateAllowed row (row.acknowledged jobVersion runVersion generation
          reasonCode acknowledgedAtMs pauseCheckpoint) = true ∧
        acknowledgedShape (row.acknowledged jobVersion runVersion generation reasonCode
          acknowledgedAtMs pauseCheckpoint) = true ∧
        after = { tx with database := { tx.database with
          requests := tx.database.requests.modify requestId (fun old => old.acknowledged jobVersion
            runVersion generation reasonCode acknowledgedAtMs pauseCheckpoint) fun _ => rfl } } := by
  unfold acknowledgeControlRequest
  rw [statement_eq_ok]
  constructor
  · rintro ⟨database, ran, rfl⟩
    split at ran
    · rename_i row found
      split at ran
      · rename_i same
        dsimp only at ran
        split at ran
        · rename_i allowed
          cases ran
          rw [Bool.and_eq_true] at allowed
          exact ⟨row, found, same, allowed.1, allowed.2, rfl⟩
        · cases ran
      · cases ran
    · cases ran
  · rintro ⟨row, found, same, allowed, shape, rfl⟩
    refine ⟨_, ?_, rfl⟩
    rw [found]
    dsimp only
    rw [if_pos same, if_pos (by rw [allowed, shape]; rfl)]

end Guiying.Store
