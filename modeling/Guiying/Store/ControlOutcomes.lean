import Guiying.Store.ControlSteps

/-!
# What the operations of scan control did

When an operation returns, what it found in the transaction, and the transaction it
leaves. The two operations that end a lease share the moves of lease, run and job.
-/

namespace Guiying.Store

open Guiying.Foundation Guiying.Foundation.MachineInt Program

variable {Rest : Type} {tx after : RepositoryTx Rest}

/-! ## The end of a lease -/

/-- What the end of a lease asks of run and job. -/
structure EndOfLease where
  reason : ReleaseReason
  runState : ScanRunState
  runVersion : Int
  runTarget : ScanRunState
  jobState : ScanJobState
  jobVersion : Int
  jobTarget : ScanJobState
  lastError : Option (String × String)

/-- The database with the lease releasing and run and job moved. -/
def Database.ended (database : Database Rest) (scanRunId scanJobId : Int) (kind : EndOfLease)
    (nowMs : Int) : Database Rest :=
  ((database.withReleasing scanRunId kind.reason nowMs).withMovedRun scanRunId kind.runTarget
    (kind.runVersion + 1) nowMs kind.lastError).withMovedJob scanJobId kind.jobTarget
    (kind.jobVersion + 1) nowMs

/-- Lease, run and job were in the tables, and each was moved. -/
structure Ending (database : Database Rest) (scanRunId scanJobId : Int) (kind : EndOfLease)
    (nowMs : Int) (lease : RuntimeLeaseRow) (run : ScanRunRow) (job : ScanJobRow) : Prop where
  nonnegative : 0 ≤ nowMs
  found : database.leases.get? scanRunId = some lease
  active : lease.state = .active
  run : MovedRun (database.withReleasing scanRunId kind.reason nowMs) scanRunId kind.runState
    kind.runVersion kind.runTarget nowMs kind.lastError run
  job : MovedJob ((database.withReleasing scanRunId kind.reason nowMs).withMovedRun scanRunId
    kind.runTarget (kind.runVersion + 1) nowMs kind.lastError) scanJobId kind.jobState
    kind.jobVersion kind.jobTarget nowMs job

/-- Whether run and job of a lease are where a release for the reason may end. -/
def Database.mayEnd (database : Database Rest) (scanRunId scanJobId : Int) (reason : ReleaseReason) :
    Bool :=
  (database.runs.get? scanRunId).any fun run => (database.jobs.get? scanJobId).any fun job =>
    releaseEnds reason run.state job.state

theorem beginRelease_allowed {database : Database Rest} {row : RuntimeLeaseRow}
    (active : row.state = .active) (reason : ReleaseReason) (nowMs : Int) :
    database.leaseUpdateAllowed row (row.releasing reason nowMs) = true := by
  unfold Database.leaseUpdateAllowed Database.sameLease Database.sameEvidence RuntimeLeaseRow.releasing
  rw [active]
  simp

/-- The end of a release, whenever it began, asks only for the states of run and job. -/
theorem finishRelease_allowed {database : Database Rest} (row : RuntimeLeaseRow)
    (reason : ReleaseReason) (startedMs nowMs : Int) :
    database.leaseUpdateAllowed (row.releasing reason startedMs)
        ((row.releasing reason startedMs).released nowMs) =
      database.mayEnd row.scanRunId row.scanJobId reason := by
  unfold Database.leaseUpdateAllowed Database.sameLease Database.sameEvidence RuntimeLeaseRow.releasing
    RuntimeLeaseRow.released Database.mayEnd
  simp
  omega

theorem get?_withReleasing {database : Database Rest} {scanRunId nowMs : Int}
    {reason : ReleaseReason} {row : RuntimeLeaseRow}
    (found : database.leases.get? scanRunId = some row) :
    (database.withReleasing scanRunId reason nowMs).leases.get? scanRunId =
      some (row.releasing reason nowMs) :=
  Table.get?_modify_self (fun row : RuntimeLeaseRow => row.releasing reason nowMs)
    (fun _ : RuntimeLeaseRow => rfl) found

/-- The release of a lease that was begun in the same transaction. -/
theorem finishRuntimeLeaseRelease_ended {guard : RuntimeLeaseGuard} {lease : RuntimeLeaseRow}
    {reason : ReleaseReason} {startedMs nowMs : Int} {done : PUnit}
    (found : tx.database.leases.get? guard.scanRunId = some (lease.releasing reason startedMs)) :
    (finishRuntimeLeaseRelease guard nowMs : Tx Rest PUnit) tx = (.ok done, after) ↔
      tx.database.mayEnd lease.scanRunId lease.scanJobId reason = true ∧
        after = { tx with
          database := tx.database.withReleased guard.scanRunId nowMs
          releasedRuntimeLeases := tx.releasedRuntimeLeases ++ [guard.membership] } := by
  rw [finishRuntimeLeaseRelease_eq_ok]
  constructor
  · rintro ⟨row, there, -, allowed, same⟩
    rw [found] at there
    cases there
    rw [finishRelease_allowed] at allowed
    exact ⟨allowed, same⟩
  · rintro ⟨ends, same⟩
    refine ⟨_, found, rfl, ?_, same⟩
    rw [finishRelease_allowed]
    exact ends

/-! ## Terminal transitions -/

def LeasedScanTerminalOutcome.ending (outcome : LeasedScanTerminalOutcome)
    (jobState : ScanJobState) (jobVersion : Int) (runState : ScanRunState) (runVersion : Int)
    (lastError : Option (String × String)) : EndOfLease where
  reason := outcome.releaseReason
  runState := runState
  runVersion := runVersion
  runTarget := outcome.runState
  jobState := jobState
  jobVersion := jobVersion
  jobTarget := outcome.jobState
  lastError := lastError

/-- The transaction once the lease has ended. -/
def RepositoryTx.withEnded (tx : RepositoryTx Rest) (guard : RuntimeLeaseGuard)
    (database : Database Rest) (nowMs : Int) : RepositoryTx Rest :=
  { tx with
    database := database.withReleased guard.scanRunId nowMs
    releasedRuntimeLeases := tx.releasedRuntimeLeases ++ [guard.membership] }

theorem transitionLeasedScanJobAndRun_eq_ok {guard : RuntimeLeaseGuard}
    {expectedJobState : ScanJobState} {expectedJobVersion : Int} {expectedRunState : ScanRunState}
    {expectedRunVersion : Int} {outcome : LeasedScanTerminalOutcome} {nowMs : Int}
    {lastError : Option (String × String)} {versions : Int × Int} :
    transitionLeasedScanJobAndRun guard expectedJobState expectedJobVersion expectedRunState
        expectedRunVersion outcome nowMs lastError tx = (.ok versions, after) ↔
      ∃ context lease run job, tx.Leased guard context ∧
        (context.jobState = expectedJobState ∧ context.runState = expectedRunState) ∧
        tx.database.hasPending guard.scanRunId = false ∧
        (outcome = .completed →
          tx.database.stageSealed guard.scanRunId "exact_verification" = true) ∧
        Ending tx.database guard.scanRunId context.scanJobId
          (outcome.ending expectedJobState expectedJobVersion expectedRunState expectedRunVersion
            lastError) nowMs lease run job ∧
        (tx.database.ended guard.scanRunId context.scanJobId
          (outcome.ending expectedJobState expectedJobVersion expectedRunState expectedRunVersion
            lastError) nowMs).mayEnd lease.scanRunId lease.scanJobId outcome.releaseReason = true ∧
        versions = (expectedJobVersion + 1, expectedRunVersion + 1) ∧
        after = tx.withEnded guard (tx.database.ended guard.scanRunId context.scanJobId
          (outcome.ending expectedJobState expectedJobVersion expectedRunState expectedRunVersion
            lastError) nowMs) nowMs := by
  constructor
  · intro ran
    unfold transitionLeasedScanJobAndRun at ran
    obtain ⟨context, s1, ran1, ran⟩ := bind_eq_ok.mp ran
    obtain ⟨leased, rfl⟩ := validateRuntimeLeaseGuard_eq_ok.mp ran1
    obtain ⟨_, s2, ran2, ran⟩ := bind_eq_ok.mp ran
    obtain ⟨states, rfl⟩ := ensure_eq_ok.mp ran2
    rw [Bool.and_eq_true, decide_eq_true_eq, decide_eq_true_eq] at states
    obtain ⟨pending, s3, ran3, ran⟩ := bind_eq_ok.mp ran
    obtain ⟨settled, rfl⟩ := query_eq_ok.mp ran3
    cases settled
    obtain ⟨_, s4, ran4, ran⟩ := bind_eq_ok.mp ran
    obtain ⟨settled, rfl⟩ := ensure_eq_ok.mp ran4
    rw [Bool.not_eq_true'] at settled
    obtain ⟨stage, ran⟩ := (when_eq_ok reads_requireStageSealed).mp ran
    obtain ⟨_, s6, ran6, ran⟩ := bind_eq_ok.mp ran
    obtain ⟨nonnegative, lease, found, active, -, rfl⟩ := beginRuntimeLeaseRelease_eq_ok.mp ran6
    obtain ⟨observedRun, s7, ran7, ran⟩ := bind_eq_ok.mp ran
    obtain ⟨run, movedRun, rfl, rfl⟩ := transitionScanRun_eq_ok.mp ran7
    obtain ⟨observedJob, s8, ran8, ran⟩ := bind_eq_ok.mp ran
    obtain ⟨job, movedJob, rfl, rfl⟩ := transitionScanJob_eq_ok.mp ran8
    obtain ⟨_, s9, ran9, ran⟩ := bind_eq_ok.mp ran
    obtain ⟨ends, rfl⟩ := (finishRuntimeLeaseRelease_ended (get?_withReleasing found)).mp ran9
    obtain ⟨rfl, rfl⟩ := pure_eq_ok.mp ran
    exact ⟨context, lease, run, job, leased, states, settled,
      fun completed => (requireStageSealed_eq_ok.mp (stage completed)).1,
      ⟨nonnegative, found, active, movedRun, movedJob⟩, ends, rfl, rfl⟩
  · rintro ⟨context, lease, run, job, leased, states, settled, stage, ending, ends, rfl, rfl⟩
    unfold transitionLeasedScanJobAndRun
    refine bind_eq_ok.mpr ⟨context, tx, validateRuntimeLeaseGuard_eq_ok.mpr ⟨leased, rfl⟩, ?_⟩
    refine bind_eq_ok.mpr ⟨⟨⟩, tx, ensure_eq_ok.mpr ⟨?_, rfl⟩, ?_⟩
    · rw [Bool.and_eq_true, decide_eq_true_eq, decide_eq_true_eq]
      exact states
    refine bind_eq_ok.mpr ⟨_, tx, query_eq_ok.mpr ⟨rfl, rfl⟩, ?_⟩
    refine bind_eq_ok.mpr ⟨⟨⟩, tx, ensure_eq_ok.mpr ⟨by rw [settled]; rfl, rfl⟩, ?_⟩
    refine (when_eq_ok reads_requireStageSealed).mpr
      ⟨fun completed => requireStageSealed_eq_ok.mpr ⟨stage completed, rfl⟩, ?_⟩
    refine bind_eq_ok.mpr ⟨⟨⟩, _, beginRuntimeLeaseRelease_eq_ok.mpr ⟨ending.nonnegative, lease,
      ending.found, ending.active, beginRelease_allowed ending.active _ _, rfl⟩, ?_⟩
    refine bind_eq_ok.mpr ⟨_, _, transitionScanRun_eq_ok.mpr ⟨run, ending.run, rfl, rfl⟩, ?_⟩
    refine bind_eq_ok.mpr ⟨_, _, transitionScanJob_eq_ok.mpr ⟨job, ending.job, rfl, rfl⟩, ?_⟩
    exact bind_eq_ok.mpr ⟨⟨⟩, _, (finishRuntimeLeaseRelease_ended
      (get?_withReleasing ending.found)).mpr ⟨ends, rfl⟩, pure_eq_ok.mpr ⟨rfl, rfl⟩⟩

/-! ## Acknowledged cancels -/

/-- The database with a request acknowledged. -/
def Database.withAcknowledged (database : Database Rest) (requestId jobVersion runVersion : Int)
    (generation : Option Int) (reasonCode : String) (acknowledgedAtMs : Int)
    (pauseCheckpoint : Option (Bytes32 × Bytes32)) : Database Rest :=
  { database with
    requests := database.requests.modify requestId (fun old => old.acknowledged jobVersion runVersion
      generation reasonCode acknowledgedAtMs pauseCheckpoint)
      (ControlRequestRow.acknowledged_id jobVersion runVersion generation reasonCode
        acknowledgedAtMs pauseCheckpoint) }

/-- The end that a cancel asks for, from where run and job are. -/
def ControlRequestRow.ending (request : ControlRequestRow) (context : BoundRunContext) :
    EndOfLease where
  reason := .cancelled
  runState := context.runState
  runVersion := request.expectedRunStateVersion
  runTarget := .cancelled
  jobState := context.jobState
  jobVersion := request.expectedJobStateVersion
  jobTarget := .cancelled
  lastError := none

/-- A cancel as its acknowledgement leaves it. -/
def ControlRequestRow.cancelled (request : ControlRequestRow) (generation : Option Int)
    (acknowledgedAtMs : Int) : ControlRequestRow :=
  request.acknowledged (request.expectedJobStateVersion + 1) (request.expectedRunStateVersion + 1)
    generation "CANCEL_ACKNOWLEDGED" acknowledgedAtMs none

/-- The database with the lease ended and the cancel acknowledged. -/
def Database.cancelled (database : Database Rest) (scanRunId : Int) (context : BoundRunContext)
    (request : ControlRequestRow) (acknowledgedAtMs : Int) : Database Rest :=
  (database.ended scanRunId context.scanJobId (request.ending context)
    acknowledgedAtMs).withAcknowledged request.id (request.expectedJobStateVersion + 1)
      (request.expectedRunStateVersion + 1)
      ((database.latestCheckpoint scanRunId).map PauseCheckpointRow.generation)
      "CANCEL_ACKNOWLEDGED" acknowledgedAtMs none

theorem pendingRequest_eq_some {database : Database Rest} {guard : RuntimeLeaseGuard}
    {requestId : Int} {requestKey : Bytes32} {kind : ScanControlKind} {request : ControlRequestRow} :
    pendingRequest database guard requestId requestKey kind = some request ↔
      database.requests.get? requestId = some request ∧ request.requestKey = requestKey ∧
        request.scanRunId = guard.scanRunId ∧ request.runtimeLeaseKey = guard.leaseKey ∧
        request.kind = kind ∧ request.disposition = .pending := by
  unfold pendingRequest
  rw [Option.filter_eq_some_iff]
  simp only [Bool.and_eq_true, decide_eq_true_eq, and_assoc]

theorem acknowledgeCancel_eq_ok {guard : RuntimeLeaseGuard} {requestId : Int}
    {requestKey : Bytes32} {acknowledgedAtMs : Int} {versions : Int × Int} :
    acknowledgeCancel guard requestId requestKey acknowledgedAtMs tx = (.ok versions, after) ↔
      ∃ context request lease run job, tx.Leased guard context ∧ 0 < requestId ∧
        pendingRequest tx.database guard requestId requestKey .cancel = some request ∧
        Ending tx.database guard.scanRunId context.scanJobId (request.ending context)
          acknowledgedAtMs lease run job ∧
        (tx.database.ended guard.scanRunId context.scanJobId (request.ending context)
          acknowledgedAtMs).requestUpdateAllowed request (request.cancelled
            ((tx.database.latestCheckpoint guard.scanRunId).map PauseCheckpointRow.generation)
            acknowledgedAtMs) = true ∧
        (tx.database.ended guard.scanRunId context.scanJobId (request.ending context)
          acknowledgedAtMs).mayEnd lease.scanRunId lease.scanJobId .cancelled = true ∧
        versions = (request.expectedJobStateVersion + 1, request.expectedRunStateVersion + 1) ∧
        after = tx.withEnded guard
          (tx.database.cancelled guard.scanRunId context request acknowledgedAtMs)
          acknowledgedAtMs := by
  constructor
  · intro ran
    unfold acknowledgeCancel at ran
    obtain ⟨context, s1, ran1, ran⟩ := bind_eq_ok.mp ran
    obtain ⟨leased, rfl⟩ := validateRuntimeLeaseGuard_eq_ok.mp ran1
    obtain ⟨request, s2, ran2, ran⟩ := bind_eq_ok.mp ran
    obtain ⟨positive, pending, rfl⟩ := requirePendingControlRequest_eq_ok.mp ran2
    obtain ⟨present, -⟩ := pendingRequest_eq_some.mp pending
    have id : request.id = requestId := (Table.get?_eq_some.mp present).2
    subst id
    obtain ⟨_, s3, ran3, ran⟩ := bind_eq_ok.mp ran
    obtain ⟨nonnegative, lease, found, active, -, rfl⟩ := beginRuntimeLeaseRelease_eq_ok.mp ran3
    obtain ⟨observedRun, s4, ran4, ran⟩ := bind_eq_ok.mp ran
    obtain ⟨run, movedRun, rfl, rfl⟩ := transitionScanRun_eq_ok.mp ran4
    obtain ⟨observedJob, s5, ran5, ran⟩ := bind_eq_ok.mp ran
    obtain ⟨job, movedJob, rfl, rfl⟩ := transitionScanJob_eq_ok.mp ran5
    obtain ⟨generation, s6, ran6, ran⟩ := bind_eq_ok.mp ran
    obtain ⟨latest, rfl⟩ := query_eq_ok.mp ran6
    cases latest
    obtain ⟨_, s7, ran7, ran⟩ := bind_eq_ok.mp ran
    obtain ⟨row, there, -, allowed, -, rfl⟩ := acknowledgeControlRequest_eq_ok.mp ran7
    have same : request = row := Option.some.inj (present.symm.trans there)
    subst same
    obtain ⟨_, s8, ran8, ran⟩ := bind_eq_ok.mp ran
    obtain ⟨ends, rfl⟩ := (finishRuntimeLeaseRelease_ended (get?_withReleasing found)).mp ran8
    obtain ⟨rfl, rfl⟩ := pure_eq_ok.mp ran
    exact ⟨context, request, lease, run, job, leased, positive, pending,
      ⟨nonnegative, found, active, movedRun, movedJob⟩, allowed, ends, rfl, rfl⟩
  · rintro ⟨context, request, lease, run, job, leased, positive, pending, ending, allowed, ends, rfl,
      rfl⟩
    obtain ⟨present, -, -, -, kind, waiting⟩ := pendingRequest_eq_some.mp pending
    have id : request.id = requestId := (Table.get?_eq_some.mp present).2
    subst id
    unfold acknowledgeCancel
    refine bind_eq_ok.mpr ⟨context, tx, validateRuntimeLeaseGuard_eq_ok.mpr ⟨leased, rfl⟩, ?_⟩
    refine bind_eq_ok.mpr ⟨request, tx, requirePendingControlRequest_eq_ok.mpr
      ⟨positive, pending, rfl⟩, ?_⟩
    refine bind_eq_ok.mpr ⟨⟨⟩, _, beginRuntimeLeaseRelease_eq_ok.mpr ⟨ending.nonnegative, lease,
      ending.found, ending.active, beginRelease_allowed ending.active _ _, rfl⟩, ?_⟩
    refine bind_eq_ok.mpr ⟨_, _, transitionScanRun_eq_ok.mpr ⟨run, ending.run, rfl, rfl⟩, ?_⟩
    refine bind_eq_ok.mpr ⟨_, _, transitionScanJob_eq_ok.mpr ⟨job, ending.job, rfl, rfl⟩, ?_⟩
    refine bind_eq_ok.mpr ⟨_, _, query_eq_ok.mpr ⟨rfl, rfl⟩, ?_⟩
    have shape : acknowledgedShape (request.acknowledged (request.expectedJobStateVersion + 1)
        (request.expectedRunStateVersion + 1)
        ((tx.database.latestCheckpoint guard.scanRunId).map PauseCheckpointRow.generation)
        "CANCEL_ACKNOWLEDGED" acknowledgedAtMs none) = true := by
      unfold acknowledgedShape ControlRequestRow.acknowledged
      rw [kind]
      rfl
    refine bind_eq_ok.mpr ⟨⟨⟩, _, acknowledgeControlRequest_eq_ok.mpr
      ⟨request, present, waiting, allowed, shape, rfl⟩, ?_⟩
    exact bind_eq_ok.mpr ⟨⟨⟩, _, (finishRuntimeLeaseRelease_ended
      (get?_withReleasing ending.found)).mpr ⟨ends, rfl⟩, pure_eq_ok.mpr ⟨rfl, rfl⟩⟩

/-! ## Requests -/

/-- The database with what is pending for the run superseded. -/
def Database.superseding (database : Database Rest) (scanRunId requestedAtMs byId : Int) :
    Database Rest :=
  { database with
    requests := database.requests.update (supersededRow scanRunId requestedAtMs byId)
      (supersededRow_id scanRunId requestedAtMs byId) }

/-- The database in which a new request is inserted: a cancel has superseded what was pending. -/
def Database.beforeRequest (database : Database Rest) (guard : RuntimeLeaseGuard)
    (input : ScanControlRequestInput) : Database Rest :=
  if input.kind = .cancel then
    database.superseding guard.scanRunId input.requestedAtMs (database.lastRequestId + 1)
  else database

/-- The row of a new request. -/
def Database.newRequest (database : Database Rest) (guard : RuntimeLeaseGuard)
    (input : ScanControlRequestInput) (volumeId : Int) : ControlRequestRow :=
  newRequestRow guard input volumeId (database.lastRequestId + 1)
    (database.lastSequence guard.scanRunId + 1)

/-- What is pending may be superseded at any time. -/
theorem superseded_allowed (database : Database Rest) (scanRunId requestedAtMs byId : Int)
    (row : ControlRequestRow) :
    supersededRow scanRunId requestedAtMs byId row = row ∨
      database.requestUpdateAllowed row (supersededRow scanRunId requestedAtMs byId row) = true := by
  unfold supersededRow
  split
  · rename_i pending
    right
    unfold Database.requestUpdateAllowed Database.sameRequest Database.isPending
    simp [pending.2.1]
  · exact .inl rfl

theorem supersedePending_eq_ok {scanRunId requestedAtMs byId : Int} {done : PUnit} :
    (supersedePending scanRunId requestedAtMs byId : Tx Rest PUnit) tx = (.ok done, after) ↔
      after = { tx with
        database := tx.database.superseding scanRunId requestedAtMs byId } := by
  unfold supersedePending
  rw [statement_eq_ok]
  dsimp only
  rw [if_pos (List.all_eq_true.mpr fun row _ => by
    rw [Bool.or_eq_true, decide_eq_true_eq]
    exact superseded_allowed tx.database scanRunId requestedAtMs byId row)]
  constructor
  · rintro ⟨_, ⟨⟩, rfl⟩
    rfl
  · rintro rfl
    exact ⟨_, rfl, rfl⟩

theorem insertRequest_eq_ok {row : ControlRequestRow} {done : PUnit} :
    (insertRequest row : Tx Rest PUnit) tx = (.ok done, after) ↔
      ∃ requests, (tx.database.requestInsertAllowed row = true ∧
          row.requestKey ∉ tx.database.requests.rows.map ControlRequestRow.requestKey) ∧
        tx.database.requests.insert row = some requests ∧
        after = { tx with database := { tx.database with requests := requests } } := by
  unfold insertRequest
  rw [statement_eq_ok]
  constructor
  · rintro ⟨database, ran, rfl⟩
    split at ran
    · rename_i allowed
      split at ran
      · rename_i requests inserted
        cases ran
        exact ⟨requests, allowed, inserted, rfl⟩
      · cases ran
    · cases ran
  · rintro ⟨requests, allowed, inserted, rfl⟩
    refine ⟨_, ?_, rfl⟩
    rw [if_pos allowed, inserted]

/-- A request under a key that is not stored yet. -/
theorem requestScanControl_eq_ok {guard : RuntimeLeaseGuard} {input : ScanControlRequestInput}
    {row : ControlRequestRow}
    (fresh : (tx.database.requests.rows.find? fun row => row.requestKey = input.requestKey) = none) :
    requestScanControl guard input tx = (.ok row, after) ↔
      ∃ context requests, tx.Leased guard context ∧
        leasedVersions tx.database guard.scanRunId =
          some (input.expectedJobStateVersion, input.expectedRunStateVersion) ∧
        row = tx.database.newRequest guard input context.volumeId ∧
        ((tx.database.beforeRequest guard input).requestInsertAllowed row = true ∧ row.requestKey ∉
          (tx.database.beforeRequest guard input).requests.rows.map ControlRequestRow.requestKey) ∧
        (tx.database.beforeRequest guard input).requests.insert row = some requests ∧
        after = { tx with database :=
          { tx.database.beforeRequest guard input with requests := requests } } := by
  have before : ∀ {state : RepositoryTx Rest} {next : PUnit → Tx Rest ControlRequestRow}
      {result : ControlRequestRow},
      (if input.kind = .cancel then
        (supersedePending guard.scanRunId input.requestedAtMs (state.database.lastRequestId + 1) :
          Tx Rest PUnit) >>= next
      else next ⟨⟩) state = (.ok result, after) ↔
      next ⟨⟩ { state with database := state.database.beforeRequest guard input } =
        (.ok result, after) := by
    intro state next result
    unfold Database.beforeRequest
    split
    · rw [bind_eq_ok]
      constructor
      · rintro ⟨_, middle, ran, rest⟩
        rwa [supersedePending_eq_ok.mp ran] at rest
      · intro rest
        exact ⟨⟨⟩, _, supersedePending_eq_ok.mpr rfl, rest⟩
    · rfl
  unfold requestScanControl
  constructor
  · intro ran
    obtain ⟨_, s1, ran1, ran⟩ := bind_eq_ok.mp ran
    obtain ⟨-, rfl⟩ := validateRuntimeGuardInstance_eq_ok.mp ran1
    obtain ⟨_, s2, ran2, ran⟩ := bind_eq_ok.mp ran
    obtain ⟨rfl, rfl⟩ := current_eq_ok.mp ran2
    rw [fresh] at ran
    obtain ⟨context, s3, ran3, ran⟩ := bind_eq_ok.mp ran
    obtain ⟨leased, rfl⟩ := validateRuntimeLeaseGuard_eq_ok.mp ran3
    obtain ⟨versions, s4, ran4, ran⟩ := bind_eq_ok.mp ran
    obtain ⟨found, rfl⟩ := orFail_eq_ok.mp ran4
    obtain ⟨_, s5, ran5, ran⟩ := bind_eq_ok.mp ran
    obtain ⟨same, rfl⟩ := ensure_eq_ok.mp ran5
    rw [of_decide_eq_true same] at found
    obtain ⟨_, s6, ran6, ran⟩ := bind_eq_ok.mp (before.mp ran)
    obtain ⟨requests, allowed, inserted, rfl⟩ := insertRequest_eq_ok.mp ran6
    obtain ⟨rfl, rfl⟩ := pure_eq_ok.mp ran
    exact ⟨context, requests, leased, found, rfl, allowed, inserted, rfl⟩
  · rintro ⟨context, requests, leased, found, rfl, allowed, inserted, rfl⟩
    refine bind_eq_ok.mpr ⟨⟨⟩, tx, validateRuntimeGuardInstance_eq_ok.mpr
      ⟨leased.honoured.1, rfl⟩, ?_⟩
    refine bind_eq_ok.mpr ⟨tx, tx, current_eq_ok.mpr ⟨rfl, rfl⟩, ?_⟩
    rw [fresh]
    refine bind_eq_ok.mpr ⟨context, tx, validateRuntimeLeaseGuard_eq_ok.mpr ⟨leased, rfl⟩, ?_⟩
    refine bind_eq_ok.mpr ⟨_, tx, orFail_eq_ok.mpr ⟨found, rfl⟩, ?_⟩
    refine bind_eq_ok.mpr ⟨⟨⟩, tx, ensure_eq_ok.mpr ⟨decide_eq_true rfl, rfl⟩, ?_⟩
    refine before.mpr (bind_eq_ok.mpr ⟨⟨⟩, _, insertRequest_eq_ok.mpr
      ⟨requests, allowed, inserted, rfl⟩, pure_eq_ok.mpr ⟨rfl, rfl⟩⟩)

theorem insertCheckpoint_eq_ok {row : PauseCheckpointRow} {done : PUnit} :
    (insertCheckpoint row : Tx Rest PUnit) tx = (.ok done, after) ↔
      ∃ checkpoints, (tx.database.checkpointInsertAllowed row = true ∧
          row.writeKey ∉ tx.database.checkpoints.rows.map PauseCheckpointRow.writeKey ∧
          row.pauseRequestId ∉
            tx.database.checkpoints.rows.map PauseCheckpointRow.pauseRequestId) ∧
        tx.database.checkpoints.insert row = some checkpoints ∧
        after = { tx with database := { tx.database with checkpoints := checkpoints } } := by
  unfold insertCheckpoint
  rw [statement_eq_ok]
  constructor
  · rintro ⟨database, ran, rfl⟩
    split at ran
    · rename_i allowed
      split at ran
      · rename_i checkpoints inserted
        cases ran
        exact ⟨checkpoints, allowed, inserted, rfl⟩
      · cases ran
    · cases ran
  · rintro ⟨checkpoints, allowed, inserted, rfl⟩
    refine ⟨_, ?_, rfl⟩
    rw [if_pos allowed, inserted]

/-! ## Acknowledged resumes -/

/-- The database with job and run running again and the resume acknowledged. -/
def Database.resumed (database : Database Rest) (scanRunId scanJobId : Int)
    (request : ControlRequestRow) (generation acknowledgedAtMs : Int) : Database Rest :=
  ((database.withMovedJob scanJobId .running (request.expectedJobStateVersion + 1)
    acknowledgedAtMs).withMovedRun scanRunId .running (request.expectedRunStateVersion + 1)
    acknowledgedAtMs none).withAcknowledged request.id (request.expectedJobStateVersion + 1)
      (request.expectedRunStateVersion + 1) (some generation) "RESUME_ACKNOWLEDGED"
      acknowledgedAtMs none

theorem acknowledgeResume_of_ok {guard : RuntimeLeaseGuard} {requestId : Int}
    {requestKey : Bytes32} {acknowledgedAtMs : Int} {versions : Int × Int}
    (ran : acknowledgeResume guard requestId requestKey acknowledgedAtMs tx =
      (.ok versions, after)) :
    ∃ context request generation run job, tx.Leased guard context ∧
      pendingRequest tx.database guard requestId requestKey .resume = some request ∧
      MovedJob tx.database context.scanJobId .paused request.expectedJobStateVersion .running
        acknowledgedAtMs job ∧
      MovedRun (tx.database.withMovedJob context.scanJobId .running
        (request.expectedJobStateVersion + 1) acknowledgedAtMs) guard.scanRunId .paused
        request.expectedRunStateVersion .running acknowledgedAtMs none run ∧
      versions = (request.expectedJobStateVersion + 1, request.expectedRunStateVersion + 1) ∧
      after = { tx with
        database := tx.database.resumed guard.scanRunId context.scanJobId request generation
          acknowledgedAtMs } := by
  unfold acknowledgeResume at ran
  obtain ⟨context, s1, ran1, ran⟩ := bind_eq_ok.mp ran
  obtain ⟨leased, rfl⟩ := validateRuntimeLeaseGuard_eq_ok.mp ran1
  obtain ⟨request, s2, ran2, ran⟩ := bind_eq_ok.mp ran
  obtain ⟨positive, pending, rfl⟩ := requirePendingControlRequest_eq_ok.mp ran2
  obtain ⟨present, -⟩ := pendingRequest_eq_some.mp pending
  have id : request.id = requestId := (Table.get?_eq_some.mp present).2
  subst id
  obtain ⟨generation, s3, ran3, ran⟩ := bind_eq_ok.mp ran
  obtain ⟨-, rfl⟩ := orFail_eq_ok.mp ran3
  obtain ⟨observedJob, s4, ran4, ran⟩ := bind_eq_ok.mp ran
  obtain ⟨job, movedJob, rfl, rfl⟩ := transitionScanJob_eq_ok.mp ran4
  obtain ⟨observedRun, s5, ran5, ran⟩ := bind_eq_ok.mp ran
  obtain ⟨run, movedRun, rfl, rfl⟩ := transitionScanRun_eq_ok.mp ran5
  obtain ⟨_, s6, ran6, ran⟩ := bind_eq_ok.mp ran
  obtain ⟨row, -, -, -, -, rfl⟩ := acknowledgeControlRequest_eq_ok.mp ran6
  obtain ⟨rfl, rfl⟩ := pure_eq_ok.mp ran
  exact ⟨context, request, generation, run, job, leased, pending, movedJob, movedRun, rfl, rfl⟩

/-! ## Acknowledged pauses -/

def Database.withCheckpoints (database : Database Rest)
    (checkpoints : Table PauseCheckpointRow.key) : Database Rest :=
  { database with checkpoints := checkpoints }

/-- The database with the checkpoint inserted, run and job paused and the pause acknowledged. -/
def Database.paused (database : Database Rest) (scanJobId : Int) (row : PauseCheckpointRow)
    (checkpoints : Table PauseCheckpointRow.key) (jobVersion runVersion acknowledgedAtMs : Int) :
    Database Rest :=
  (((database.withCheckpoints checkpoints).withMovedRun row.scanRunId .paused (runVersion + 1)
    acknowledgedAtMs none).withMovedJob scanJobId .paused (jobVersion + 1)
    acknowledgedAtMs).withAcknowledged row.pauseRequestId (jobVersion + 1) (runVersion + 1)
      (some row.generation) "PAUSE_SAFE_POINT_ACKNOWLEDGED" acknowledgedAtMs
      (some (row.writeKey, row.payloadDigest))

/-- What a pause that was written found. -/
structure WrittenPause (tx : RepositoryTx Rest) (guard : RuntimeLeaseGuard)
    (input : PauseCheckpointInput) (acknowledgedAtMs : Int) (answer : PauseAnswer)
    (payloadDigest : Bytes32) (context : BoundRunContext) (lease : RuntimeLeaseRow)
    (request : ControlRequestRow) (run : ScanRunRow) (job : ScanJobRow)
    (checkpoints : Table PauseCheckpointRow.key) : Prop where
  leased : tx.Leased guard context
  found : tx.database.leases.get? guard.scanRunId = some lease
  active : lease.state = .active
  pending : pendingRequest tx.database guard input.pauseRequestId input.pauseRequestKey .pause =
    some request
  directories : (input.cursor.nextDirectoryOrdinal : Int) = lease.directoryEvidenceCount
  files : (input.cursor.nextFileOrdinal : Int) = lease.fileEvidenceCount
  allowed : tx.database.checkpointInsertAllowed
    (newCheckpointRow guard input context.volumeId lease answer payloadDigest) = true
  inserted : tx.database.checkpoints.insert
    (newCheckpointRow guard input context.volumeId lease answer payloadDigest) = some checkpoints
  run : MovedRun (tx.database.withCheckpoints checkpoints) guard.scanRunId .running
    input.expectedRunStateVersion .paused acknowledgedAtMs none run
  job : MovedJob ((tx.database.withCheckpoints checkpoints).withMovedRun guard.scanRunId .paused
    (input.expectedRunStateVersion + 1) acknowledgedAtMs none) context.scanJobId .running
    input.expectedJobStateVersion .paused acknowledgedAtMs job

theorem writePause_of_ok {guard : RuntimeLeaseGuard} {input : PauseCheckpointInput}
    {acknowledgedAtMs : Int} {answer observed : PauseAnswer} {payloadDigest : Bytes32}
    (ran : writePause guard input acknowledgedAtMs answer payloadDigest tx =
      (.ok observed, after)) :
    ∃ context lease request run job checkpoints,
      WrittenPause tx guard input acknowledgedAtMs answer payloadDigest context lease request run
        job checkpoints ∧
      observed = ⟨input.expectedJobStateVersion + 1, input.expectedRunStateVersion + 1,
        answer.generation⟩ ∧
      after = { tx with
        database := tx.database.paused context.scanJobId
          (newCheckpointRow guard input context.volumeId lease answer payloadDigest) checkpoints
          input.expectedJobStateVersion input.expectedRunStateVersion acknowledgedAtMs } := by
  unfold writePause at ran
  obtain ⟨context, s1, ran1, ran⟩ := bind_eq_ok.mp ran
  obtain ⟨leased, rfl⟩ := validateRuntimeLeaseGuard_eq_ok.mp ran1
  obtain ⟨lease, s2, ran2, ran⟩ := bind_eq_ok.mp ran
  obtain ⟨found, rfl⟩ := query_eq_ok.mp ran2
  rw [Outcome.orError_eq_ok, Option.filter_eq_some_iff, decide_eq_true_eq] at found
  obtain ⟨_, s3, ran3, ran⟩ := bind_eq_ok.mp ran
  obtain ⟨-, rfl⟩ := ensure_eq_ok.mp ran3
  obtain ⟨request, s4, ran4, ran⟩ := bind_eq_ok.mp ran
  obtain ⟨positive, pending, rfl⟩ := requirePendingControlRequest_eq_ok.mp ran4
  obtain ⟨_, s5, ran5, ran⟩ := bind_eq_ok.mp ran
  obtain ⟨-, rfl⟩ := ensure_eq_ok.mp ran5
  obtain ⟨_, s6, ran6, ran⟩ := bind_eq_ok.mp ran
  obtain ⟨cursor, rfl⟩ := ensure_eq_ok.mp ran6
  rw [Bool.and_eq_true, decide_eq_true_eq, decide_eq_true_eq] at cursor
  obtain ⟨_, s7, ran7, ran⟩ := bind_eq_ok.mp ran
  obtain ⟨-, rfl⟩ := query_eq_ok.mp ran7
  obtain ⟨_, s8, ran8, ran⟩ := bind_eq_ok.mp ran
  obtain ⟨checkpoints, allowed, inserted, rfl⟩ := insertCheckpoint_eq_ok.mp ran8
  obtain ⟨observedRun, s9, ran9, ran⟩ := bind_eq_ok.mp ran
  obtain ⟨run, movedRun, rfl, rfl⟩ := transitionScanRun_eq_ok.mp ran9
  obtain ⟨observedJob, s10, ran10, ran⟩ := bind_eq_ok.mp ran
  obtain ⟨job, movedJob, rfl, rfl⟩ := transitionScanJob_eq_ok.mp ran10
  obtain ⟨_, s11, ran11, ran⟩ := bind_eq_ok.mp ran
  obtain ⟨row, -, -, -, -, rfl⟩ := acknowledgeControlRequest_eq_ok.mp ran11
  obtain ⟨rfl, rfl⟩ := pure_eq_ok.mp ran
  exact ⟨context, lease, request, run, job, checkpoints, ⟨leased, found.1, found.2, pending,
    cursor.1, cursor.2, allowed.1, inserted, movedRun, movedJob⟩, rfl, rfl⟩

end Guiying.Store
