import Guiying.Store.LeaseProtocol
import Guiying.Store.TransactionEffects

/-!
# The operations under the protocol

Each operation that returned has left every lease settled. What an operation does
to the lease of its own run is read from its outcome; a lease of another run it
leaves alone.
-/

namespace Guiying.Store

open Guiying.Foundation Guiying.Foundation.MachineInt Program

variable {Rest : Type} {hash : List UInt8 → Bytes32} {evidenceExists : Rest → Int → Bool}
  {tx after : RepositoryTx Rest} {guard : RuntimeLeaseGuard} {context : BoundRunContext}
  {scanRunId : Int}

/-! ## The rows of a guard -/

/-- The job of a guard is the job of no active lease of another run. -/
theorem other_job (bound : tx.database.boundRun guard.run = some context)
    (settled : tx.database.Settled scanRunId) (different : scanRunId ≠ guard.scanRunId) :
    ∀ lease, tx.database.leases.get? scanRunId = some lease → lease.state = .active →
      lease.scanJobId ≠ context.scanJobId := by
  intro lease found active same
  obtain ⟨run, job, there⟩ := settled lease found active
  obtain ⟨-, job', -, -, jobFound, -, ofRun⟩ := Database.boundRun_rows bound
  have jobs := there.jobFound
  rw [same, jobFound] at jobs
  cases jobs
  have runs := there.bound
  rw [ofRun, scanRunId_of_get? found] at runs
  exact different (Option.some.inj runs).symm

theorem ne_of_validRunTransition {state target : ScanRunState}
    (valid : validRunTransition state target = true) : target ≠ state := by
  intro same
  subst same
  cases target <;> cases valid

theorem ne_of_validJobTransition {state target : ScanJobState}
    (valid : validJobTransition state target = true) : target ≠ state := by
  intro same
  subst same
  cases target <;> cases valid

section Moved

variable {first second : Database Rest} {scanJobId runVersion jobVersion nowMs : Int}
  {runState runTarget : ScanRunState} {jobState jobTarget : ScanJobState}
  {lastError : Option (String × String)} {run : ScanRunRow} {job : ScanJobRow}

theorem Together.of_moved
    (movedRun : MovedRun first scanRunId runState runVersion runTarget nowMs lastError run)
    (movedJob : MovedJob second scanJobId jobState jobVersion jobTarget nowMs job) :
    Together run (run.moved runTarget (runVersion + 1) nowMs lastError) job
      (job.moved jobTarget (jobVersion + 1) nowMs) := by
  refine .moved ?_ ?_ ?_ ?_
  · rw [movedRun.state]
    exact ne_of_validRunTransition movedRun.valid
  · rw [movedRun.version]
    rfl
  · rw [movedJob.state]
    exact ne_of_validJobTransition movedJob.valid
  · rw [movedJob.version]
    rfl

theorem ScanRunRow.moved_noLess (run : ScanRunRow) :
    run.NoLess (run.moved runTarget (runVersion + 1) nowMs lastError) :=
  ⟨le_refl _, le_refl _, le_refl _, le_refl _⟩

theorem get?_withMovedRun (movedRun : MovedRun first scanRunId runState runVersion runTarget nowMs
    lastError run) :
    (first.withMovedRun scanRunId runTarget (runVersion + 1) nowMs lastError).runs.get? scanRunId =
      some (run.moved runTarget (runVersion + 1) nowMs lastError) :=
  Table.get?_modify_self (fun row : ScanRunRow => row.moved runTarget (runVersion + 1) nowMs lastError)
    (ScanRunRow.moved_id runTarget (runVersion + 1) nowMs lastError) movedRun.found

theorem get?_withMovedJob
    (movedJob : MovedJob first scanJobId jobState jobVersion jobTarget nowMs job) :
    (first.withMovedJob scanJobId jobTarget (jobVersion + 1) nowMs).jobs.get? scanJobId =
      some (job.moved jobTarget (jobVersion + 1) nowMs) :=
  Table.get?_modify_self (fun row : ScanJobRow => row.moved jobTarget (jobVersion + 1) nowMs)
    (ScanJobRow.moved_id jobTarget (jobVersion + 1) nowMs) movedJob.found

end Moved

/-! ## Ends of a lease -/

section Ends

variable {kind : EndOfLease} {nowMs : Int} {lease : RuntimeLeaseRow} {run : ScanRunRow}
  {job : ScanJobRow} {database : Database Rest}

theorem untouched_ended (different : scanRunId ≠ guard.scanRunId)
    (jobs : ∀ lease, tx.database.leases.get? scanRunId = some lease → lease.state = .active →
      lease.scanJobId ≠ context.scanJobId) :
    Untouched tx.database (tx.database.ended guard.scanRunId context.scanJobId kind nowMs)
      scanRunId := by
  have releasing : Untouched tx.database
      (tx.database.withReleasing guard.scanRunId kind.reason nowMs) scanRunId :=
    untouched_withReleasing different
  have moved : Untouched tx.database ((tx.database.withReleasing guard.scanRunId kind.reason
      nowMs).withMovedRun guard.scanRunId kind.runTarget (kind.runVersion + 1) nowMs
      kind.lastError) scanRunId := releasing.trans (untouched_withMovedRun different)
  refine moved.trans (untouched_withMovedJob fun lease found active => ?_)
  rw [moved.lease] at found
  exact jobs lease found active

/-- The lease is released, and run and job have been moved, whatever became of the requests. -/
theorem protocolStep_ended (leased : tx.Leased guard context)
    (ending : Ending tx.database guard.scanRunId context.scanJobId kind nowMs lease run job)
    (leases : database.leases =
      (tx.database.ended guard.scanRunId context.scanJobId kind nowMs).leases)
    (runs : database.runs = (tx.database.ended guard.scanRunId context.scanJobId kind nowMs).runs)
    (jobs : database.jobs =
      (tx.database.ended guard.scanRunId context.scanJobId kind nowMs).jobs) :
    ProtocolStep tx.database (database.withReleased guard.scanRunId nowMs) guard.scanRunId := by
  have releasing : database.leases.get? guard.scanRunId = some (lease.releasing kind.reason nowMs) := by
    rw [leases]
    exact get?_withReleasing ending.found
  have released : (database.withReleased guard.scanRunId nowMs).leases.get? guard.scanRunId =
      some ((lease.releasing kind.reason nowMs).released nowMs) := get?_withReleased releasing
  constructor
  · intro row found active
    rw [released] at found
    cases found
    cases active
  · intro row found active
    rw [ending.found] at found
    cases found
    have id := scanRunId_of_get? ending.found
    have ofJob := leased.scanJobId ending.found
    have grows : lease.Grows ((lease.releasing kind.reason nowMs).released nowMs) :=
      ⟨rfl, rfl, le_refl _, le_refl _⟩
    refine .intro ?_ grows ?_ ?_ ?_ ?_ (.of_moved ending.run ending.job) run.moved_noLess
    · rw [id]
      exact released
    · rw [id]
      exact ending.run.found
    · change database.runs.get? lease.scanRunId = _
      rw [id, runs]
      exact get?_withMovedRun ending.run
    · rw [ofJob]
      exact ending.job.found
    · change database.jobs.get? lease.scanJobId = _
      rw [ofJob, jobs]
      exact get?_withMovedJob ending.job

end Ends

theorem protocolStep_transitionLeased {expectedJobState : ScanJobState} {expectedJobVersion : Int}
    {expectedRunState : ScanRunState} {expectedRunVersion : Int}
    {outcome : LeasedScanTerminalOutcome} {nowMs : Int} {lastError : Option (String × String)}
    {versions : Int × Int}
    (ran : transitionLeasedScanJobAndRun guard expectedJobState expectedJobVersion expectedRunState
      expectedRunVersion outcome nowMs lastError tx = (.ok versions, after))
    (settled : tx.database.Settled scanRunId) :
    ProtocolStep tx.database after.database scanRunId := by
  obtain ⟨context, lease, run, job, leased, -, -, -, ending, -, -, rfl⟩ :=
    transitionLeasedScanJobAndRun_eq_ok.mp ran
  by_cases same : scanRunId = guard.scanRunId
  · subst same
    exact protocolStep_ended leased ending rfl rfl rfl
  · refine .of_untouched settled ?_
    exact (untouched_ended same (other_job leased.bound settled same)).trans
      (untouched_withReleased same)

theorem protocolStep_acknowledgeCancel {requestId : Int} {requestKey : Bytes32}
    {acknowledgedAtMs : Int} {versions : Int × Int}
    (ran : acknowledgeCancel guard requestId requestKey acknowledgedAtMs tx =
      (.ok versions, after)) (settled : tx.database.Settled scanRunId) :
    ProtocolStep tx.database after.database scanRunId := by
  obtain ⟨context, request, lease, run, job, leased, -, pending, ending, -, -, -, rfl⟩ :=
    acknowledgeCancel_eq_ok.mp ran
  by_cases same : scanRunId = guard.scanRunId
  · subst same
    exact protocolStep_ended leased ending rfl rfl rfl
  · obtain ⟨present, -, ofRun, -⟩ := pendingRequest_eq_some.mp pending
    refine .of_untouched settled ?_
    have id := (Table.get?_eq_some.mp present).2
    rw [← id] at present
    refine ((untouched_ended same (other_job leased.bound settled same)).trans
      (untouched_withAcknowledged present ?_)).trans (untouched_withReleased same)
    rw [ofRun]
    exact same

/-! ## Requests -/

/-- A change that leaves acknowledged requests as they are, and acknowledges none. -/
theorem filter_acknowledged {requests : List ControlRequestRow}
    {change : ControlRequestRow → ControlRequestRow}
    (keeps : ∀ row, row.disposition = .acknowledged → change row = row)
    (adds : ∀ row, (change row).disposition = .acknowledged → row.disposition = .acknowledged) :
    (requests.map change).filter (fun request => request.disposition = .acknowledged) =
      requests.filter fun request => request.disposition = .acknowledged := by
  induction requests with
  | nil => rfl
  | cons row requests ih =>
      rw [List.map_cons, List.filter_cons, List.filter_cons, ih]
      by_cases acknowledged : row.disposition = .acknowledged
      · rw [keeps row acknowledged]
      · have still : (change row).disposition ≠ .acknowledged := fun now =>
          acknowledged (adds row now)
        rw [decide_eq_false acknowledged, decide_eq_false still]
        rfl

theorem latestAcknowledged_superseding (database : Database Rest) (requestedAtMs byId : Int) :
    (database.superseding scanRunId requestedAtMs byId).latestAcknowledged scanRunId =
      database.latestAcknowledged scanRunId := by
  unfold Database.latestAcknowledged Database.superseding
  rw [requestsOf_update fun row => (supersededRow_columns scanRunId requestedAtMs byId row).1,
    filter_acknowledged]
  · intro row acknowledged
    unfold supersededRow
    refine if_neg fun pending => ?_
    rw [acknowledged] at pending
    cases pending.2.1
  · intro row
    unfold supersededRow
    split
    · intro acknowledged
      cases acknowledged
    · exact id

theorem latestAcknowledged_insertRequest {database : Database Rest} {row : ControlRequestRow}
    {requests : Table ControlRequestRow.id}
    (inserted : database.requests.insert row = some requests) (pending : row.disposition = .pending) :
    Database.latestAcknowledged { database with requests := requests } scanRunId =
      database.latestAcknowledged scanRunId := by
  unfold Database.latestAcknowledged
  rw [requestsOf_insert inserted]
  split
  · rw [List.filter_append, List.filter_singleton, pending]
    exact congrArg _ (List.append_nil _)
  · rfl

/-- The lease is still settled when neither it nor run nor job were changed. -/
theorem ProtocolStep.of_kept {before later : Database Rest} (settled : before.Settled scanRunId)
    (leases : later.leases = before.leases) (runs : later.runs = before.runs)
    (jobs : later.jobs = before.jobs)
    (latest : later.latestAcknowledged scanRunId = before.latestAcknowledged scanRunId)
    (checkpoints : later.checkpoints = before.checkpoints) : ProtocolStep before later scanRunId where
  settled := by
    intro lease found active
    rw [leases] at found
    obtain ⟨run, job, same⟩ := settled lease found active
    have id := scanRunId_of_get? found
    refine ⟨run, job, ?_, ?_, same.bound, ?_⟩
    · rw [runs]
      exact same.runFound
    · rw [jobs]
      exact same.jobFound
    · cases same.phase with
      | running runState jobState latestBefore =>
          refine .running runState jobState fun request => ?_
          rw [id, latest, ← id]
          exact latestBefore request
      | paused runState jobState latestBefore kind inside ofRequest carries =>
          rw [id, ← latest, ← id] at latestBefore
          unfold Database.checkpointsOf at inside
          rw [← checkpoints] at inside
          exact .paused runState jobState latestBefore kind inside ofRequest carries
  together := by
    intro lease found active
    obtain ⟨run, job, same⟩ := settled lease found active
    have id := scanRunId_of_get? found
    refine same.still ?_ ?_ ?_
    · rw [leases, id]
      exact found
    · rw [runs]
      exact same.runFound
    · rw [jobs]
      exact same.jobFound

theorem protocolStep_requestScanControl {input : ScanControlRequestInput} {row : ControlRequestRow}
    (ran : requestScanControl guard input tx = (.ok row, after))
    (settled : tx.database.Settled scanRunId) :
    ProtocolStep tx.database after.database scanRunId := by
  cases stored : tx.database.requests.rows.find? fun row => row.requestKey = input.requestKey with
  | some existing =>
      -- the call is answered from the stored request
      unfold requestScanControl at ran
      obtain ⟨_, s1, ran1, ran⟩ := bind_eq_ok.mp ran
      rw [reads_validateRuntimeGuardInstance.eq_of_ok ran1] at ran
      obtain ⟨_, s2, ran2, ran⟩ := bind_eq_ok.mp ran
      obtain ⟨rfl, rfl⟩ := current_eq_ok.mp ran2
      rw [stored] at ran
      obtain ⟨_, s3, ran3, ran⟩ := bind_eq_ok.mp ran
      obtain ⟨-, rfl⟩ := ensure_eq_ok.mp ran3
      obtain ⟨rfl, rfl⟩ := pure_eq_ok.mp ran
      exact .of_untouched settled (.refl _ _)
  | none =>
      obtain ⟨context, requests, leased, -, rfl, -, inserted, rfl⟩ :=
        (requestScanControl_eq_ok stored).mp ran
      by_cases same : scanRunId = guard.scanRunId
      · subst same
        have pending : (tx.database.newRequest guard input context.volumeId).disposition =
            .pending := rfl
        unfold Database.beforeRequest at inserted ⊢
        split at inserted
        · rename_i cancel
          rw [if_pos cancel]
          refine .of_kept settled rfl rfl rfl ?_ rfl
          rw [latestAcknowledged_insertRequest inserted pending, latestAcknowledged_superseding]
        · rename_i other
          rw [if_neg other]
          exact .of_kept settled rfl rfl rfl (latestAcknowledged_insertRequest inserted pending) rfl
      · refine .of_untouched settled ?_
        have superseded : Untouched tx.database (tx.database.beforeRequest guard input)
            scanRunId := by
          unfold Database.beforeRequest
          split
          · exact untouched_superseding same
          · exact .refl _ _
        exact superseded.trans (untouched_insertRequest inserted same)

/-! ## Pauses and resumes -/

/-- The request that was just acknowledged is the one acknowledged last. -/
theorem latestAcknowledged_of_last {database : Database Rest} {request : ControlRequestRow}
    (ordered : RequestsInOrder (database.requestsOf scanRunId))
    (inside : request ∈ database.requestsOf scanRunId)
    (acknowledged : request.disposition = .acknowledged)
    (last : request.sequence = (database.requestsOf scanRunId).length) :
    database.latestAcknowledged scanRunId = some request := by
  have among : request ∈ (database.requestsOf scanRunId).filter fun request =>
      request.disposition = .acknowledged :=
    List.mem_filter.mpr ⟨inside, decide_eq_true acknowledged⟩
  unfold Database.latestAcknowledged
  cases found : highest ControlRequestRow.sequence ((database.requestsOf scanRunId).filter
      fun request => request.disposition = .acknowledged) with
  | none =>
      rw [highest_eq_none.mp found] at among
      cases among
  | some best =>
      obtain ⟨present, above⟩ := highest_spec found
      have there := (List.mem_filter.mp present).1
      have upper := (ordered.numbered.bounds there).2
      have lower := above request among
      rw [ordered.numbered.injective there inside (by omega)]

/-- What an acknowledgement makes the latest acknowledged request. -/
theorem latestAcknowledged_withAcknowledged {database : Database Rest} {request : ControlRequestRow}
    {requestId jobVersion runVersion : Int} {generation : Option Int} {reasonCode : String}
    {acknowledgedAtMs : Int} {pauseCheckpoint : Option (Bytes32 × Bytes32)}
    (ordered : RequestsInOrder (database.requestsOf scanRunId))
    (present : database.requests.get? requestId = some request)
    (ofRun : request.scanRunId = scanRunId) (pending : request.disposition = .pending) :
    (database.withAcknowledged requestId jobVersion runVersion generation reasonCode
      acknowledgedAtMs pauseCheckpoint).latestAcknowledged scanRunId =
      some (request.acknowledged jobVersion runVersion generation reasonCode acknowledgedAtMs
        pauseCheckpoint) := by
  obtain ⟨inside, id⟩ := Table.get?_eq_some.mp present
  have among : request ∈ database.requestsOf scanRunId :=
    Database.mem_requestsOf.mpr ⟨inside, ofRun⟩
  have rows : (database.withAcknowledged requestId jobVersion runVersion generation reasonCode
      acknowledgedAtMs pauseCheckpoint).requestsOf scanRunId = _ := requestsOf_withAcknowledged
  apply latestAcknowledged_of_last
  · rw [rows]
    refine ordered.map ?_ ?_ fun row _ => ?_
    · intro row
      split
      · rfl
      · rfl
    · intro row
      split
      · rfl
      · rfl
    · split
      · intro waiting
        cases waiting
      · exact fun waiting => waiting
  · rw [rows]
    exact List.mem_map.mpr ⟨request, among, if_pos id⟩
  · rfl
  · rw [rows, List.length_map]
    exact ordered.pendingLast request among pending

/-- Run and job were moved under a lease that is as it was, into a phase. -/
theorem protocolStep_moved {before later : Database Rest} {scanJobId : Int} {run run' : ScanRunRow}
    {job job' : ScanJobRow} (settled : before.Settled scanRunId)
    (ofJob : ∀ lease, before.leases.get? scanRunId = some lease → lease.scanJobId = scanJobId)
    (leases : later.leases = before.leases) (runBefore : before.runs.get? scanRunId = some run)
    (runAfter : later.runs.get? scanRunId = some run')
    (jobBefore : before.jobs.get? scanJobId = some job)
    (jobAfter : later.jobs.get? scanJobId = some job') (together : Together run run' job job')
    (counters : run.NoLess run') (bound : job'.activeScanRunId = job.activeScanRunId)
    (phase : ∀ lease, before.leases.get? scanRunId = some lease → Phase later lease run' job') :
    ProtocolStep before later scanRunId where
  settled := by
    intro lease found active
    rw [leases] at found
    obtain ⟨_, old, same⟩ := settled lease found active
    have id := scanRunId_of_get? found
    have jobs := same.jobFound
    rw [ofJob lease found, jobBefore] at jobs
    cases jobs
    refine ⟨run', job', ?_, ?_, ?_, phase lease found⟩
    · rw [id]
      exact runAfter
    · rw [ofJob lease found]
      exact jobAfter
    · rw [bound]
      exact same.bound
  together := by
    intro lease found active
    have id := scanRunId_of_get? found
    refine .intro ?_ (.refl lease) ?_ ?_ ?_ ?_ together counters
    · rw [leases, id]
      exact found
    · rw [id]
      exact runBefore
    · rw [id]
      exact runAfter
    · rw [ofJob lease found]
      exact jobBefore
    · rw [ofJob lease found]
      exact jobAfter

theorem protocolStep_acknowledgeResume {requestId : Int} {requestKey : Bytes32}
    {acknowledgedAtMs : Int} {versions : Int × Int}
    (ran : acknowledgeResume guard requestId requestKey acknowledgedAtMs tx =
      (.ok versions, after)) (ordered : tx.database.InControlOrder scanRunId)
    (settled : tx.database.Settled scanRunId) :
    ProtocolStep tx.database after.database scanRunId := by
  obtain ⟨context, request, generation, run, job, leased, pending, movedJob, movedRun, -, rfl⟩ :=
    acknowledgeResume_of_ok ran
  obtain ⟨present, -, ofRun, -, kind, waiting⟩ := pendingRequest_eq_some.mp pending
  have id := (Table.get?_eq_some.mp present).2
  rw [← id] at present
  by_cases same : scanRunId = guard.scanRunId
  · subst same
    have last : (tx.database.resumed guard.scanRunId context.scanJobId request generation
        acknowledgedAtMs).latestAcknowledged guard.scanRunId = some (request.acknowledged
          (request.expectedJobStateVersion + 1) (request.expectedRunStateVersion + 1)
          (some generation) "RESUME_ACKNOWLEDGED" acknowledgedAtMs none) :=
      latestAcknowledged_withAcknowledged ordered.requests present ofRun waiting
    refine protocolStep_moved settled (fun _ => leased.scanJobId) rfl movedRun.found
      (get?_withMovedRun movedRun) movedJob.found (get?_withMovedJob movedJob)
      (.of_moved movedRun movedJob) run.moved_noLess rfl fun lease found => ?_
    refine .running rfl rfl fun latest acknowledged => ?_
    rw [scanRunId_of_get? found, last] at acknowledged
    cases acknowledged
    change request.kind ≠ .pause
    rw [kind]
    intro pause
    cases pause
  · refine .of_untouched settled ?_
    refine ((untouched_withMovedJob (other_job leased.bound settled same)).trans
      (untouched_withMovedRun same)).trans (untouched_withAcknowledged present ?_)
    rw [ofRun]
    exact same

theorem protocolStep_writePause {input : PauseCheckpointInput} {acknowledgedAtMs : Int}
    {answer observed : PauseAnswer} {payloadDigest : Bytes32}
    (ran : writePause guard input acknowledgedAtMs answer payloadDigest tx = (.ok observed, after))
    (ordered : tx.database.InControlOrder scanRunId) (settled : tx.database.Settled scanRunId) :
    ProtocolStep tx.database after.database scanRunId := by
  obtain ⟨context, lease, request, run, job, checkpoints, wrote, -, rfl⟩ := writePause_of_ok ran
  have movedRun := wrote.run
  have movedJob := wrote.job
  obtain ⟨present, -, ofRun, -, kind, waiting⟩ := pendingRequest_eq_some.mp wrote.pending
  by_cases same : scanRunId = guard.scanRunId
  · subst same
    have last : (tx.database.paused context.scanJobId
        (newCheckpointRow guard input context.volumeId lease answer payloadDigest) checkpoints
        input.expectedJobStateVersion input.expectedRunStateVersion
        acknowledgedAtMs).latestAcknowledged guard.scanRunId = some (request.acknowledged
          (input.expectedJobStateVersion + 1) (input.expectedRunStateVersion + 1)
          (some answer.generation) "PAUSE_SAFE_POINT_ACKNOWLEDGED" acknowledgedAtMs
          (some (input.writeKey, payloadDigest))) :=
      latestAcknowledged_withAcknowledged ordered.requests present ofRun waiting
    refine protocolStep_moved settled (fun _ => wrote.leased.scanJobId) rfl wrote.run.found
      (get?_withMovedRun wrote.run) wrote.job.found (get?_withMovedJob wrote.job)
      (.of_moved wrote.run wrote.job) run.moved_noLess rfl fun row found => ?_
    rw [wrote.found] at found
    cases found
    have id := scanRunId_of_get? wrote.found
    have carries : (newCheckpointRow guard input context.volumeId lease answer
        payloadDigest).Carries lease := ⟨wrote.directories, wrote.files, rfl⟩
    have ofGuard : (newCheckpointRow guard input context.volumeId lease answer
        payloadDigest).scanRunId = guard.scanRunId := rfl
    have inside : newCheckpointRow guard input context.volumeId lease answer payloadDigest ∈
        (tx.database.withCheckpoints checkpoints).checkpointsOf guard.scanRunId := by
      unfold Database.withCheckpoints
      rw [checkpointsOf_insert wrote.inserted, if_pos ofGuard]
      exact List.mem_append_right _ (List.mem_singleton_self _)
    rw [← id] at last inside
    exact .paused rfl rfl last kind inside (Table.get?_eq_some.mp present).2.symm carries
  · refine .of_untouched settled ?_
    have moved : Untouched tx.database ((tx.database.withCheckpoints checkpoints).withMovedRun
        guard.scanRunId .paused (input.expectedRunStateVersion + 1) acknowledgedAtMs none)
        scanRunId :=
      (untouched_withCheckpoints wrote.inserted same).trans (untouched_withMovedRun same)
    have others := other_job wrote.leased.bound settled same
    have both : Untouched tx.database (((tx.database.withCheckpoints checkpoints).withMovedRun
        guard.scanRunId .paused (input.expectedRunStateVersion + 1) acknowledgedAtMs
        none).withMovedJob context.scanJobId .paused (input.expectedJobStateVersion + 1)
        acknowledgedAtMs) scanRunId := by
      refine moved.trans (untouched_withMovedJob fun lease found active => ?_)
      rw [moved.lease] at found
      exact others lease found active
    refine both.trans (untouched_withAcknowledged present ?_)
    rw [ofRun]
    exact same

/-- A pause is answered from a stored checkpoint, and nothing changes, or it is written. -/
theorem acknowledgePause_of_ok {input : PauseCheckpointInput} {acknowledgedAtMs : Int}
    {answer : PauseAnswer}
    (ran : acknowledgePause hash guard input acknowledgedAtMs tx = (.ok answer, after)) :
    (∃ stored, writtenCheckpoint tx.database input.writeKey = some stored ∧ tx = after) ∨
      writtenCheckpoint tx.database input.writeKey = none ∧ ∃ expected,
        writePause guard input acknowledgedAtMs expected (pauseCheckpointPayloadDigest hash input
          acknowledgedAtMs expected.jobVersion expected.runVersion expected.generation) tx =
          (.ok answer, after) := by
  unfold acknowledgePause at ran
  obtain ⟨_, s1, ran1, ran⟩ := bind_eq_ok.mp ran
  rw [reads_validateRuntimeGuardInstance.eq_of_ok ran1] at ran
  obtain ⟨_, s2, ran2, ran⟩ := bind_eq_ok.mp ran
  rw [reads_requireNonnegative.eq_of_ok ran2] at ran
  obtain ⟨_, s3, ran3, ran⟩ := bind_eq_ok.mp ran
  rw [reads_ensure.eq_of_ok ran3] at ran
  obtain ⟨_, s4, ran4, ran⟩ := bind_eq_ok.mp ran
  rw [reads_ofExcept.eq_of_ok ran4] at ran
  obtain ⟨expected, s5, ran5, ran⟩ := bind_eq_ok.mp ran
  rw [reads_expectedPauseAnswer.eq_of_ok ran5] at ran
  obtain ⟨_, s6, ran6, ran⟩ := bind_eq_ok.mp ran
  obtain ⟨rfl, rfl⟩ := current_eq_ok.mp ran6
  cases stored : writtenCheckpoint tx.database input.writeKey with
  | some both =>
      rw [stored] at ran
      obtain ⟨_, s7, ran7, ran⟩ := bind_eq_ok.mp ran
      obtain ⟨-, rfl⟩ := ensure_eq_ok.mp ran7
      obtain ⟨-, rfl⟩ := pure_eq_ok.mp ran
      exact .inl ⟨both, rfl, rfl⟩
  | none =>
      rw [stored] at ran
      exact .inr ⟨rfl, expected, ran⟩

theorem protocolStep_acknowledgePause {input : PauseCheckpointInput} {acknowledgedAtMs : Int}
    {answer : PauseAnswer}
    (ran : acknowledgePause hash guard input acknowledgedAtMs tx = (.ok answer, after))
    (ordered : tx.database.InControlOrder scanRunId) (settled : tx.database.Settled scanRunId) :
    ProtocolStep tx.database after.database scanRunId := by
  rcases acknowledgePause_of_ok ran with ⟨_, _, rfl⟩ | ⟨_, expected, wrote⟩
  · exact .of_untouched settled (.refl _ _)
  · exact protocolStep_writePause wrote ordered settled

/-! ## Sessions, leases, evidence and progress -/

theorem protocolStep_bindCoreSession {run : RunEvidenceGuard} {input : CoreSessionInput}
    {done : PUnit} (ran : bindCoreSession run input tx = (.ok done, after))
    (settled : tx.database.Settled scanRunId) :
    ProtocolStep tx.database after.database scanRunId := by
  unfold bindCoreSession at ran
  obtain ⟨_, s1, ran1, ran⟩ := bind_eq_ok.mp ran
  rw [reads_validateV5RunGuard.eq_of_ok ran1] at ran
  obtain ⟨_, s2, ran2, ran⟩ := bind_eq_ok.mp ran
  rw [reads_requireNonnegative.eq_of_ok ran2] at ran
  obtain ⟨_, s3, ran3, ran⟩ := bind_eq_ok.mp ran
  obtain ⟨rfl, rfl⟩ := current_eq_ok.mp ran3
  cases stored : tx.database.coreSessions.get? run.scanRunId with
  | some existing =>
    rw [stored] at ran
    dsimp only at ran
    split at ran
    · obtain ⟨-, rfl⟩ := ensure_eq_ok.mp ran
      exact .of_untouched settled (.refl _ _)
    · cases ran
  | none =>
    rw [stored] at ran
    obtain ⟨_, s4, ran4, ran⟩ := bind_eq_ok.mp ran
    have same := update_eq_ok.mp ran
    subst same
    unfold insertCoreSession at ran4
    obtain ⟨database, inserted, rfl⟩ := statement_eq_ok.mp ran4
    split at inserted
    · split at inserted
      · cases inserted
        exact .of_untouched settled ⟨rfl, rfl, rfl, fun _ _ _ => rfl, fun _ _ _ => rfl⟩
      · cases inserted
    · cases inserted

/-- What the trigger asks of a new lease: run and job are running, and the job is of the run. -/
theorem leaseInsertAllowed_running {database : Database Rest} {row : RuntimeLeaseRow}
    (allowed : database.leaseInsertAllowed row = true) :
    ∃ run job, database.runs.get? row.scanRunId = some run ∧ run.state = .running ∧
      database.jobs.get? row.scanJobId = some job ∧ job.state = .running ∧
      job.activeScanRunId = some row.scanRunId := by
  unfold Database.leaseInsertAllowed at allowed
  rw [Bool.and_eq_true, Option.any_eq_true] at allowed
  obtain ⟨-, run, runFound, allowed⟩ := allowed
  rw [Bool.and_eq_true, Bool.and_eq_true, Option.any_eq_true] at allowed
  obtain ⟨⟨-, runState⟩, job, jobFound, allowed⟩ := allowed
  simp only [Bool.and_eq_true, decide_eq_true_eq] at allowed runState
  obtain ⟨⟨⟨-, ofRun⟩, jobState⟩, -⟩ := allowed
  have id : run.id = row.scanRunId := (Table.get?_eq_some.mp runFound).2
  exact ⟨run, job, runFound, runState, jobFound, jobState, by rw [ofRun, id]⟩

theorem protocolStep_insertLease {row : RuntimeLeaseRow} {done : PUnit}
    (ran : insertLease row tx = (.ok done, after)) (ordered : tx.database.InControlOrder scanRunId)
    (settled : tx.database.Settled scanRunId) :
    ProtocolStep tx.database after.database scanRunId := by
  unfold insertLease at ran
  obtain ⟨database, inserted, rfl⟩ := statement_eq_ok.mp ran
  split at inserted
  · rename_i allowed
    split at inserted
    · rename_i leases added
      cases inserted
      have found := fun id => Table.get?_insert added id
      by_cases same : row.scanRunId = scanRunId
      · subst same
        obtain ⟨run, job, runFound, runState, jobFound, jobState, ofRun⟩ :=
          leaseInsertAllowed_running allowed.1
        obtain ⟨fresh, -⟩ := Table.insert_eq_some.mp added
        have absent : tx.database.leases.get? row.scanRunId = none :=
          Table.get?_eq_none.mpr fun other inside same =>
            fresh (same ▸ List.mem_map_of_mem inside)
        constructor
        · intro lease there active
          have own := found row.scanRunId
          rw [if_pos rfl] at own
          rw [own] at there
          cases there
          refine ⟨run, job, runFound, jobFound, ofRun, .running runState jobState ?_⟩
          intro request latest
          have none : tx.database.latestAcknowledged row.scanRunId = none := by
            unfold Database.latestAcknowledged
            rw [(ordered.leased absent).1]
            rfl
          change tx.database.latestAcknowledged row.scanRunId = some request at latest
          rw [none] at latest
          cases latest
        · intro lease there
          rw [absent] at there
          cases there
      · refine .of_untouched settled ⟨?_, rfl, rfl, fun _ _ _ => rfl, fun _ _ _ => rfl⟩
        rw [found scanRunId, if_neg same]
    · cases inserted
  · cases inserted

theorem protocolStep_acquireRuntimeLease {run : RunEvidenceGuard}
    {input : AcquireRuntimeLeaseInput} {lease : RuntimeLeaseGuard}
    (ran : acquireRuntimeLease hash evidenceExists run input tx = (.ok lease, after))
    (ordered : tx.database.InControlOrder scanRunId) (settled : tx.database.Settled scanRunId) :
    ProtocolStep tx.database after.database scanRunId := by
  unfold acquireRuntimeLease at ran
  obtain ⟨_, s1, ran1, ran⟩ := bind_eq_ok.mp ran
  obtain ⟨rfl, rfl⟩ := current_eq_ok.mp ran1
  obtain ⟨_, s2, ran2, ran⟩ := bind_eq_ok.mp ran
  rw [reads_ensure.eq_of_ok ran2] at ran
  obtain ⟨_, s3, ran3, ran⟩ := bind_eq_ok.mp ran
  rw [reads_ensure.eq_of_ok ran3] at ran
  obtain ⟨_, s4, ran4, ran⟩ := bind_eq_ok.mp ran
  rw [reads_validateCoreSessionGuard.eq_of_ok ran4] at ran
  obtain ⟨_, s5, ran5, ran⟩ := bind_eq_ok.mp ran
  rw [reads_requireNonnegative.eq_of_ok ran5] at ran
  obtain ⟨workPlanDigest, s6, ran6, ran⟩ := bind_eq_ok.mp ran
  rw [(reads_query _).eq_of_ok ran6] at ran
  cases stored : tx.database.leases.get? run.scanRunId with
  | some existing =>
    rw [stored] at ran
    obtain ⟨_, s7, ran7, ran⟩ := bind_eq_ok.mp ran
    obtain ⟨-, rfl⟩ := ensure_eq_ok.mp ran7
    obtain ⟨-, rfl⟩ := pure_eq_ok.mp ran
    exact .of_untouched settled (.refl _ _)
  | none =>
    rw [stored] at ran
    obtain ⟨_, s7, ran7, ran⟩ := bind_eq_ok.mp ran
    rw [reads_ensure.eq_of_ok ran7] at ran
    obtain ⟨_, s8, ran8, ran⟩ := bind_eq_ok.mp ran
    obtain ⟨_, s9, ran9, ran⟩ := bind_eq_ok.mp ran
    have same := update_eq_ok.mp ran9
    subst same
    obtain ⟨-, rfl⟩ := pure_eq_ok.mp ran
    have step : ProtocolStep tx.database s8.database scanRunId :=
      protocolStep_insertLease ran8 ordered settled
    exact step

/-- Evidence of a run was recorded: its lease may count more, and nothing else of control changed. -/
structure Recorded (before later : Database Rest) (recordedId : Int) : Prop where
  runs : later.runs = before.runs
  jobs : later.jobs = before.jobs
  requests : later.requests = before.requests
  checkpoints : later.checkpoints = before.checkpoints
  others : ∀ id, id ≠ recordedId → later.leases.get? id = before.leases.get? id
  own : ∀ lease, before.leases.get? recordedId = some lease →
    ∃ lease', later.leases.get? recordedId = some lease' ∧ lease.Grows lease'

section Recorded

variable {before later third : Database Rest} {recordedId : Int}

theorem Recorded.refl (database : Database Rest) (recordedId : Int) :
    Recorded database database recordedId :=
  ⟨rfl, rfl, rfl, rfl, fun _ _ => rfl, fun lease found => ⟨lease, found, .refl lease⟩⟩

theorem Recorded.trans (left : Recorded before later recordedId)
    (right : Recorded later third recordedId) : Recorded before third recordedId where
  runs := right.runs.trans left.runs
  jobs := right.jobs.trans left.jobs
  requests := right.requests.trans left.requests
  checkpoints := right.checkpoints.trans left.checkpoints
  others := fun id different => (right.others id different).trans (left.others id different)
  own := by
    intro lease found
    obtain ⟨middle, there, grows⟩ := left.own lease found
    obtain ⟨lease', present, more⟩ := right.own middle there
    exact ⟨lease', present, grows.trans more⟩

theorem RuntimeLeaseRow.withEvidence_grows (row : RuntimeLeaseRow) (input : EvidenceInput Rest) :
    row.Grows (row.withEvidence hash input) := by
  unfold withEvidence
  split
  · exact ⟨rfl, rfl, Int.le_add_one (le_refl _), le_refl _⟩
  · exact ⟨rfl, rfl, le_refl _, Int.le_add_one (le_refl _)⟩

theorem recorded_appendRuntimeEvidence {input : EvidenceInput Rest} {done : PUnit}
    (ran : appendRuntimeEvidence hash recordedId input tx = (.ok done, after)) :
    Recorded tx.database after.database recordedId := by
  unfold appendRuntimeEvidence at ran
  obtain ⟨database, changed, rfl⟩ := statement_eq_ok.mp ran
  split at changed
  · cases changed
    exact .refl _ _
  · rename_i row found
    split at changed
    · cases changed
    · split at changed
      · cases changed
      · split at changed
        · cases changed
          refine ⟨rfl, rfl, rfl, rfl, fun id different => ?_, fun lease there => ?_⟩
          · exact Table.get?_modify_other (fun old => old.withEvidence_scanRunId hash input) different
          · exact ⟨lease.withEvidence hash input, Table.get?_modify_self
              (fun old : RuntimeLeaseRow => old.withEvidence hash input)
              (fun old => old.withEvidence_scanRunId hash input) there,
              lease.withEvidence_grows input⟩
        · cases changed

theorem recorded_recordEvidence {input : EvidenceInput Rest} {done : PUnit}
    (ran : recordEvidence hash recordedId input tx = (.ok done, after)) :
    Recorded tx.database after.database recordedId := by
  unfold recordEvidence at ran
  obtain ⟨known, s1, ran1, ran⟩ := bind_eq_ok.mp ran
  obtain ⟨database, changed, rfl⟩ := statement_eq_ok.mp ran1
  split at changed
  · cases changed
    have rest : ∀ rest : Rest, Recorded tx.database { tx.database with rest := rest } recordedId :=
      fun _ => ⟨rfl, rfl, rfl, rfl, fun _ _ => rfl, fun lease found => ⟨lease, found, .refl lease⟩⟩
    split at ran
    · obtain ⟨-, rfl⟩ := pure_eq_ok.mp ran
      exact rest _
    · have appended := recorded_appendRuntimeEvidence ran
      exact (rest _).trans appended
  · cases changed

theorem recorded_recordEvidenceItems {inputs : List (EvidenceInput Rest)} {done : PUnit}
    (ran : recordEvidenceItems hash recordedId inputs tx = (.ok done, after)) :
    Recorded tx.database after.database recordedId := by
  induction inputs generalizing tx with
  | nil =>
      obtain ⟨-, rfl⟩ := pure_eq_ok.mp ran
      exact .refl _ _
  | cons input inputs ih =>
      unfold recordEvidenceItems at ran
      obtain ⟨_, s1, ran1, ran⟩ := bind_eq_ok.mp ran
      exact (recorded_recordEvidence ran1).trans (ih ran)

end Recorded

theorem protocolStep_recordCoreEvidenceBatch {field : String} {run : RunEvidenceGuard}
    {coreSessionId : Bytes32} {inputs : List (EvidenceInput Rest)} {done : PUnit}
    (ran : recordCoreEvidenceBatch hash field run coreSessionId inputs tx = (.ok done, after))
    (settled : tx.database.Settled scanRunId) :
    ProtocolStep tx.database after.database scanRunId := by
  unfold recordCoreEvidenceBatch at ran
  obtain ⟨_, s1, ran1, ran⟩ := bind_eq_ok.mp ran
  rw [reads_ensure.eq_of_ok ran1] at ran
  obtain ⟨context, s2, ran2, ran⟩ := bind_eq_ok.mp ran
  obtain ⟨-, -, bound, running, -, rfl⟩ := validateCoreSessionGuard_eq_ok.mp ran2
  obtain ⟨_, s3, ran3, ran⟩ := bind_eq_ok.mp ran
  obtain ⟨⟨-, persisted⟩, rfl⟩ := requireActiveRuntimeLeaseForCore_eq_ok.mp ran3
  have recorded := recorded_recordEvidenceItems ran
  have latest : ∀ id, after.database.latestAcknowledged id = tx.database.latestAcknowledged id := by
    intro id
    unfold Database.latestAcknowledged Database.requestsOf
    rw [recorded.requests]
  by_cases same : scanRunId = run.scanRunId
  · subst same
    obtain ⟨lease, found, holds⟩ := (Option.any_eq_true _ _).mp persisted
    rw [Bool.and_eq_true, decide_eq_true_eq, decide_eq_true_eq] at holds
    obtain ⟨lease', there, grows⟩ := recorded.own lease found
    obtain ⟨runRow, job, old⟩ := settled lease found holds.2
    have id := scanRunId_of_get? found
    obtain ⟨row, _, runFound, runState, -⟩ := Database.boundRun_rows bound
    have runs := old.runFound
    rw [id, runFound] at runs
    cases runs
    constructor
    · intro other present active
      rw [there] at present
      cases present
      refine ⟨runRow, job, ?_, ?_, ?_, ?_⟩
      · rw [recorded.runs, grows.run]
        exact old.runFound
      · rw [recorded.jobs, grows.job]
        exact old.jobFound
      · rw [grows.run]
        exact old.bound
      · cases old.phase with
        | running runState jobState none =>
            refine .running runState jobState ?_
            rw [grows.run, latest]
            exact none
        | paused paused =>
            rw [runState, running.1] at paused
            cases paused
    · intro other present active
      rw [found] at present
      cases present
      refine .intro ?_ grows old.runFound ?_ old.jobFound ?_ (.still rfl rfl rfl rfl) (.refl runRow)
      · rw [id]
        exact there
      · rw [recorded.runs]
        exact old.runFound
      · rw [recorded.jobs]
        exact old.jobFound
  · refine .of_untouched settled ⟨recorded.others scanRunId same, ?_, ?_, fun _ _ _ => ?_,
      fun _ _ _ => ?_⟩
    · unfold Database.requestsOf
      rw [recorded.requests]
    · unfold Database.checkpointsOf
      rw [recorded.checkpoints]
    · rw [recorded.runs]
    · rw [recorded.jobs]

theorem protocolStep_updateBoundScanProgress {run : RunEvidenceGuard} {progress : ScanProgress}
    {done : PUnit} (ran : updateBoundScanProgress run progress tx = (.ok done, after))
    (settled : tx.database.Settled scanRunId) :
    ProtocolStep tx.database after.database scanRunId := by
  unfold updateBoundScanProgress at ran
  obtain ⟨_, s1, ran1, ran⟩ := bind_eq_ok.mp ran
  rw [reads_validateV5RunGuard.eq_of_ok ran1] at ran
  obtain ⟨_, s2, ran2, ran⟩ := bind_eq_ok.mp ran
  rw [reads_requireNonnegative.eq_of_ok ran2] at ran
  obtain ⟨_, s3, ran3, ran⟩ := bind_eq_ok.mp ran
  rw [reads_requireNonnegative.eq_of_ok ran3] at ran
  obtain ⟨_, s4, ran4, ran⟩ := bind_eq_ok.mp ran
  rw [reads_requireNonnegative.eq_of_ok ran4] at ran
  obtain ⟨_, s5, ran5, ran⟩ := bind_eq_ok.mp ran
  rw [reads_requireNonnegative.eq_of_ok ran5] at ran
  obtain ⟨_, s6, ran6, ran⟩ := bind_eq_ok.mp ran
  rw [reads_requireNonnegative.eq_of_ok ran6] at ran
  obtain ⟨_, s7, ran7, ran⟩ := bind_eq_ok.mp ran
  rw [reads_ensure.eq_of_ok ran7] at ran
  obtain ⟨database, changed, rfl⟩ := statement_eq_ok.mp ran
  split at changed
  · rename_i row found
    split at changed
    · rename_i moves
      cases changed
      obtain ⟨running, discovered, fingerprinted, errors, bytes, -⟩ := moves
      have keeps : ∀ old : ScanRunRow, (old.progressed progress).id = old.id := fun _ => rfl
      by_cases same : scanRunId = run.scanRunId
      · subst same
        have runAfter : (tx.database.runs.modify run.scanRunId (fun old => old.progressed progress)
            keeps).get? run.scanRunId = some (row.progressed progress) :=
          Table.get?_modify_self (fun old : ScanRunRow => old.progressed progress) keeps found
        constructor
        · intro lease there active
          obtain ⟨old, job, same⟩ := settled lease there active
          have id := scanRunId_of_get? there
          have runs := same.runFound
          rw [id, found] at runs
          cases runs
          refine ⟨row.progressed progress, job, ?_, same.jobFound, same.bound, ?_⟩
          · rw [id]
            exact runAfter
          · cases same.phase with
            | running runState jobState latest => exact .running runState jobState latest
            | paused paused =>
                rw [running] at paused
                cases paused
        · intro lease there active
          obtain ⟨old, job, same⟩ := settled lease there active
          have id := scanRunId_of_get? there
          have runs := same.runFound
          rw [id, found] at runs
          cases runs
          have counters : row.NoLess (row.progressed progress) :=
            ⟨discovered, fingerprinted, errors, bytes⟩
          have together : Together row (row.progressed progress) job job := .still rfl rfl rfl rfl
          refine .intro ?_ (.refl lease) same.runFound ?_ same.jobFound same.jobFound together
            counters
          · rw [id]
            exact there
          · rw [id]
            exact runAfter
      · refine .of_untouched settled ⟨rfl, rfl, rfl, fun _ _ _ => ?_, fun _ _ _ => rfl⟩
        exact Table.get?_modify_other keeps same
    · cases changed
  · cases changed

theorem protocolStep_runOther {mutator : OtherMutator Rest} {done : PUnit}
    (ran : runOther mutator tx = (.ok done, after)) (settled : tx.database.Settled scanRunId) :
    ProtocolStep tx.database after.database scanRunId := by
  unfold runOther at ran
  have kept := mutator.keeps tx.database
  have database : after.database = (mutator.run tx.database).2 := by
    rw [← (Prod.mk.inj ran).2]
  rw [database]
  refine .of_untouched settled ⟨?_, ?_, ?_, fun lease found active => ?_,
    fun lease found active => ?_⟩
  · rw [kept.leases]
  · unfold Database.requestsOf
    rw [kept.requests]
  · unfold Database.checkpointsOf
    rw [kept.checkpoints]
  · obtain ⟨inside, id⟩ := Table.get?_eq_some.mp found
    subst id
    exact kept.leasedRun lease inside active
  · exact kept.leasedJob lease (Table.get?_eq_some.mp found).1 active

/-! ## Any operation -/

/-- Every operation that returns leaves the leases settled and moves run and job together. -/
theorem protocolStep_perform {operation : Operation Rest} {reply : Reply}
    (ran : perform hash evidenceExists operation tx = (.ok reply, after))
    (ordered : tx.database.InControlOrder scanRunId) (settled : tx.database.Settled scanRunId) :
    ProtocolStep tx.database after.database scanRunId := by
  cases operation with
  | bindCoreSession guard input =>
      rw [perform] at ran
      obtain ⟨_, _, did, done⟩ := bind_eq_ok.mp ran
      obtain ⟨rfl, rfl⟩ := pure_eq_ok.mp done
      exact protocolStep_bindCoreSession did settled
  | acquireRuntimeLease guard input =>
      rw [perform] at ran
      obtain ⟨_, _, did, done⟩ := bind_eq_ok.mp ran
      obtain ⟨rfl, rfl⟩ := pure_eq_ok.mp done
      exact protocolStep_acquireRuntimeLease did ordered settled
  | requestScanControl guard input =>
      rw [perform] at ran
      obtain ⟨_, _, did, done⟩ := bind_eq_ok.mp ran
      obtain ⟨rfl, rfl⟩ := pure_eq_ok.mp done
      exact protocolStep_requestScanControl did settled
  | acknowledgePause guard input acknowledgedAtMs =>
      rw [perform] at ran
      obtain ⟨_, _, did, done⟩ := bind_eq_ok.mp ran
      obtain ⟨rfl, rfl⟩ := pure_eq_ok.mp done
      exact protocolStep_acknowledgePause did ordered settled
  | acknowledgeResume guard requestId requestKey acknowledgedAtMs =>
      rw [perform] at ran
      obtain ⟨_, _, did, done⟩ := bind_eq_ok.mp ran
      obtain ⟨rfl, rfl⟩ := pure_eq_ok.mp done
      exact protocolStep_acknowledgeResume did ordered settled
  | acknowledgeCancel guard requestId requestKey acknowledgedAtMs =>
      rw [perform] at ran
      obtain ⟨_, _, did, done⟩ := bind_eq_ok.mp ran
      obtain ⟨rfl, rfl⟩ := pure_eq_ok.mp done
      exact protocolStep_acknowledgeCancel did settled
  | transitionLeased guard jobState jobVersion runState runVersion outcome nowMs lastError =>
      rw [perform] at ran
      obtain ⟨_, _, did, done⟩ := bind_eq_ok.mp ran
      obtain ⟨rfl, rfl⟩ := pure_eq_ok.mp done
      exact protocolStep_transitionLeased did settled
  | recordCoreEvidence field guard coreSessionId inputs =>
      rw [perform] at ran
      obtain ⟨_, _, did, done⟩ := bind_eq_ok.mp ran
      obtain ⟨rfl, rfl⟩ := pure_eq_ok.mp done
      exact protocolStep_recordCoreEvidenceBatch did settled
  | updateBoundScanProgress guard progress =>
      rw [perform] at ran
      obtain ⟨_, _, did, done⟩ := bind_eq_ok.mp ran
      obtain ⟨rfl, rfl⟩ := pure_eq_ok.mp done
      exact protocolStep_updateBoundScanProgress did settled
  | other mutator =>
      rw [perform] at ran
      obtain ⟨_, _, did, done⟩ := bind_eq_ok.mp ran
      obtain ⟨rfl, rfl⟩ := pure_eq_ok.mp done
      exact protocolStep_runOther did settled

end Guiying.Store
