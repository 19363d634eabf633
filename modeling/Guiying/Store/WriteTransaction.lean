import Guiying.Store.StoredTimes

/-!
# Write transactions

A caller of `Store::write_transaction` hands in a callback, which calls mutators one
after the other, sees what each answers and returns what it likes. The store
commits the transaction only if the callback returns a value and no mutator of it
has failed, and then takes over what was bound, acquired and released.
-/

namespace Guiying.Store

open Guiying.Foundation Program

variable {Rest : Type}

/-! ## Mutators -/

/-- What the mutators that are not modelled leave alone: the tables of control, and the run and the
job of every active lease. -/
structure ControlKept (before after : Database Rest) : Prop where
  coreSessions : after.coreSessions = before.coreSessions
  leases : after.leases = before.leases
  requests : after.requests = before.requests
  checkpoints : after.checkpoints = before.checkpoints
  leasedRun : ∀ lease ∈ before.leases.rows, lease.state = .active →
    after.runs.get? lease.scanRunId = before.runs.get? lease.scanRunId
  leasedJob : ∀ lease ∈ before.leases.rows, lease.state = .active →
    after.jobs.get? lease.scanJobId = before.jobs.get? lease.scanJobId

/-- Any other mutator: it answers and leaves a database, also when it fails. It writes no row of a
table of control. Three write a run or a job: `create_scoped_scan_job` adds a queued job,
`create_bound_scan_run` adds a queued run and binds it to a job that is queued or failed, and
`transition_bound_scan_job_and_run` refuses a run that has a lease or a core session. The job of an
active lease is running or paused and bound to the leased run, so that none of them touches it. -/
structure OtherMutator (Rest : Type) where
  run : Database Rest → Result PUnit × Database Rest
  keeps : ∀ database, ControlKept database (run database).2
  /-- It moves no time of a run or a job back. -/
  advances : ∀ database, database.InOrder →
    (run database).2.InOrder ∧ database.Advances (run database).2

/-- A mutator that writes none of the modelled tables, whatever it looks at: those of issues,
checkpoints of a stage, coverage, fingerprints, groups, metadata reports and time sessions. -/
def OtherMutator.onRest (write : Database Rest → Result PUnit × Rest) : OtherMutator Rest where
  run database := ((write database).1, { database with rest := (write database).2 })
  keeps _ := ⟨rfl, rfl, rfl, rfl, fun _ _ _ => rfl, fun _ _ _ => rfl⟩
  advances database ordered :=
    ⟨⟨ordered.runs, ordered.leases, ordered.requests⟩,
      ⟨(Database.Advances.refl database).runs, (Database.Advances.refl database).jobs,
        (Database.Advances.refl database).leases, (Database.Advances.refl database).requests⟩⟩

inductive Operation (Rest : Type) where
  | bindCoreSession (guard : RunEvidenceGuard) (input : CoreSessionInput)
  | acquireRuntimeLease (guard : RunEvidenceGuard) (input : AcquireRuntimeLeaseInput)
  | requestScanControl (guard : RuntimeLeaseGuard) (input : ScanControlRequestInput)
  | acknowledgePause (guard : RuntimeLeaseGuard) (input : PauseCheckpointInput)
      (acknowledgedAtMs : Int)
  | acknowledgeResume (guard : RuntimeLeaseGuard) (requestId : Int) (requestKey : Bytes32)
      (acknowledgedAtMs : Int)
  | acknowledgeCancel (guard : RuntimeLeaseGuard) (requestId : Int) (requestKey : Bytes32)
      (acknowledgedAtMs : Int)
  | transitionLeased (guard : RuntimeLeaseGuard) (expectedJobState : ScanJobState)
      (expectedJobVersion : Int) (expectedRunState : ScanRunState) (expectedRunVersion : Int)
      (outcome : LeasedScanTerminalOutcome) (nowMs : Int) (lastError : Option (String × String))
  | recordCoreEvidence (field : String) (guard : RunEvidenceGuard) (coreSessionId : Bytes32)
      (inputs : List (EvidenceInput Rest))
  | updateBoundScanProgress (guard : RunEvidenceGuard) (progress : ScanProgress)
  | other (mutator : OtherMutator Rest)

inductive Reply where
  | done
  | lease (guard : RuntimeLeaseGuard)
  | request (row : ControlRequestRow)
  | paused (answer : PauseAnswer)
  | versions (job run : Int)
  deriving DecidableEq

def runOther (mutator : OtherMutator Rest) : Tx Rest PUnit := fun tx =>
  ((mutator.run tx.database).1, { tx with database := (mutator.run tx.database).2 })

section Perform

variable (hash : List UInt8 → Bytes32) (evidenceExists : Rest → Int → Bool)

def perform : Operation Rest → Tx Rest Reply
  | .bindCoreSession guard input => do
      bindCoreSession guard input
      pure .done
  | .acquireRuntimeLease guard input => do
      let lease ← acquireRuntimeLease hash evidenceExists guard input
      pure (.lease lease)
  | .requestScanControl guard input => do
      let row ← requestScanControl guard input
      pure (.request row)
  | .acknowledgePause guard input acknowledgedAtMs => do
      let answer ← acknowledgePause hash guard input acknowledgedAtMs
      pure (.paused answer)
  | .acknowledgeResume guard requestId requestKey acknowledgedAtMs => do
      let versions ← acknowledgeResume guard requestId requestKey acknowledgedAtMs
      pure (.versions versions.1 versions.2)
  | .acknowledgeCancel guard requestId requestKey acknowledgedAtMs => do
      let versions ← acknowledgeCancel guard requestId requestKey acknowledgedAtMs
      pure (.versions versions.1 versions.2)
  | .transitionLeased guard jobState jobVersion runState runVersion outcome nowMs lastError => do
      let versions ← transitionLeasedScanJobAndRun guard jobState jobVersion runState runVersion
        outcome nowMs lastError
      pure (.versions versions.1 versions.2)
  | .recordCoreEvidence field guard coreSessionId inputs => do
      recordCoreEvidenceBatch hash field guard coreSessionId inputs
      pure .done
  | .updateBoundScanProgress guard progress => do
      updateBoundScanProgress guard progress
      pure .done
  | .other mutator => do
      runOther mutator
      pure .done

/-- `run_mutator`: a failure poisons the transaction, and a poisoned transaction refuses. -/
def runMutator (operation : Operation Rest) (tx : RepositoryTx Rest) :
    Result Reply × RepositoryTx Rest :=
  if tx.poisoned then (.error .writeTransactionPoisoned, tx)
  else
    match perform hash evidenceExists operation tx with
    | (.ok reply, after) => (.ok reply, after)
    | (.error error, after) => (.error error, { after with poisoned := true })

/-! ## Callbacks -/

/-- A callback: a result, or a call whose answer decides how it goes on. A selection only reads. -/
inductive Callback (Rest α : Type) where
  | done (result : Result α)
  | call (operation : Operation Rest) (next : Result Reply → Callback Rest α)
  | select (look : Database Rest → Result Reply) (next : Result Reply → Callback Rest α)

variable {α : Type}

def selection (look : Database Rest → Result Reply) (tx : RepositoryTx Rest) : Result Reply :=
  if tx.poisoned then .error .writeTransactionPoisoned else look tx.database

def Callback.run : Callback Rest α → RepositoryTx Rest → Result α × RepositoryTx Rest
  | .done result, tx => (result, tx)
  | .call operation next, tx =>
      let answer := runMutator hash evidenceExists operation tx
      (next answer.1).run answer.2
  | .select look next, tx => (next (selection look tx)).run tx

/-- The mutators that a callback calls, with what each answers. -/
def Callback.calls : Callback Rest α → RepositoryTx Rest → List (Operation Rest × Result Reply)
  | .done _, _ => []
  | .call operation next, tx =>
      let answer := runMutator hash evidenceExists operation tx
      (operation, answer.1) :: (next answer.1).calls answer.2
  | .select look next, tx => (next (selection look tx)).calls tx

/-! ## The store -/

structure LiveStore (Rest : Type) where
  database : Database Rest
  storeInstanceKey : Bytes32
  liveCoreSessions : List CoreMembership
  liveRuntimeLeases : List LeaseMembership

/-- What the environment lets happen in one call: the check of the database before it, the begin, the
commit, and the check after it. -/
structure Environment where
  boundBefore : Bool
  begins : Bool
  commits : Bool
  boundAfter : Bool
  deriving DecidableEq, Repr

namespace LiveStore

def opened (database : Database Rest) (storeInstanceKey : Bytes32) : LiveStore Rest :=
  ⟨database, storeInstanceKey, [], []⟩

/-- `RepositoryTx::new_bound`. -/
def begin_ (store : LiveStore Rest) : RepositoryTx Rest where
  database := store.database
  storeInstanceKey := store.storeInstanceKey
  poisoned := false
  liveCoreSessions := store.liveCoreSessions
  liveRuntimeLeases := store.liveRuntimeLeases
  boundCoreSessions := []
  acquiredRuntimeLeases := []
  releasedRuntimeLeases := []

/-- The store with what a committed transaction wrote, bound, acquired and released. -/
def merged (store : LiveStore Rest) (tx : RepositoryTx Rest) : LiveStore Rest where
  database := tx.database
  storeInstanceKey := store.storeInstanceKey
  liveCoreSessions := store.liveCoreSessions ++ tx.boundCoreSessions
  liveRuntimeLeases :=
    (store.liveRuntimeLeases ++ tx.acquiredRuntimeLeases).filter fun lease =>
      lease ∉ tx.releasedRuntimeLeases

/-- Whether a call reaches its commit and makes it. -/
def commits (store : LiveStore Rest) (environment : Environment) (callback : Callback Rest α) :
    Bool :=
  let ran := callback.run hash evidenceExists store.begin_
  environment.boundBefore && environment.begins && ran.1.isOk && !ran.2.poisoned &&
    environment.commits

def writeTransaction (store : LiveStore Rest) (environment : Environment)
    (callback : Callback Rest α) : Result α × LiveStore Rest :=
  if !environment.boundBefore then (.error .databaseIdentityChanged, store)
  else if !environment.begins then (.error .sqlite, store)
  else
    match callback.run hash evidenceExists store.begin_ with
    | (.error error, _) => (.error error, store)
    | (.ok value, tx) =>
        if tx.poisoned then (.error .writeTransactionPoisoned, store)
        else if !environment.commits then (.error .sqlite, store)
        else if environment.boundAfter then (.ok value, store.merged tx)
        else (.error .databaseIdentityChanged, store.merged tx)

end LiveStore

end Perform

end Guiying.Store
