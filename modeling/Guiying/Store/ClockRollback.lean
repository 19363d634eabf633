import Guiying.Store.AllOrNothing
import Guiying.Store.TwoClocks

/-!
# Clocks that go back

An operation that would succeed at a later clock is made at the clock of now. The end
of a lease clamps the times of the lease, but run and job are only moved from their
last update on, a cancel is only acknowledged from its request on, and it is only
requested from the last heartbeat of the lease on. No stored time ever goes back.
-/

namespace Guiying.Store

open Guiying.Foundation Program

variable {Rest : Type} {α : Type} {hash : List UInt8 → Bytes32} {evidenceExists : Rest → Int → Bool}

/-! ## Conditions -/

/-- Run and job of a lease were not updated after the time. -/
def Database.updatedBy (database : Database Rest) (scanRunId nowMs : Int) : Prop :=
  (∀ run, database.runs.get? scanRunId = some run → run.updatedAtMs ≤ nowMs) ∧
    ∀ lease job, database.leases.get? scanRunId = some lease →
      database.jobs.get? lease.scanJobId = some job → job.updatedAtMs ≤ nowMs

/-- The request was not made after the time. -/
def Database.requestedBy (database : Database Rest) (requestId nowMs : Int) : Prop :=
  ∀ request, database.requests.get? requestId = some request → request.requestedAtMs ≤ nowMs

/-- The lease had no heartbeat after the time. -/
def Database.heartbeatBy (database : Database Rest) (scanRunId nowMs : Int) : Prop :=
  ∀ lease, database.leases.get? scanRunId = some lease → lease.lastHeartbeatAtMs ≤ nowMs

section Ended

variable {tx after : RepositoryTx Rest} {guard : RuntimeLeaseGuard} {context : BoundRunContext}
  {kind : EndOfLease} {nowMs : Int} {lease : RuntimeLeaseRow} {run : ScanRunRow} {job : ScanJobRow}

/-- A lease that ended was updated by the clock of its end. -/
theorem Ending.updatedBy (leased : tx.Leased guard context)
    (ending : Ending tx.database guard.scanRunId context.scanJobId kind nowMs lease run job) :
    tx.database.updatedBy guard.scanRunId nowMs := by
  constructor
  · intro row found
    have same : run = row := Option.some.inj (ending.run.found.symm.trans found)
    rw [← same]
    exact ending.run.clock
  · intro row other there found
    have same : lease = row := Option.some.inj (ending.found.symm.trans there)
    rw [← same, leased.scanJobId ending.found] at found
    have same : job = other := Option.some.inj (ending.job.found.symm.trans found)
    rw [← same]
    exact ending.job.clock

/-- A lease that ends at one clock ends at any other by which run and job were updated. -/
theorem Ending.at_updated (leased : tx.Leased guard context) {laterMs : Int}
    (ending : Ending tx.database guard.scanRunId context.scanJobId kind laterMs lease run job)
    (nonnegative : 0 ≤ nowMs) (updated : tx.database.updatedBy guard.scanRunId nowMs) :
    Ending tx.database guard.scanRunId context.scanJobId kind nowMs lease run job := by
  apply ending.at_clock nonnegative
  · exact updated.1 run ending.run.found
  · apply updated.2 lease job ending.found
    rw [leased.scanJobId ending.found]
    exact ending.job.found

/-- The lease is stored as released once it has ended. -/
theorem storedReleased_withReleased {database : Database Rest} {scanRunId : Int}
    {row : RuntimeLeaseRow} (found : database.leases.get? scanRunId = some row) (nowMs : Int) :
    StoredReleased (database.withReleased scanRunId nowMs) scanRunId :=
  ⟨row.released nowMs, get?_withReleased found, rfl⟩

end Ended

/-! ## Terminal transitions -/

section Operations

variable {tx after : RepositoryTx Rest} {guard : RuntimeLeaseGuard} {nowMs laterMs : Int}

theorem transitionLeased_at_clock {expectedJobState : ScanJobState} {expectedJobVersion : Int}
    {expectedRunState : ScanRunState} {expectedRunVersion : Int}
    {outcome : LeasedScanTerminalOutcome} {lastError : Option (String × String)}
    {versions : Int × Int}
    (ran : transitionLeasedScanJobAndRun guard expectedJobState expectedJobVersion expectedRunState
      expectedRunVersion outcome laterMs lastError tx = (.ok versions, after))
    (nonnegative : 0 ≤ nowMs) :
    (∃ after', transitionLeasedScanJobAndRun guard expectedJobState expectedJobVersion
        expectedRunState expectedRunVersion outcome nowMs lastError tx = (.ok versions, after') ∧
      StoredReleased after'.database guard.scanRunId) ↔
      tx.database.updatedBy guard.scanRunId nowMs := by
  constructor
  · rintro ⟨after', ranNow, -⟩
    obtain ⟨context, lease, run, job, leased, -, -, -, ending, -⟩ :=
      transitionLeasedScanJobAndRun_eq_ok.mp ranNow
    exact ending.updatedBy leased
  · intro updated
    obtain ⟨context, lease, run, job, leased, states, settled, stage, ending, ends, same, -⟩ :=
      transitionLeasedScanJobAndRun_eq_ok.mp ran
    have endingNow := ending.at_updated leased nonnegative updated
    rw [(Database.Alike.ended tx.database guard.scanRunId context.scanJobId _ laterMs nowMs).mayEnd]
      at ends
    exact ⟨_, transitionLeasedScanJobAndRun_eq_ok.mpr ⟨context, lease, run, job, leased, states,
      settled, stage, endingNow, ends, same, rfl⟩,
      storedReleased_withReleased (get?_withReleasing endingNow.found) nowMs⟩

/-! ## Cancels -/

/-- An acknowledgement of a cancel looks at the clock only to compare it with the request. -/
theorem cancelled_allowed {first second : Database Rest} (alike : first.Alike second)
    {request : ControlRequestRow} {generation : Option Int}
    (allowed : second.requestUpdateAllowed request (request.cancelled generation laterMs) = true) :
    first.requestUpdateAllowed request (request.cancelled generation nowMs) = true ↔
      request.requestedAtMs ≤ nowMs := by
  have same : first.acknowledgementAllowed request (request.cancelled generation nowMs) =
      second.acknowledgementAllowed request (request.cancelled generation laterMs) :=
    alike.acknowledgementAllowed rfl rfl rfl rfl rfl
  unfold Database.requestUpdateAllowed at allowed ⊢
  simp only [Bool.and_eq_true] at allowed ⊢
  obtain ⟨⟨⟨sameColumns, pending⟩, -⟩, acknowledged⟩ := allowed
  constructor
  · rintro ⟨⟨-, clock⟩, -⟩
    exact of_decide_eq_true clock
  · intro clock
    refine ⟨⟨⟨sameColumns, pending⟩, decide_eq_true clock⟩, ?_⟩
    change (_ && first.acknowledgementAllowed request (request.cancelled generation nowMs)) = true
    rw [same]
    exact acknowledged

theorem acknowledgeCancel_at_clock {requestId : Int} {requestKey : Bytes32} {versions : Int × Int}
    (ran : acknowledgeCancel guard requestId requestKey laterMs tx = (.ok versions, after))
    (nonnegative : 0 ≤ nowMs) :
    (∃ after', acknowledgeCancel guard requestId requestKey nowMs tx = (.ok versions, after') ∧
      StoredReleased after'.database guard.scanRunId) ↔
      tx.database.updatedBy guard.scanRunId nowMs ∧ tx.database.requestedBy requestId nowMs := by
  obtain ⟨context, request, lease, run, job, leased, positive, pending, ending, allowed, ends, same,
    -⟩ := acknowledgeCancel_eq_ok.mp ran
  obtain ⟨present, -⟩ := pendingRequest_eq_some.mp pending
  have alike := Database.Alike.ended tx.database guard.scanRunId context.scanJobId
    (request.ending context) nowMs laterMs
  constructor
  · rintro ⟨after', ranNow, -⟩
    obtain ⟨context', request', lease', run', job', leased', -, pending', ending', allowed', -⟩ :=
      acknowledgeCancel_eq_ok.mp ranNow
    refine ⟨ending'.updatedBy leased', fun row found => ?_⟩
    obtain ⟨present', -⟩ := pendingRequest_eq_some.mp pending'
    have same : request' = row := Option.some.inj (present'.symm.trans found)
    rw [← same]
    unfold Database.requestUpdateAllowed at allowed'
    simp only [Bool.and_eq_true] at allowed'
    exact of_decide_eq_true allowed'.1.2
  · rintro ⟨updated, requested⟩
    have endingNow := ending.at_updated leased nonnegative updated
    rw [← alike.mayEnd] at ends
    refine ⟨_, acknowledgeCancel_eq_ok.mpr ⟨context, request, lease, run, job, leased, positive,
      pending, endingNow, (cancelled_allowed alike allowed).mpr (requested request present), ends,
      same, rfl⟩, storedReleased_withReleased (get?_withReleasing endingNow.found) nowMs⟩

/-! ## New cancels -/

/-- The same request at another clock. -/
def ScanControlRequestInput.at_ (input : ScanControlRequestInput) (nowMs : Int) :
    ScanControlRequestInput :=
  { input with requestedAtMs := nowMs }

/-- Two requests that differ in the time of an acknowledgement at most. -/
structure ControlRequestRow.Alike (a b : ControlRequestRow) : Prop where
  id : a.id = b.id
  requestKey : a.requestKey = b.requestKey
  scanRunId : a.scanRunId = b.scanRunId
  sequence : a.sequence = b.sequence
  kind : a.kind = b.kind
  disposition : a.disposition = b.disposition

theorem supersededRow_alike (scanRunId byId : Int) (row : ControlRequestRow) :
    (supersededRow scanRunId nowMs byId row).Alike (supersededRow scanRunId laterMs byId row) := by
  unfold supersededRow
  split
  · exact ⟨rfl, rfl, rfl, rfl, rfl, rfl⟩
  · exact ⟨rfl, rfl, rfl, rfl, rfl, rfl⟩

section Superseding

variable (database : Database Rest) (scanRunId byId nowMs laterMs : Int)

theorem superseding_alike : Table.Alike ControlRequestRow.Alike
    (database.superseding scanRunId nowMs byId).requests
    (database.superseding scanRunId laterMs byId).requests := by
  unfold Table.Alike Database.superseding Table.update
  dsimp only
  rw [List.forall₂_map_left_iff, List.forall₂_map_right_iff]
  exact List.forall₂_same.mpr fun row _ => supersededRow_alike scanRunId byId row

theorem superseding_requestsOf (id : Int) : List.Forall₂ ControlRequestRow.Alike
    ((database.superseding scanRunId nowMs byId).requestsOf id)
    ((database.superseding scanRunId laterMs byId).requestsOf id) :=
  Table.filter_of_forall₂ (superseding_alike database scanRunId byId nowMs laterMs)
    fun a b same => by rw [same.scanRunId]

end Superseding

/-- A cancel is inserted at any clock from the last heartbeat of the lease on. -/
theorem requestInsertAllowed_at_clock {database : Database Rest} {scanRunId byId : Int}
    {row row' : ControlRequestRow} (kind : row.kind = .cancel)
    (same : row' = { row with requestedAtMs := nowMs })
    (allowed : (database.superseding scanRunId laterMs byId).requestInsertAllowed row = true) :
    (database.superseding scanRunId nowMs byId).requestInsertAllowed row' = true ↔
      database.heartbeatBy row.scanRunId nowMs := by
  subst same
  have rows := superseding_requestsOf database scanRunId byId nowMs laterMs row.scanRunId
  have sequence : (database.superseding scanRunId nowMs byId).lastSequence row.scanRunId =
      (database.superseding scanRunId laterMs byId).lastSequence row.scanRunId := by
    unfold Database.lastSequence
    rw [Table.map_of_forall₂ rows fun a b same => same.sequence]
  have cancels : (((database.superseding scanRunId nowMs byId).requestsOf row.scanRunId).any
        fun request => request.kind = .cancel) =
      ((database.superseding scanRunId laterMs byId).requestsOf row.scanRunId).any
        fun request => request.kind = .cancel :=
    Table.any_of_forall₂ rows fun a b same => by rw [same.kind]
  have pending : (database.superseding scanRunId nowMs byId).hasPending row.scanRunId =
      (database.superseding scanRunId laterMs byId).hasPending row.scanRunId :=
    Table.any_of_forall₂ rows fun a b same => by
      unfold Database.isPending
      rw [same.disposition]
  have leases : ∀ clockMs, (database.superseding scanRunId clockMs byId).leases = database.leases :=
    fun _ => rfl
  have runs : ∀ clockMs, (database.superseding scanRunId clockMs byId).runs = database.runs :=
    fun _ => rfl
  have jobs : ∀ clockMs, (database.superseding scanRunId clockMs byId).jobs = database.jobs :=
    fun _ => rfl
  unfold Database.requestInsertAllowed Database.heartbeatBy at *
  dsimp only at allowed ⊢
  rw [leases, runs, jobs, kind] at allowed ⊢
  rw [sequence, cancels, pending]
  cases found : database.leases.get? row.scanRunId with
  | none =>
      rw [found] at allowed
      simp at allowed
  | some lease =>
      rw [found] at allowed
      simp only [Option.any_some, Bool.and_eq_true, decide_eq_true_eq] at allowed ⊢
      obtain ⟨⟨⟨⟨disposition, next⟩, noCancel⟩, noPending⟩, ⟨⟨⟨volume, key⟩, active⟩, -⟩, states⟩ :=
        allowed
      constructor
      · rintro ⟨-, ⟨-, clock⟩, -⟩ _ ⟨⟩
        exact clock
      · intro clock
        exact ⟨⟨⟨⟨disposition, next⟩, noCancel⟩, noPending⟩,
          ⟨⟨⟨volume, key⟩, active⟩, clock lease rfl⟩, states⟩

theorem requestScanControl_at_clock {input : ScanControlRequestInput} {row : ControlRequestRow}
    (cancel : input.kind = .cancel)
    (fresh : (tx.database.requests.rows.find? fun row => row.requestKey = input.requestKey) = none)
    (ran : requestScanControl guard (input.at_ laterMs) tx = (.ok row, after)) :
    (∃ after', requestScanControl guard (input.at_ nowMs) tx =
      (.ok { row with requestedAtMs := nowMs }, after')) ↔
      tx.database.heartbeatBy guard.scanRunId nowMs := by
  have freshAt : ∀ clockMs, (tx.database.requests.rows.find? fun row =>
      row.requestKey = (input.at_ clockMs).requestKey) = none := fun _ => fresh
  obtain ⟨context, requests, leased, versions, rfl, ⟨allowed, unused⟩, inserted, -⟩ :=
    (requestScanControl_eq_ok (freshAt laterMs)).mp ran
  have before : ∀ clockMs, tx.database.beforeRequest guard (input.at_ clockMs) =
      tx.database.superseding guard.scanRunId clockMs (tx.database.lastRequestId + 1) :=
    fun _ => if_pos cancel
  have new : ∀ volumeId, tx.database.newRequest guard (input.at_ nowMs) volumeId =
      { tx.database.newRequest guard (input.at_ laterMs) volumeId with requestedAtMs := nowMs } :=
    fun _ => rfl
  have alike := superseding_alike tx.database guard.scanRunId (tx.database.lastRequestId + 1) nowMs
    laterMs
  rw [before] at allowed unused inserted
  have clocks : (tx.database.superseding guard.scanRunId nowMs
      (tx.database.lastRequestId + 1)).requestInsertAllowed
        (tx.database.newRequest guard (input.at_ nowMs) context.volumeId) = true ↔
      tx.database.heartbeatBy guard.scanRunId nowMs :=
    requestInsertAllowed_at_clock cancel (new context.volumeId) allowed
  constructor
  · rintro ⟨after', ranNow⟩
    obtain ⟨context', _, leased', -, -, ⟨allowed', -⟩, -⟩ :=
      (requestScanControl_eq_ok (freshAt nowMs)).mp ranNow
    have same : context = context' := Option.some.inj (leased.bound.symm.trans leased'.bound)
    subst same
    rw [before] at allowed'
    exact clocks.mp allowed'
  · intro heartbeat
    have keys := Table.map_of_forall₂ alike fun a b same => same.requestKey
    have ids := Table.map_of_forall₂ alike fun a b same => same.id
    obtain ⟨freshId, -⟩ := Table.insert_eq_some.mp inserted
    rw [← ids] at freshId
    rw [← keys] at unused
    have freshNow : (tx.database.newRequest guard (input.at_ nowMs) context.volumeId).id ∉
        (tx.database.superseding guard.scanRunId nowMs
          (tx.database.lastRequestId + 1)).requests.rows.map ControlRequestRow.id := freshId
    obtain ⟨requests', inserted'⟩ := Table.exists_insert freshNow
    refine ⟨_, (requestScanControl_eq_ok (freshAt nowMs)).mpr ⟨context, requests', leased, versions,
      (new context.volumeId).symm, ?_, ?_, rfl⟩⟩
    · rw [before]
      exact ⟨clocks.mpr heartbeat, unused⟩
    · rw [before]
      exact inserted'

end Operations

/-! ## Histories -/

/-- A store that some calls on another store lead to. -/
inductive Reaches (hash : List UInt8 → Bytes32) (evidenceExists : Rest → Int → Bool)
    (start : LiveStore Rest) : LiveStore Rest → Prop
  | refl : Reaches hash evidenceExists start start
  | call {α : Type} {store : LiveStore Rest} (reaches : Reaches hash evidenceExists start store)
      (environment : Environment) (callback : Callback Rest α) :
      Reaches hash evidenceExists start
        (store.writeTransaction hash evidenceExists environment callback).2

/-- A call makes some changes, or none. -/
theorem writeTransaction_changes (store : LiveStore Rest) (environment : Environment)
    (callback : Callback Rest α) : Changes hash store.database
      (store.writeTransaction hash evidenceExists environment callback).2.database := by
  rw [writeTransaction_store]
  split
  · rename_i committed
    obtain ⟨-, -, -, clean, -⟩ := commits_iff.mp committed
    exact (transacted_run callback clean).2.changes
  · exact .refl

theorem changes_of_reaches {start store : LiveStore Rest}
    (reaches : Reaches hash evidenceExists start store) :
    Changes hash start.database store.database := by
  induction reaches with
  | refl => exact .refl
  | call _ environment callback ih =>
      exact ih.trans (writeTransaction_changes _ environment callback)

/-- At any clock: which operations that succeed at another clock succeed at this one, and that no
stored time goes back. -/
structure AtAnyClock (hash : List UInt8 → Bytes32) (evidenceExists : Rest → Int → Bool)
    (store : LiveStore Rest) : Prop where
  terminal : ∀ {guard expectedJobState expectedJobVersion expectedRunState expectedRunVersion
      outcome laterMs lastError versions after},
    transitionLeasedScanJobAndRun guard expectedJobState expectedJobVersion expectedRunState
      expectedRunVersion outcome laterMs lastError store.begin_ = (.ok versions, after) →
    ∀ nowMs, 0 ≤ nowMs →
      ((∃ after', transitionLeasedScanJobAndRun guard expectedJobState expectedJobVersion
          expectedRunState expectedRunVersion outcome nowMs lastError store.begin_ =
            (.ok versions, after') ∧ StoredReleased after'.database guard.scanRunId) ↔
        store.database.updatedBy guard.scanRunId nowMs)
  cancel : ∀ {guard requestId requestKey laterMs versions after},
    acknowledgeCancel guard requestId requestKey laterMs store.begin_ = (.ok versions, after) →
    ∀ nowMs, 0 ≤ nowMs →
      ((∃ after', acknowledgeCancel guard requestId requestKey nowMs store.begin_ =
          (.ok versions, after') ∧ StoredReleased after'.database guard.scanRunId) ↔
        store.database.updatedBy guard.scanRunId nowMs ∧
          store.database.requestedBy requestId nowMs)
  request : ∀ {guard laterMs row after} {input : ScanControlRequestInput}, input.kind = .cancel →
    (store.database.requests.rows.find? fun row => row.requestKey = input.requestKey) = none →
    requestScanControl guard (input.at_ laterMs) store.begin_ = (.ok row, after) →
    ∀ nowMs, (∃ after', requestScanControl guard (input.at_ nowMs) store.begin_ =
        (.ok { row with requestedAtMs := nowMs }, after')) ↔
      store.database.heartbeatBy guard.scanRunId nowMs
  times : ∀ {next}, Reaches hash evidenceExists store next →
    store.database.Advances next.database

theorem atAnyClock_of_reaches {database : Database Rest} (ordered : database.InOrder)
    {storeInstanceKey : Bytes32} {store : LiveStore Rest}
    (reaches : Reaches hash evidenceExists (.opened database storeInstanceKey) store) :
    AtAnyClock hash evidenceExists store where
  terminal ran _ nonnegative := transitionLeased_at_clock ran nonnegative
  cancel ran _ nonnegative := acknowledgeCancel_at_clock ran nonnegative
  request cancel fresh ran _ := requestScanControl_at_clock cancel fresh ran
  times later :=
    ((changes_of_reaches later).advances ((changes_of_reaches reaches).advances ordered).1).2

section OneRun

theorem oneRun_inOrder : oneRun.InOrder where
  runs := by
    intro row inside
    rw [List.mem_singleton.mp inside]
    refine ⟨le_refl (100 : Int), le_refl (100 : Int), ?_⟩
    intro finished
    cases finished
  leases _ inside := absurd inside List.not_mem_nil
  requests _ inside := absurd inside List.not_mem_nil

theorem reaches_leasedStore :
    Reaches byteCount noEvidence (.opened oneRun (.filled 9)) leasedStore :=
  Reaches.refl.call quietEnvironment leaseOneRun

theorem atAnyClock_leasedStore : AtAnyClock byteCount noEvidence leasedStore :=
  atAnyClock_of_reaches oneRun_inOrder reaches_leasedStore

/-- The run has reported progress at the clock 1000. -/
def advancedStore : LiveStore Nat :=
  (leasedStore.writeTransaction byteCount noEvidence quietEnvironment
    (inTurn [.updateBoundScanProgress oneRunGuard ⟨0, 0, 0, 0, 1000⟩])).2

/-- The end of the scan, as a failure. -/
def failOneRun (nowMs : Int) : Tx Nat (Int × Int) :=
  transitionLeasedScanJobAndRun oneRunLease .running 1 .running 1 .failed nowMs
    (some ("SCAN_FAILED", "scan failed"))

/-- With the clock back at 500 the run can no longer be ended, at 1000 it can. -/
theorem failOneRun_stranded :
    Reaches byteCount noEvidence (.opened oneRun (.filled 9)) advancedStore ∧
      advancedStore.database.hasPending 1 = false ∧
      (failOneRun 1000 advancedStore.begin_).1 = .ok (2, 2) ∧
      (failOneRun 500 advancedStore.begin_).1 = .error (.concurrencyConflict "scan_run" 1) :=
  ⟨reaches_leasedStore.call quietEnvironment _, by decide +kernel, by decide +kernel,
    by decide +kernel⟩

end OneRun

end Guiying.Store
