import Guiying.Store.ClockRollback
import Guiying.Store.EvidenceEncodings
import Guiying.Store.ProtocolSteps
import Guiying.Store.Replays

/-!
# The law of scan control

In every transaction of every history that starts before a run is leased, the requests
and checkpoints of the run are in order, run and job move together, the lease is
settled, and a repeated call is answered as before or is a conflict.
-/

namespace Guiying.Store

open Guiying.Foundation Program

variable {Rest : Type} {α : Type} {hash : List UInt8 → Bytes32} {evidenceExists : Rest → Int → Bool}

/-! ## Transactions under way -/

/-- A transaction after some operations, none of which failed. -/
inductive Performs (hash : List UInt8 → Bytes32) (evidenceExists : Rest → Int → Bool)
    (start : RepositoryTx Rest) : RepositoryTx Rest → Prop
  | refl : Performs hash evidenceExists start start
  | operate {tx after : RepositoryTx Rest} {operation : Operation Rest} {reply : Reply}
      (performs : Performs hash evidenceExists start tx)
      (ran : perform hash evidenceExists operation tx = (.ok reply, after)) :
      Performs hash evidenceExists start after

theorem runMutator_returned {operation : Operation Rest} {reply : Reply} {tx after : RepositoryTx Rest}
    (clean : tx.poisoned = false)
    (ran : perform hash evidenceExists operation tx = (.ok reply, after)) :
    runMutator hash evidenceExists operation tx = (.ok reply, after) := by
  unfold runMutator
  rw [clean, ran]
  rfl

theorem runMutator_failed {operation : Operation Rest} {error : StoreError}
    {tx after : RepositoryTx Rest} (clean : tx.poisoned = false)
    (ran : perform hash evidenceExists operation tx = (.error error, after)) :
    runMutator hash evidenceExists operation tx = (.error error, { after with poisoned := true }) := by
  unfold runMutator
  rw [clean, ran]
  rfl

/-- A callback whose transaction is clean at its end has made only operations that returned. -/
theorem performs_run (callback : Callback Rest α) {start tx : RepositoryTx Rest}
    (performs : Performs hash evidenceExists start tx)
    (clean : (callback.run hash evidenceExists tx).2.poisoned = false) :
    Performs hash evidenceExists start (callback.run hash evidenceExists tx).2 := by
  induction callback generalizing tx with
  | done result => exact performs
  | select look next ih => exact ih _ performs clean
  | call operation next ih =>
      unfold Callback.run at clean ⊢
      dsimp only at clean ⊢
      cases poisoned : tx.poisoned with
      | true =>
          rw [runMutator_poisoned poisoned, run_poisoned _ poisoned, poisoned] at clean
          cases clean
      | false =>
          cases ran : perform hash evidenceExists operation tx with
          | mk outcome after =>
              cases outcome with
              | error error =>
                  rw [runMutator_failed poisoned ran, run_poisoned _ rfl] at clean
                  cases clean
              | ok reply =>
                  rw [runMutator_returned poisoned ran] at clean ⊢
                  exact ih _ (performs.operate ran) clean

section Instances

variable {start tx : RepositoryTx Rest} {store later : LiveStore Rest}

theorem Performs.changes (performs : Performs hash evidenceExists start tx) :
    Changes hash start.database tx.database ∧ tx.storeInstanceKey = start.storeInstanceKey := by
  induction performs with
  | refl => exact ⟨.refl, rfl⟩
  | operate _ ran ih =>
      have step := transacted_perform ran
      exact ⟨ih.1.trans step.changes, step.storeInstanceKey.trans ih.2⟩

theorem Reaches.storeInstanceKey (reaches : Reaches hash evidenceExists store later) :
    later.storeInstanceKey = store.storeInstanceKey := by
  induction reaches with
  | refl => rfl
  | call _ environment callback ih =>
      rw [writeTransaction_store]
      split
      · exact ih
      · exact ih

end Instances

/-- A later state of a transaction of the store, or of one that the store makes once the
transaction has committed. -/
def Afterwards (hash : List UInt8 → Bytes32) (evidenceExists : Rest → Int → Bool)
    (store : LiveStore Rest) (tx next : RepositoryTx Rest) : Prop :=
  Performs hash evidenceExists tx next ∨ ∃ last later, Performs hash evidenceExists tx last ∧
    Reaches hash evidenceExists (store.merged last) later ∧
    Performs hash evidenceExists later.begin_ next

theorem Afterwards.changes {store : LiveStore Rest} {tx next : RepositoryTx Rest}
    (ofStore : tx.storeInstanceKey = store.storeInstanceKey)
    (afterwards : Afterwards hash evidenceExists store tx next) :
    Changes hash tx.database next.database ∧ next.storeInstanceKey = tx.storeInstanceKey := by
  rcases afterwards with performs | ⟨last, reached, performs, reaches, again⟩
  · exact performs.changes
  · obtain ⟨first, -⟩ := performs.changes
    obtain ⟨second, same⟩ := again.changes
    refine ⟨(first.trans (changes_of_reaches reaches)).trans second, ?_⟩
    exact same.trans (reaches.storeInstanceKey.trans ofStore.symm)

/-! ## The invariant -/

/-- The run was never leased. -/
structure Database.NeverLeased (database : Database Rest) (scanRunId : Int) : Prop where
  lease : database.leases.get? scanRunId = none
  requests : database.requestsOf scanRunId = []
  checkpoints : database.checkpointsOf scanRunId = []

structure Database.Controlled (database : Database Rest) (scanRunId : Int) : Prop where
  ordered : database.InControlOrder scanRunId
  settled : database.Settled scanRunId
  distinct : database.KeysDistinct

theorem Database.NeverLeased.controlled {database : Database Rest} {scanRunId : Int}
    (fresh : database.NeverLeased scanRunId) (distinct : database.KeysDistinct) :
    database.Controlled scanRunId where
  ordered := by
    refine ⟨?_, ?_, fun _ => ⟨fresh.requests, fresh.checkpoints⟩⟩
    · rw [fresh.requests]
      exact .nil
    · rw [fresh.checkpoints]
      exact .nil
  settled := by
    intro lease found
    rw [fresh.lease] at found
    cases found
  distinct := distinct

section Controlled

variable {scanRunId : Int} {tx after : RepositoryTx Rest}

theorem Database.Controlled.perform {operation : Operation Rest} {reply : Reply}
    (controlled : tx.database.Controlled scanRunId)
    (ran : perform hash evidenceExists operation tx = (.ok reply, after)) :
    after.database.Controlled scanRunId where
  ordered := (transacted_perform ran).changes.inControlOrder controlled.ordered
  settled := (protocolStep_perform ran controlled.ordered controlled.settled).settled
  distinct := (transacted_perform ran).changes.keysDistinct controlled.distinct

theorem Performs.controlled (performs : Performs hash evidenceExists tx after)
    (controlled : tx.database.Controlled scanRunId) : after.database.Controlled scanRunId := by
  induction performs with
  | refl => exact controlled
  | operate _ ran ih => exact ih.perform ran

theorem Reaches.controlled {store later : LiveStore Rest}
    (reaches : Reaches hash evidenceExists store later)
    (controlled : store.database.Controlled scanRunId) : later.database.Controlled scanRunId := by
  induction reaches with
  | refl => exact controlled
  | call _ environment callback ih =>
      rw [writeTransaction_store]
      split
      · rename_i committed
        obtain ⟨-, -, -, clean, -⟩ := commits_iff.mp committed
        exact (performs_run callback .refl clean).controlled ih
      · exact ih

end Controlled

/-! ## The law of a state -/

/-- What holds between two operations. -/
structure ScanControlLaw (database : Database Rest) (scanRunId : Int) : Prop where
  onePending : ∀ request ∈ database.requestsOf scanRunId,
    ∀ other ∈ database.requestsOf scanRunId, request.disposition = .pending →
      other.disposition = .pending → request = other
  sequence : Numbered ControlRequestRow.sequence (database.requestsOf scanRunId)
  cancelLast : ∀ cancel ∈ database.requestsOf scanRunId, cancel.kind = .cancel →
    cancel.sequence = (database.requestsOf scanRunId).length ∧
      ∀ request ∈ database.requestsOf scanRunId, request ≠ cancel → request.disposition ≠ .pending
  generation : Numbered PauseCheckpointRow.generation (database.checkpointsOf scanRunId)
  cursors : ∀ earlier ∈ database.checkpointsOf scanRunId,
    ∀ later ∈ database.checkpointsOf scanRunId, earlier.generation ≤ later.generation →
      earlier.NotAfter later
  paused : ∀ lease, database.leases.get? scanRunId = some lease → lease.state = .active →
    ∃ run job, database.runs.get? scanRunId = some run ∧
      database.jobs.get? lease.scanJobId = some job ∧ (run.state = .paused ↔ job.state = .paused) ∧
      (run.state = .paused ↔ ∃ request, database.latestAcknowledged scanRunId = some request ∧
        request.kind = .pause) ∧
      (run.state = .paused → ∃ request checkpoint,
        database.latestAcknowledged scanRunId = some request ∧
        checkpoint ∈ database.checkpointsOf scanRunId ∧ checkpoint.pauseRequestId = request.id ∧
        checkpoint.Carries lease)

theorem Database.Controlled.law {database : Database Rest} {scanRunId : Int}
    (controlled : database.Controlled scanRunId) : ScanControlLaw database scanRunId where
  onePending _ inside _ present pending waiting :=
    controlled.ordered.requests.onePending inside present pending waiting
  sequence := controlled.ordered.requests.numbered
  cancelLast cancel inside kind :=
    ⟨controlled.ordered.requests.cancelLast cancel inside kind, fun _ present different =>
      (controlled.ordered.requests.before_cancel inside kind present different).2⟩
  generation := controlled.ordered.checkpoints.numbered
  cursors := controlled.ordered.checkpoints.ascending
  paused lease found active := by
    obtain ⟨run, job, runFound, jobFound, -, phase⟩ := controlled.settled lease found active
    have own := (Table.get?_eq_some.mp found).2
    rw [own] at runFound
    refine ⟨run, job, runFound, jobFound, ?_⟩
    cases phase with
    | running runState jobState latest =>
        rw [own] at latest
        rw [runState, jobState]
        refine ⟨⟨nofun, nofun⟩, ⟨nofun, ?_⟩, nofun⟩
        rintro ⟨request, last, kind⟩
        exact absurd kind (latest request last)
    | @paused request checkpoint runState jobState latest kind inside ofRequest carries =>
        rw [own] at latest inside
        rw [runState, jobState]
        exact ⟨⟨fun _ => rfl, fun _ => rfl⟩, ⟨fun _ => ⟨request, latest, kind⟩, fun _ => rfl⟩,
          fun _ => ⟨request, checkpoint, latest, inside, ofRequest, carries⟩⟩

/-! ## The law of a step -/

/-- The run that an operation may move, with its job. -/
def Operation.moves : Operation Rest → Option Int
  | .acknowledgePause guard _ _ => some guard.scanRunId
  | .acknowledgeResume guard _ _ _ => some guard.scanRunId
  | .acknowledgeCancel guard _ _ _ => some guard.scanRunId
  | .transitionLeased guard _ _ _ _ _ _ _ => some guard.scanRunId
  | _ => none

/-- What an operation that returned did to a run. -/
structure ScanControlStep (operation : Operation Rest) (before after : RepositoryTx Rest)
    (scanRunId : Int) : Prop where
  /-- Run and job moved together, each by one version, or neither did; nothing is counted back. -/
  together : ∀ lease, before.database.leases.get? scanRunId = some lease → lease.state = .active →
    StepsTogether before.database after.database lease
  leased : operation.moves = some scanRunId → after = before ∨
    ∃ lease, before.database.leases.get? scanRunId = some lease ∧ lease.state = .active
  /-- Settled requests and checkpoints stay as they are. -/
  settles : before.database.Settles after.database

section Steps

variable {scanRunId : Int} {tx after : RepositoryTx Rest}

theorem RepositoryTx.Leased.activeLease {guard : RuntimeLeaseGuard} {context : BoundRunContext}
    (leased : tx.Leased guard context) :
    ∃ lease, tx.database.leases.get? guard.scanRunId = some lease ∧ lease.state = .active := by
  obtain ⟨lease, found, active, -⟩ := leased.lease
  exact ⟨lease, found, active⟩

theorem leased_of_moves {operation : Operation Rest} {reply : Reply}
    (ran : perform hash evidenceExists operation tx = (.ok reply, after))
    (moves : operation.moves = some scanRunId) :
    after = tx ∨
      ∃ lease, tx.database.leases.get? scanRunId = some lease ∧ lease.state = .active := by
  cases operation with
  | bindCoreSession | acquireRuntimeLease | requestScanControl | recordCoreEvidence
  | updateBoundScanProgress | other => cases moves
  | acknowledgePause guard input acknowledgedAtMs =>
      cases moves
      obtain ⟨answer, _, did, done⟩ := bind_eq_ok.mp ran
      obtain ⟨-, rfl⟩ := pure_eq_ok.mp done
      rcases acknowledgePause_of_ok did with ⟨_, _, rfl⟩ | ⟨_, expected, wrote⟩
      · exact .inl rfl
      · obtain ⟨context, lease, request, run, job, checkpoints, written, -⟩ := writePause_of_ok wrote
        exact .inr ⟨lease, written.found, written.active⟩
  | acknowledgeResume guard requestId requestKey acknowledgedAtMs =>
      cases moves
      obtain ⟨versions, _, did, -⟩ := bind_eq_ok.mp ran
      obtain ⟨context, request, generation, run, job, leased, -⟩ := acknowledgeResume_of_ok did
      exact .inr leased.activeLease
  | acknowledgeCancel guard requestId requestKey acknowledgedAtMs =>
      cases moves
      obtain ⟨versions, _, did, -⟩ := bind_eq_ok.mp ran
      obtain ⟨context, request, lease, run, job, leased, -⟩ := acknowledgeCancel_eq_ok.mp did
      exact .inr leased.activeLease
  | transitionLeased guard jobState jobVersion runState runVersion outcome nowMs lastError =>
      cases moves
      obtain ⟨versions, _, did, -⟩ := bind_eq_ok.mp ran
      obtain ⟨context, lease, run, job, leased, -⟩ := transitionLeasedScanJobAndRun_eq_ok.mp did
      exact .inr leased.activeLease

theorem scanControlStep_perform {operation : Operation Rest} {reply : Reply}
    (ran : perform hash evidenceExists operation tx = (.ok reply, after))
    (controlled : tx.database.Controlled scanRunId) :
    ScanControlStep operation tx after scanRunId where
  together := (protocolStep_perform ran controlled.ordered controlled.settled).together
  leased := leased_of_moves ran
  settles := (transacted_perform ran).changes.settles

/-- A request that was accepted under a new key: it is the last of its run, no cancel was there
before it, and a cancel has superseded what was pending. -/
structure AcceptedRequest (before after : Database Rest) (scanRunId : Int)
    (row : ControlRequestRow) : Prop where
  last : ∃ earlier, after.requestsOf scanRunId = earlier ++ [row] ∧
    earlier.map ControlRequestRow.id = (before.requestsOf scanRunId).map ControlRequestRow.id
  noCancel : ∀ request ∈ before.requestsOf scanRunId, request.kind ≠ .cancel
  dominates : row.kind = .cancel → ∀ request ∈ before.requestsOf scanRunId,
    request.disposition = .pending → ∃ later ∈ after.requestsOf scanRunId,
      later.id = request.id ∧ later.disposition = .superseded ∧
      later.supersededByRequestId = some row.id

/-- What a cancel makes of the requests of its run before its own is inserted. -/
theorem requestsOf_beforeRequest_cancel {database : Database Rest} {guard : RuntimeLeaseGuard}
    {input : ScanControlRequestInput} (cancel : input.kind = .cancel) :
    (database.beforeRequest guard input).requestsOf scanRunId =
      (database.requestsOf scanRunId).map
        (supersededRow guard.scanRunId input.requestedAtMs (database.lastRequestId + 1)) := by
  unfold Database.beforeRequest
  rw [if_pos cancel]
  exact requestsOf_update fun row => (supersededRow_columns _ _ _ row).1

theorem acceptedRequest_of_fresh {guard : RuntimeLeaseGuard} {input : ScanControlRequestInput}
    {row : ControlRequestRow}
    (ran : requestScanControl guard input tx = (.ok row, after))
    (fresh : tx.database.requestOfKey input.requestKey = none) :
    AcceptedRequest tx.database after.database guard.scanRunId row := by
  obtain ⟨context, requests, leased, -, rfl, ⟨allowed, -⟩, inserted, rfl⟩ :=
    (requestScanControl_eq_ok fresh).mp ran
  obtain ⟨-, -, open_, -, -⟩ := Database.requestInsertAllowed_settled allowed
  have rows : Database.requestsOf { tx.database.beforeRequest guard input with requests := requests }
      guard.scanRunId = (tx.database.beforeRequest guard input).requestsOf guard.scanRunId ++
        [tx.database.newRequest guard input context.volumeId] := by
    rw [requestsOf_insert inserted]
    exact if_pos rfl
  have noCancel : ∀ request ∈ tx.database.requestsOf guard.scanRunId, request.kind ≠ .cancel := by
    intro request inside
    by_cases cancel : input.kind = .cancel
    · have there : supersededRow guard.scanRunId input.requestedAtMs (tx.database.lastRequestId + 1)
          request ∈ (tx.database.beforeRequest guard input).requestsOf guard.scanRunId := by
        rw [requestsOf_beforeRequest_cancel cancel]
        exact List.mem_map_of_mem inside
      rw [← (supersededRow_columns guard.scanRunId input.requestedAtMs
        (tx.database.lastRequestId + 1) request).2.2.1]
      exact open_ _ there
    · have same : tx.database.beforeRequest guard input = tx.database := if_neg cancel
      rw [same] at open_
      exact open_ request inside
  refine ⟨⟨_, rows, ?_⟩, noCancel, fun cancel request inside pending => ?_⟩
  · by_cases cancel : input.kind = .cancel
    · rw [requestsOf_beforeRequest_cancel cancel, List.map_map]
      exact List.map_congr_left fun row _ => supersededRow_id _ _ _ row
    · have same : tx.database.beforeRequest guard input = tx.database := if_neg cancel
      rw [same]
  · have cancel : input.kind = .cancel := cancel
    have ofRun := (Database.mem_requestsOf.mp inside).2
    have pauseOrResume : request.kind = .pause ∨ request.kind = .resume := by
      have notCancel := noCancel request inside
      cases kind : request.kind with
      | pause => exact .inl rfl
      | resume => exact .inr rfl
      | cancel => exact absurd kind notCancel
    refine ⟨supersededRow guard.scanRunId input.requestedAtMs (tx.database.lastRequestId + 1) request,
      ?_, supersededRow_id _ _ _ request, ?_, ?_⟩
    · rw [rows, requestsOf_beforeRequest_cancel cancel]
      exact List.mem_append_left _ (List.mem_map_of_mem inside)
    · rw [supersededRow, if_pos ⟨ofRun, pending, pauseOrResume⟩]
    · rw [supersededRow, if_pos ⟨ofRun, pending, pauseOrResume⟩]
      rfl

end Steps

/-! ## The law of repeated calls -/

/-- Two calls that ask for the same request. -/
def SameRequest (guard other : RuntimeLeaseGuard) (input repeated : ScanControlRequestInput) : Prop :=
  other.leaseKey = guard.leaseKey ∧ other.scanRunId = guard.scanRunId ∧ repeated = input

/-- A stored request answers only the call that it was stored for. -/
theorem sameRequest_of_answers {guard other : RuntimeLeaseGuard}
    {input repeated : ScanControlRequestInput} {row : ControlRequestRow}
    (answers : answersRequest row guard input = true)
    (again : answersRequest row other repeated = true)
    (key : repeated.requestKey = input.requestKey) : SameRequest guard other input repeated := by
  unfold answersRequest at answers again
  simp only [Bool.and_eq_true, decide_eq_true_eq] at answers again
  obtain ⟨⟨⟨⟨⟨⟨lease, run⟩, kind⟩, job⟩, version⟩, generation⟩, clock⟩ := answers
  obtain ⟨⟨⟨⟨⟨⟨lease', run'⟩, kind'⟩, job'⟩, version'⟩, generation'⟩, clock'⟩ := again
  refine ⟨lease'.symm.trans lease, run'.symm.trans run, ?_⟩
  cases input
  cases repeated
  simp only [ScanControlRequestInput.mk.injEq]
  exact ⟨key, kind'.symm.trans kind, job'.symm.trans job, version'.symm.trans version,
    generation'.symm.trans generation, clock'.symm.trans clock⟩

/-- A stored pause answers only the call that it was stored for. -/
theorem samePause_of_answers {guard other : RuntimeLeaseGuard} {first repeated : PausePayload}
    {checkpoint : PauseCheckpointRow} {request : ControlRequestRow}
    (checked : first.Checked) (checkedAgain : repeated.Checked)
    (free : CollisionFree hash [first.bytes, repeated.bytes])
    (answers : answersPause checkpoint request guard first.input first.acknowledgedAtMs first.answer
      (hash first.bytes) = true)
    (again : answersPause checkpoint request other repeated.input repeated.acknowledgedAtMs
      repeated.answer (hash repeated.bytes) = true) :
    other.scanRunId = guard.scanRunId ∧ repeated = first := by
  unfold answersPause at answers again
  simp only [Bool.and_eq_true, decide_eq_true_eq] at answers again
  have digests : hash first.bytes = hash repeated.bytes := answers.2.symm.trans again.2
  have texts := free List.mem_cons_self (List.mem_cons_of_mem _ List.mem_cons_self) digests
  refine ⟨?_, (PausePayload.bytes_injOn checked checkedAgain texts).symm⟩
  exact again.1.1.1.1.1.1.1.1.symm.trans answers.1.1.1.1.1.1.1.1

/-- What later calls with the keys of calls that returned do. -/
structure RepeatedCalls (hash : List UInt8 → Bytes32) (evidenceExists : Rest → Int → Bool)
    (store : LiveStore Rest) (tx : RepositoryTx Rest) : Prop where
  request : ∀ {guard input row after}, requestScanControl guard input tx = (.ok row, after) →
    ∀ {next}, Afterwards hash evidenceExists store after next →
      ∃ stored, requestScanControl guard input next = (.ok stored, next) ∧ row.Settles stored
  requestConflict : ∀ {guard input row after},
    requestScanControl guard input tx = (.ok row, after) →
    ∀ {next}, Afterwards hash evidenceExists store after next →
    ∀ {other repeated}, repeated.requestKey = input.requestKey → next.OfInstance other →
      ¬ SameRequest guard other input repeated →
      requestScanControl other repeated next = (.error
        (.idempotencyConflict "scan_control_request" (lowerHex input.requestKey)), next)
  pause : ∀ {guard input acknowledgedAtMs answer after},
    acknowledgePause hash guard input acknowledgedAtMs tx = (.ok answer, after) →
    ∀ {next}, Afterwards hash evidenceExists store after next →
      acknowledgePause hash guard input acknowledgedAtMs next = (.ok answer, next)
  pauseConflict : ∀ {guard answer after} {first repeated : PausePayload},
    acknowledgePause hash guard first.input first.acknowledgedAtMs tx = (.ok answer, after) →
    first.answer = answer → first.Checked →
    ∀ {next}, Afterwards hash evidenceExists store after next →
    ∀ {other}, repeated.input.writeKey = first.input.writeKey →
      PauseChecked next other repeated.input repeated.acknowledgedAtMs repeated.answer →
      repeated.Checked → CollisionFree hash [first.bytes, repeated.bytes] →
      ¬ (other.scanRunId = guard.scanRunId ∧ repeated = first) →
      acknowledgePause hash other repeated.input repeated.acknowledgedAtMs next = (.error
        (.idempotencyConflict "pause_checkpoint_write" (lowerHex first.input.writeKey)), next)

section RepeatedCalls

variable {store : LiveStore Rest} {tx after next : RepositoryTx Rest}
  {guard other : RuntimeLeaseGuard}

/-- What a later state keeps of the transaction in which an operation returned. -/
theorem kept_of_perform {operation : Operation Rest} {reply : Reply}
    (ofStore : tx.storeInstanceKey = store.storeInstanceKey) (distinct : tx.database.KeysDistinct)
    (ran : perform hash evidenceExists operation tx = (.ok reply, after))
    (afterwards : Afterwards hash evidenceExists store after next) :
    after.database.KeysDistinct ∧ next.database.KeysDistinct ∧
      after.database.Settles next.database ∧ next.storeInstanceKey = tx.storeInstanceKey := by
  have step := transacted_perform ran
  have afterDistinct := step.changes.keysDistinct distinct
  obtain ⟨changes, same⟩ := afterwards.changes (step.storeInstanceKey.trans ofStore)
  exact ⟨afterDistinct, changes.keysDistinct afterDistinct, changes.settles,
    same.trans step.storeInstanceKey⟩

theorem RepositoryTx.OfInstance.of_eq (ofInstance : tx.OfInstance guard)
    (same : next.storeInstanceKey = tx.storeInstanceKey) : next.OfInstance guard :=
  ⟨same ▸ ofInstance.1, ofInstance.2.trans same.symm⟩

/-- A request that was accepted is stored later under its key, and answers the call. -/
theorem requestKept {input : ScanControlRequestInput} {row : ControlRequestRow}
    (ofStore : tx.storeInstanceKey = store.storeInstanceKey) (distinct : tx.database.KeysDistinct)
    (ran : requestScanControl guard input tx = (.ok row, after))
    (afterwards : Afterwards hash evidenceExists store after next) :
    next.OfInstance guard ∧ ∃ stored, next.database.requestOfKey input.requestKey = some stored ∧
      answersRequest stored guard input = true ∧ row.Settles stored := by
  have performed : perform hash evidenceExists (.requestScanControl guard input) tx =
      (.ok (.request row), after) := by
    rw [perform, bind_run, ran]
    rfl
  obtain ⟨afterDistinct, nextDistinct, settles, same⟩ :=
    kept_of_perform ofStore distinct performed afterwards
  obtain ⟨ofInstance, found, answers⟩ := requestScanControl_stores ran afterDistinct
  obtain ⟨stored, present, settled⟩ := requestOfKey_settles settles nextDistinct found
  refine ⟨ofInstance.of_eq same, stored, present, ?_, settled⟩
  rw [answersRequest_settles settled]
  exact answers

/-- A pause that was acknowledged is stored later under its write key, and answers the call. -/
theorem pauseKept {input : PauseCheckpointInput} {acknowledgedAtMs : Int} {answer : PauseAnswer}
    (ofStore : tx.storeInstanceKey = store.storeInstanceKey) (distinct : tx.database.KeysDistinct)
    (ran : acknowledgePause hash guard input acknowledgedAtMs tx = (.ok answer, after))
    (afterwards : Afterwards hash evidenceExists store after next) :
    PauseChecked next guard input acknowledgedAtMs answer ∧ ∃ checkpoint request,
      writtenCheckpoint next.database input.writeKey = some (checkpoint, request) ∧
      answersPause checkpoint request guard input acknowledgedAtMs answer
        (pauseDigest hash input acknowledgedAtMs answer) = true := by
  have performed : perform hash evidenceExists (.acknowledgePause guard input acknowledgedAtMs) tx =
      (.ok (.paused answer), after) := by
    rw [perform, bind_run, ran]
    rfl
  obtain ⟨afterDistinct, nextDistinct, settles, same⟩ :=
    kept_of_perform ofStore distinct performed afterwards
  obtain ⟨checked, checkpoint, request, found, answers⟩ := acknowledgePause_stores ran afterDistinct
  refine ⟨{ checked with ofInstance := checked.ofInstance.of_eq same }, checkpoint, request, ?_,
    answers⟩
  refine writtenCheckpoint_settles settles nextDistinct found ?_
  unfold answersPause at answers
  simp only [Bool.and_eq_true, decide_eq_true_eq] at answers
  obtain ⟨⟨⟨⟨⟨⟨-, acknowledged⟩, -⟩, -⟩, -⟩, -⟩, -⟩ := answers
  rw [acknowledged]
  decide

theorem repeatedCalls (ofStore : tx.storeInstanceKey = store.storeInstanceKey)
    (distinct : tx.database.KeysDistinct) : RepeatedCalls hash evidenceExists store tx where
  request := by
    intro guard input row after ran next afterwards
    obtain ⟨ofInstance, stored, found, answers, settled⟩ :=
      requestKept ofStore distinct ran afterwards
    exact ⟨stored, (requestScanControl_stored found).mpr ⟨ofInstance, answers, rfl, rfl⟩, settled⟩
  requestConflict := by
    intro guard input row after ran next afterwards other repeated key ofInstance differs
    obtain ⟨-, stored, found, answers, -⟩ := requestKept ofStore distinct ran afterwards
    rw [← key] at found ⊢
    refine requestScanControl_conflict ofInstance found (Bool.eq_false_iff.mpr fun again => ?_)
    exact differs (sameRequest_of_answers answers again key)
  pause := by
    intro guard input acknowledgedAtMs answer after ran next afterwards
    obtain ⟨checked, checkpoint, request, found, answers⟩ :=
      pauseKept ofStore distinct ran afterwards
    exact acknowledgePause_stored checked found answers
  pauseConflict := by
    intro guard answer after first repeated ran same checked next afterwards other key
      checkedCall checkedAgain free differs
    subst same
    obtain ⟨-, checkpoint, request, found, answers⟩ := pauseKept ofStore distinct ran afterwards
    rw [← key] at found ⊢
    refine acknowledgePause_conflict checkedCall found (Bool.eq_false_iff.mpr fun again => ?_)
    exact differs (samePause_of_answers checked checkedAgain free answers again)

end RepeatedCalls

/-! ## The whole of it -/

/-- Scan control of a run, in a transaction that begins on the store. -/
structure DurableScanControl (hash : List UInt8 → Bytes32) (evidenceExists : Rest → Int → Bool)
    (store : LiveStore Rest) (tx : RepositoryTx Rest) (scanRunId : Int) : Prop where
  law : ScanControlLaw tx.database scanRunId
  step : ∀ {operation reply after}, perform hash evidenceExists operation tx = (.ok reply, after) →
    ScanControlStep operation tx after scanRunId
  accepted : ∀ {guard : RuntimeLeaseGuard} {input row after}, guard.scanRunId = scanRunId →
    requestScanControl guard input tx = (.ok row, after) →
    tx.database.requestOfKey input.requestKey = none →
      AcceptedRequest tx.database after.database scanRunId row
  repeated : RepeatedCalls hash evidenceExists store tx
  /-- A call on the store changes nothing, or all its operations returned. -/
  calls : ∀ {α : Type} (environment : Environment) (callback : Callback Rest α),
    (store.writeTransaction hash evidenceExists environment callback).2 = store ∨
      ∃ last, Performs hash evidenceExists store.begin_ last ∧
        (store.writeTransaction hash evidenceExists environment callback).2 = store.merged last

/-- From a run that was never leased on, scan control is durable whatever is called. -/
theorem durableScanControl {start : Database Rest} {storeInstanceKey : Bytes32} {scanRunId : Int}
    {store : LiveStore Rest} {tx : RepositoryTx Rest} (fresh : start.NeverLeased scanRunId)
    (distinct : start.KeysDistinct)
    (reaches : Reaches hash evidenceExists (.opened start storeInstanceKey) store)
    (performs : Performs hash evidenceExists store.begin_ tx) :
    DurableScanControl hash evidenceExists store tx scanRunId := by
  have controlled : tx.database.Controlled scanRunId :=
    performs.controlled (reaches.controlled (fresh.controlled distinct))
  have ofStore : tx.storeInstanceKey = store.storeInstanceKey := performs.changes.2
  refine ⟨controlled.law, fun ran => scanControlStep_perform ran controlled, ?_,
    repeatedCalls ofStore controlled.distinct, ?_⟩
  · rintro guard input row after rfl ran new
    exact acceptedRequest_of_fresh ran new
  · intro α environment callback
    rw [writeTransaction_store]
    split
    · rename_i committed
      obtain ⟨-, -, -, clean, -⟩ := commits_iff.mp committed
      exact .inr ⟨_, performs_run callback .refl clean, rfl⟩
    · exact .inl rfl

section OneRun

def pauseRequest : ScanControlRequestInput := ⟨.filled 10, .pause, 1, 1, none, 100⟩

def pauseInput : PauseCheckpointInput where
  pauseRequestId := 1
  pauseRequestKey := .filled 10
  expectedGeneration := none
  writeKey := .filled 11
  cursor := ⟨0, 0⟩
  expectedJobStateVersion := 1
  expectedRunStateVersion := 1
  discoveredCount := 0
  fingerprintedCount := 0
  errorCount := 0
  logicalBytesSeen := 0
  savedAtMs := 100

/-- The run is paused, and then ends as interrupted. -/
def interruptPausedRun : Callback Nat PUnit :=
  inTurn [.requestScanControl oneRunLease pauseRequest, .acknowledgePause oneRunLease pauseInput 100,
    .transitionLeased oneRunLease .paused 2 .paused 2 .interrupted 100
      (some ("SCAN_INTERRUPTED", "scan interrupted"))]

def interruptedStore : LiveStore Nat :=
  (leasedStore.writeTransaction byteCount noEvidence quietEnvironment interruptPausedRun).2

/-- A paused run can end, and its last acknowledged request is the pause all the same. A repeated
request is answered with the row as it now is, and a payload with a bad clock by the check of the
clock. -/
theorem interruptedStore_answers :
    Reaches byteCount noEvidence (.opened oneRun (.filled 9)) interruptedStore ∧
      (interruptedStore.database.runs.get? 1).map ScanRunRow.state = some .interrupted ∧
      (interruptedStore.database.latestAcknowledged 1).map ControlRequestRow.kind = some .pause ∧
      (requestScanControl oneRunLease pauseRequest leasedStore.begin_).1.toOption.map
        ControlRequestRow.disposition = some .pending ∧
      (requestScanControl oneRunLease pauseRequest interruptedStore.begin_).1.toOption.map
        ControlRequestRow.disposition = some .acknowledged ∧
      (acknowledgePause byteCount oneRunLease pauseInput (-1) interruptedStore.begin_).1 =
        .error (.invalidInput "acknowledged_at_ms" "value must be non-negative") :=
  ⟨reaches_leasedStore.call quietEnvironment _, by decide +kernel⟩

theorem oneRun_neverLeased : oneRun.NeverLeased 1 := ⟨rfl, rfl, rfl⟩

theorem oneRun_keysDistinct : oneRun.KeysDistinct := ⟨List.nodup_nil, List.nodup_nil⟩

def resumeRequest : ScanControlRequestInput := ⟨.filled 12, .resume, 2, 2, some 1, 200⟩

/-- The pause is requested, then acknowledged, and then the run is asked to go on. -/
def requestedStore : LiveStore Nat :=
  (leasedStore.writeTransaction byteCount noEvidence quietEnvironment
    (inTurn [.requestScanControl oneRunLease pauseRequest])).2

def pausedTx : RepositoryTx Nat :=
  (acknowledgePause byteCount oneRunLease pauseInput 100 requestedStore.begin_).2

def pausedStore : LiveStore Nat :=
  (requestedStore.writeTransaction byteCount noEvidence quietEnvironment
    (inTurn [.acknowledgePause oneRunLease pauseInput 100])).2

def resumingTx : RepositoryTx Nat :=
  ((inTurn [.requestScanControl oneRunLease resumeRequest]).run byteCount noEvidence
    pausedStore.begin_).2

theorem reaches_requestedStore :
    Reaches byteCount noEvidence (.opened oneRun (.filled 9)) requestedStore :=
  reaches_leasedStore.call quietEnvironment _

theorem pausedTx_answer :
    acknowledgePause byteCount oneRunLease pauseInput 100 requestedStore.begin_ =
      (.ok ⟨2, 2, 1⟩, pausedTx) := by
  have answered :
      (acknowledgePause byteCount oneRunLease pauseInput 100 requestedStore.begin_).1 =
        .ok ⟨2, 2, 1⟩ := by decide +kernel
  rw [pausedTx, ← answered]

theorem pausedStore_eq : pausedStore = requestedStore.merged pausedTx := by
  have performed : perform byteCount noEvidence (.acknowledgePause oneRunLease pauseInput 100)
      requestedStore.begin_ = (.ok (.paused ⟨2, 2, 1⟩), pausedTx) := by
    rw [perform, bind_run, pausedTx_answer]
    rfl
  have ran : ((inTurn [.acknowledgePause oneRunLease pauseInput 100]).run byteCount noEvidence
      requestedStore.begin_).2 = pausedTx := by
    rw [inTurn, Callback.run, runMutator_returned (by decide +kernel) performed, inTurn, Callback.run]
  rw [pausedStore, writeTransaction_store, if_pos (by decide +kernel), ran]

/-- While a paused run is asked to go on, its second request is pending, and the acknowledgement is
answered as it was. -/
theorem durableScanControl_resumingTx :
    DurableScanControl byteCount noEvidence pausedStore resumingTx 1 ∧
      (resumingTx.database.runs.get? 1).map ScanRunRow.state = some .paused ∧
      (resumingTx.database.latestAcknowledged 1).map ControlRequestRow.kind = some .pause ∧
      (resumingTx.database.requestsOf 1).map ControlRequestRow.disposition =
        [.acknowledged, .pending] ∧
      acknowledgePause byteCount oneRunLease pauseInput 100 resumingTx =
        (.ok ⟨2, 2, 1⟩, resumingTx) := by
  have reaches : Reaches byteCount noEvidence (.opened oneRun (.filled 9)) pausedStore :=
    reaches_requestedStore.call quietEnvironment _
  have resuming : Performs byteCount noEvidence pausedStore.begin_ resumingTx :=
    performs_run _ .refl (by decide +kernel)
  have requested := durableScanControl oneRun_neverLeased oneRun_keysDistinct
    reaches_requestedStore .refl
  have afterwards : Afterwards byteCount noEvidence requestedStore pausedTx resumingTx :=
    .inr ⟨pausedTx, pausedStore, .refl, pausedStore_eq ▸ .refl, resuming⟩
  have found : (resumingTx.database.runs.get? 1).map ScanRunRow.state = some .paused ∧
      (resumingTx.database.latestAcknowledged 1).map ControlRequestRow.kind = some .pause ∧
      (resumingTx.database.requestsOf 1).map ControlRequestRow.disposition =
        [.acknowledged, .pending] := by
    decide +kernel
  exact ⟨durableScanControl oneRun_neverLeased oneRun_keysDistinct reaches resuming,
    found.1, found.2.1, found.2.2, requested.repeated.pause pausedTx_answer afterwards⟩

end OneRun

end Guiying.Store
