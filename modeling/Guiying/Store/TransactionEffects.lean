import Guiying.Store.ControlSteps

/-!
# What a mutator does to the sessions and leases

A mutator that returned has bound, acquired or released what its answer says, and
no lease that was stored is lost or comes back once it is released.
-/

namespace Guiying.Store

open Guiying.Foundation Program

variable {Rest : Type} {α : Type} {hash : List UInt8 → Bytes32} {evidenceExists : Rest → Int → Bool}

/-! ## Stored leases -/

/-- Every lease stored before is stored afterwards, and is released if it was. -/
def LeasesKept (before after : Database Rest) : Prop :=
  Table.Kept (fun row row' => row.state = .released → row'.state = .released)
    before.leases after.leases

theorem LeasesKept.refl (database : Database Rest) : LeasesKept database database :=
  Table.Kept.refl (fun _ => id) _

theorem LeasesKept.trans {first second third : Database Rest} (left : LeasesKept first second)
    (right : LeasesKept second third) : LeasesKept first third :=
  Table.Kept.trans (fun _ _ _ step step' released => step' (step released)) left right

theorem leasesKept_of_eq {before after : Database Rest} (same : after.leases = before.leases) :
    LeasesKept before after := by
  unfold LeasesKept
  rw [same]
  exact LeasesKept.refl before

theorem Change.leasesKept {before after : Database Rest} (change : Change hash before after) :
    LeasesKept before after := by
  cases change with
  | beginRelease found active _ =>
      refine Table.kept_modify (fun _ => id) ?_ found ?_
      · exact fun _ => rfl
      · intro released
        rw [active] at released
        cases released
  | finishRelease found _ _ =>
      refine Table.kept_modify (fun _ => id) ?_ found ?_
      · exact fun _ => rfl
      · exact fun _ => rfl
  | appendEvidence found active _ =>
      refine Table.kept_modify (fun _ => id) ?_ found ?_
      · exact fun old => old.withEvidence_scanRunId hash _
      · intro released
        rw [active] at released
        cases released
  | acquireLease _ _ inserted => exact Table.kept_insert (fun _ => id) inserted
  | other mutator => exact leasesKept_of_eq (mutator.keeps before).leases
  | moveRun | moveJob | acknowledge | supersede | insertRequest | insertCheckpoint | bindCoreSession
  | progress | record => exact leasesKept_of_eq rfl

theorem Changes.leasesKept {before after : Database Rest} (changes : Changes hash before after) :
    LeasesKept before after := by
  induction changes with
  | refl => exact LeasesKept.refl _
  | tail _ change ih => exact ih.trans change.leasesKept

/-! ## Steps that bind, acquire and release nothing -/

structure Quiet (hash : List UInt8 → Bytes32) (before after : RepositoryTx Rest) : Prop where
  storeInstanceKey : after.storeInstanceKey = before.storeInstanceKey
  poisoned : after.poisoned = before.poisoned
  liveCoreSessions : after.liveCoreSessions = before.liveCoreSessions
  liveRuntimeLeases : after.liveRuntimeLeases = before.liveRuntimeLeases
  bound : after.boundCoreSessions = before.boundCoreSessions
  acquired : after.acquiredRuntimeLeases = before.acquiredRuntimeLeases
  released : after.releasedRuntimeLeases = before.releasedRuntimeLeases
  changes : Changes hash before.database after.database

namespace Quiet

variable {first second third : RepositoryTx Rest}

theorem refl (tx : RepositoryTx Rest) : Quiet hash tx tx :=
  ⟨rfl, rfl, rfl, rfl, rfl, rfl, rfl, .refl⟩

theorem trans (left : Quiet hash first second) (right : Quiet hash second third) :
    Quiet hash first third where
  storeInstanceKey := right.storeInstanceKey.trans left.storeInstanceKey
  poisoned := right.poisoned.trans left.poisoned
  liveCoreSessions := right.liveCoreSessions.trans left.liveCoreSessions
  liveRuntimeLeases := right.liveRuntimeLeases.trans left.liveRuntimeLeases
  bound := right.bound.trans left.bound
  acquired := right.acquired.trans left.acquired
  released := right.released.trans left.released
  changes := left.changes.trans right.changes

theorem of_change {tx : RepositoryTx Rest} {database : Database Rest}
    (change : Change hash tx.database database) : Quiet hash tx { tx with database := database } :=
  ⟨rfl, rfl, rfl, rfl, rfl, rfl, rfl, .single change⟩

theorem of_reads {program : Tx Rest α} (reads : Reads program) : Relates (Quiet hash) program :=
  reads.relates refl

theorem bind {β : Type} {program : Tx Rest α} {next : α → Tx Rest β}
    (left : Relates (Quiet hash) program) (rest : ∀ value, Relates (Quiet hash) (next value)) :
    Relates (Quiet hash) (program >>= next) :=
  relates_bind (fun _ _ _ => trans) left rest

theorem pure_ (value : α) : Relates (Quiet hash) (pure value : Tx Rest α) := of_reads reads_pure

theorem statement {change : Database Rest → Result (α × Database Rest)}
    (made : ∀ database value after, change database = .ok (value, after) →
      database = after ∨ Change hash database after) :
    Relates (Quiet hash) (Store.statement change) := by
  intro tx value after ran
  obtain ⟨database, changed, rfl⟩ := statement_eq_ok.mp ran
  rcases made _ _ _ changed with rfl | change
  · exact refl tx
  · exact of_change change

end Quiet

/-! ## Quiet parts -/

theorem quiet_transitionScanRun {scanRunId : Int} {expectedState : ScanRunState}
    {expectedVersion : Int} {target : ScanRunState} {nowMs : Int}
    {lastError : Option (String × String)} :
    Relates (Quiet hash) (transitionScanRun scanRunId expectedState expectedVersion target nowMs lastError :
      Tx Rest Int) := by
  intro tx version after ran
  obtain ⟨_, moved, -, rfl⟩ := transitionScanRun_eq_ok.mp ran
  exact Quiet.of_change (.moveRun moved)

theorem quiet_transitionScanJob {scanJobId : Int} {expectedState : ScanJobState}
    {expectedVersion : Int} {target : ScanJobState} {nowMs : Int} :
    Relates (Quiet hash) (transitionScanJob scanJobId expectedState expectedVersion target nowMs :
      Tx Rest Int) := by
  intro tx version after ran
  obtain ⟨_, moved, -, rfl⟩ := transitionScanJob_eq_ok.mp ran
  exact Quiet.of_change (.moveJob moved)

theorem quiet_beginRuntimeLeaseRelease {guard : RuntimeLeaseGuard} {reason : ReleaseReason}
    {nowMs : Int} : Relates (Quiet hash) (beginRuntimeLeaseRelease guard reason nowMs : Tx Rest PUnit) := by
  intro tx done after ran
  obtain ⟨-, row, found, active, allowed, rfl⟩ := beginRuntimeLeaseRelease_eq_ok.mp ran
  exact Quiet.of_change (.beginRelease found active allowed)

theorem quiet_acknowledgeControlRequest {requestId jobVersion runVersion acknowledgedAtMs : Int}
    {generation : Option Int} {reasonCode : String}
    {pauseCheckpoint : Option (Bytes32 × Bytes32)} :
    Relates (Quiet hash) (acknowledgeControlRequest requestId jobVersion runVersion generation reasonCode
      acknowledgedAtMs pauseCheckpoint : Tx Rest PUnit) := by
  intro tx done after ran
  obtain ⟨_, found, pending, allowed, -, rfl⟩ := acknowledgeControlRequest_eq_ok.mp ran
  exact Quiet.of_change (.acknowledge found pending allowed)

theorem quiet_supersedePending {scanRunId requestedAtMs byId : Int} :
    Relates (Quiet hash) (supersedePending scanRunId requestedAtMs byId : Tx Rest PUnit) := by
  apply Quiet.statement
  intro database value after ran
  dsimp only at ran
  split at ran
  · rename_i allowed
    cases ran
    refine .inr (.supersede fun row inside => ?_)
    have own := List.all_eq_true.mp allowed row inside
    rwa [Bool.or_eq_true, decide_eq_true_eq] at own
  · cases ran

theorem quiet_insertRequest {row : ControlRequestRow} (new : row.acknowledgedAtMs = none) :
    Relates (Quiet hash) (insertRequest row : Tx Rest PUnit) := by
  apply Quiet.statement
  intro database value after ran
  split at ran
  · rename_i allowed
    split at ran
    · rename_i inserted
      cases ran
      exact .inr (.insertRequest new allowed.1 allowed.2 inserted)
    · cases ran
  · cases ran

theorem quiet_insertCheckpoint {row : PauseCheckpointRow} :
    Relates (Quiet hash) (insertCheckpoint row : Tx Rest PUnit) := by
  apply Quiet.statement
  intro database value after ran
  split at ran
  · rename_i allowed
    split at ran
    · rename_i inserted
      cases ran
      exact .inr (.insertCheckpoint allowed.1 allowed.2.1 allowed.2.2 inserted)
    · cases ran
  · cases ran

theorem quiet_insertCoreSession {row : CoreSessionRow} :
    Relates (Quiet hash) (insertCoreSession row : Tx Rest PUnit) := by
  apply Quiet.statement
  intro database value after ran
  split at ran
  · rename_i allowed
    split at ran
    · rename_i inserted
      cases ran
      exact .inr (.bindCoreSession allowed inserted)
    · cases ran
  · cases ran

theorem quiet_insertLease {row : RuntimeLeaseRow}
    (started : row.releaseStartedAtMs = none ∧ row.releasedAtMs = none) :
    Relates (Quiet hash) (insertLease row : Tx Rest PUnit) := by
  apply Quiet.statement
  intro database value after ran
  split at ran
  · rename_i allowed
    split at ran
    · rename_i inserted
      cases ran
      exact .inr (.acquireLease started allowed.1 inserted)
    · cases ran
  · cases ran

theorem quiet_appendRuntimeEvidence {scanRunId : Int} {input : EvidenceInput Rest} :
    Relates (Quiet hash) (appendRuntimeEvidence hash scanRunId input) := by
  apply Quiet.statement
  intro database value after ran
  split at ran
  · cases ran
    exact .inl rfl
  · rename_i row found
    obtain ⟨present, active⟩ := Option.filter_eq_some_iff.mp found
    split at ran
    · cases ran
    · split at ran
      · cases ran
      · split at ran
        · rename_i allowed
          cases ran
          exact .inr (.appendEvidence present (of_decide_eq_true active) allowed)
        · cases ran

/-! ## Quiet mutators -/

theorem quiet_requestScanControl {guard : RuntimeLeaseGuard} {input : ScanControlRequestInput} :
    Relates (Quiet hash) (requestScanControl guard input : Tx Rest ControlRequestRow) := by
  apply Quiet.bind (Quiet.of_reads reads_validateRuntimeGuardInstance)
  intro _
  refine relates_reads_bind reads_current fun tx => ?_
  split
  · exact Quiet.bind (Quiet.of_reads reads_ensure) fun _ => Quiet.pure_ _
  · apply Quiet.bind (Quiet.of_reads reads_validateRuntimeLeaseGuard)
    intro context
    apply Quiet.bind (Quiet.of_reads reads_orFail)
    intro versions
    apply Quiet.bind (Quiet.of_reads reads_ensure)
    intro _
    dsimp only
    split
    · exact Quiet.bind quiet_supersedePending fun _ =>
        Quiet.bind (quiet_insertRequest rfl) fun _ => Quiet.pure_ _
    · exact Quiet.bind (quiet_insertRequest rfl) fun _ => Quiet.pure_ _

theorem quiet_writePause {guard : RuntimeLeaseGuard} {input : PauseCheckpointInput}
    {acknowledgedAtMs : Int} {answer : PauseAnswer} {payloadDigest : Bytes32} :
    Relates (Quiet hash) (writePause guard input acknowledgedAtMs answer payloadDigest :
      Tx Rest PauseAnswer) := by
  unfold writePause
  apply Quiet.bind (Quiet.of_reads reads_validateRuntimeLeaseGuard)
  intro context
  apply Quiet.bind (Quiet.of_reads (reads_query _))
  intro lease
  apply Quiet.bind (Quiet.of_reads reads_ensure)
  intro _
  apply Quiet.bind (Quiet.of_reads reads_requirePendingControlRequest)
  intro request
  apply Quiet.bind (Quiet.of_reads reads_ensure)
  intro _
  apply Quiet.bind (Quiet.of_reads reads_ensure)
  intro _
  apply Quiet.bind (Quiet.of_reads (reads_query _))
  intro _
  apply Quiet.bind quiet_insertCheckpoint
  intro _
  apply Quiet.bind quiet_transitionScanRun
  intro observedRun
  apply Quiet.bind quiet_transitionScanJob
  intro observedJob
  exact Quiet.bind quiet_acknowledgeControlRequest fun _ => Quiet.pure_ _

theorem reads_expectedPauseAnswer {input : PauseCheckpointInput} :
    Reads (expectedPauseAnswer input : Tx Rest PauseAnswer) := by
  unfold expectedPauseAnswer
  apply reads_bind reads_nextVersion
  intro _
  apply reads_bind reads_nextVersion
  intro _
  split
  · exact reads_bind reads_nextVersion fun _ => reads_pure
  · exact reads_bind reads_pure fun _ => reads_pure

theorem quiet_acknowledgePause {guard : RuntimeLeaseGuard} {input : PauseCheckpointInput}
    {acknowledgedAtMs : Int} :
    Relates (Quiet hash) (acknowledgePause hash guard input acknowledgedAtMs : Tx Rest PauseAnswer) := by
  unfold acknowledgePause
  apply Quiet.bind (Quiet.of_reads reads_validateRuntimeGuardInstance)
  intro _
  apply Quiet.bind (Quiet.of_reads reads_requireNonnegative)
  intro _
  apply Quiet.bind (Quiet.of_reads reads_ensure)
  intro _
  apply Quiet.bind (Quiet.of_reads reads_ofExcept)
  intro _
  apply Quiet.bind (Quiet.of_reads reads_expectedPauseAnswer)
  intro answer
  apply Quiet.bind (Quiet.of_reads reads_current)
  intro tx
  split
  · exact Quiet.bind (Quiet.of_reads reads_ensure) fun _ => Quiet.pure_ _
  · exact quiet_writePause

theorem quiet_acknowledgeResume {guard : RuntimeLeaseGuard} {requestId : Int}
    {requestKey : Bytes32} {acknowledgedAtMs : Int} :
    Relates (Quiet hash) (acknowledgeResume guard requestId requestKey acknowledgedAtMs :
      Tx Rest (Int × Int)) := by
  unfold acknowledgeResume
  apply Quiet.bind (Quiet.of_reads reads_validateRuntimeLeaseGuard)
  intro context
  apply Quiet.bind (Quiet.of_reads reads_requirePendingControlRequest)
  intro request
  apply Quiet.bind (Quiet.of_reads reads_orFail)
  intro generation
  apply Quiet.bind quiet_transitionScanJob
  intro observedJob
  apply Quiet.bind quiet_transitionScanRun
  intro observedRun
  exact Quiet.bind quiet_acknowledgeControlRequest fun _ => Quiet.pure_ _

theorem quiet_recordEvidence {scanRunId : Int} {input : EvidenceInput Rest} :
    Relates (Quiet hash) (recordEvidence hash scanRunId input) := by
  unfold recordEvidence
  apply Quiet.bind
  · apply Quiet.statement
    intro database value after ran
    split at ran
    · cases ran
      exact .inr .record
    · cases ran
  · intro known
    split
    · exact Quiet.pure_ _
    · exact quiet_appendRuntimeEvidence

theorem quiet_recordEvidenceItems {scanRunId : Int} {inputs : List (EvidenceInput Rest)} :
    Relates (Quiet hash) (recordEvidenceItems hash scanRunId inputs) := by
  induction inputs with
  | nil => exact Quiet.pure_ _
  | cons input inputs ih => exact Quiet.bind quiet_recordEvidence fun _ => ih

theorem quiet_recordCoreEvidenceBatch {field : String} {guard : RunEvidenceGuard}
    {coreSessionId : Bytes32} {inputs : List (EvidenceInput Rest)} :
    Relates (Quiet hash) (recordCoreEvidenceBatch hash field guard coreSessionId inputs) := by
  unfold recordCoreEvidenceBatch
  apply Quiet.bind (Quiet.of_reads reads_ensure)
  intro _
  apply Quiet.bind (Quiet.of_reads reads_validateCoreSessionGuard)
  intro _
  apply Quiet.bind (Quiet.of_reads reads_requireActiveRuntimeLeaseForCore)
  intro _
  exact quiet_recordEvidenceItems

theorem quiet_updateBoundScanProgress {guard : RunEvidenceGuard} {progress : ScanProgress} :
    Relates (Quiet hash) (updateBoundScanProgress guard progress : Tx Rest PUnit) := by
  unfold updateBoundScanProgress
  apply Quiet.bind (Quiet.of_reads reads_validateV5RunGuard)
  intro _
  apply Quiet.bind (Quiet.of_reads reads_requireNonnegative)
  intro _
  apply Quiet.bind (Quiet.of_reads reads_requireNonnegative)
  intro _
  apply Quiet.bind (Quiet.of_reads reads_requireNonnegative)
  intro _
  apply Quiet.bind (Quiet.of_reads reads_requireNonnegative)
  intro _
  apply Quiet.bind (Quiet.of_reads reads_requireNonnegative)
  intro _
  apply Quiet.bind (Quiet.of_reads reads_ensure)
  intro _
  apply Quiet.statement
  intro database value after ran
  split at ran
  · rename_i row found
    split at ran
    · rename_i fits
      obtain ⟨running, -, -, -, -, clock⟩ := fits
      cases ran
      exact .inr (.progress found running clock)
    · cases ran
  · cases ran

theorem quiet_runOther {mutator : OtherMutator Rest} : Relates (Quiet hash) (runOther mutator) := by
  intro tx done after ran
  obtain ⟨-, rfl⟩ := Prod.mk.inj ran
  exact Quiet.of_change (.other mutator)

/-! ## Mutators that bind, acquire or release -/

/-- The core session that a call has bound. -/
def boundBy : Operation Rest × Result Reply → List CoreMembership
  | (.bindCoreSession guard input, .ok _) => [(guard.scanRunId, input.coreSessionId)]
  | _ => []

/-- The lease guard that a call has minted. -/
def mintedBy : Operation Rest × Result Reply → List RuntimeLeaseGuard
  | (.acquireRuntimeLease _ _, .ok (.lease guard)) => [guard]
  | _ => []

/-- The lease that a call has released. -/
def releasedBy : Operation Rest × Result Reply → List LeaseMembership
  | (.acknowledgeCancel guard _ _ _, .ok _) => [guard.membership]
  | (.transitionLeased guard _ _ _ _ _ _ _, .ok _) => [guard.membership]
  | _ => []

/-- The lease of the run is stored as released. -/
def StoredReleased (database : Database Rest) (scanRunId : Int) : Prop :=
  ∃ row, database.leases.get? scanRunId = some row ∧ row.state = .released

theorem StoredReleased.kept {before after : Database Rest} {scanRunId : Int}
    (released : StoredReleased before scanRunId) (kept : LeasesKept before after) :
    StoredReleased after scanRunId := by
  obtain ⟨row, found, state⟩ := released
  obtain ⟨row', found', still⟩ := kept scanRunId row found
  exact ⟨row', found', still state⟩

/-- What a transaction has bound, minted and released since another state of it. -/
structure Transacted (hash : List UInt8 → Bytes32) (before after : RepositoryTx Rest)
    (bound : List CoreMembership) (minted : List RuntimeLeaseGuard)
    (released : List LeaseMembership) : Prop where
  storeInstanceKey : after.storeInstanceKey = before.storeInstanceKey
  poisoned : after.poisoned = before.poisoned
  liveCoreSessions : after.liveCoreSessions = before.liveCoreSessions
  liveRuntimeLeases : after.liveRuntimeLeases = before.liveRuntimeLeases
  changes : Changes hash before.database after.database
  boundKept : ∀ core ∈ before.boundCoreSessions, core ∈ after.boundCoreSessions
  boundKnown : ∀ core ∈ bound, after.knowsCore core = true
  boundFrom : ∀ core ∈ after.boundCoreSessions, core ∈ before.boundCoreSessions ∨ core ∈ bound
  acquiredKept : ∀ lease ∈ before.acquiredRuntimeLeases, lease ∈ after.acquiredRuntimeLeases
  mintedHonoured : ∀ guard ∈ minted, after.Honours guard
  acquiredFrom : ∀ lease ∈ after.acquiredRuntimeLeases, lease ∈ before.acquiredRuntimeLeases ∨
    lease ∈ minted.map RuntimeLeaseGuard.membership ∧
      before.database.leases.get? lease.1 = none
  releasedIs : after.releasedRuntimeLeases = before.releasedRuntimeLeases ++ released
  releasedStored : ∀ lease ∈ released, StoredReleased after.database lease.1

theorem RepositoryTx.knowsCore_iff {tx : RepositoryTx Rest} {core : CoreMembership} :
    tx.knowsCore core = true ↔ core ∈ tx.liveCoreSessions ∨ core ∈ tx.boundCoreSessions := by
  unfold knowsCore
  rw [Bool.or_eq_true, decide_eq_true_eq, decide_eq_true_eq]

theorem RepositoryTx.knowsLease_iff {tx : RepositoryTx Rest} {lease : LeaseMembership} :
    tx.knowsLease lease = true ↔
      lease ∈ tx.liveRuntimeLeases ∨ lease ∈ tx.acquiredRuntimeLeases := by
  unfold knowsLease
  rw [Bool.or_eq_true, decide_eq_true_eq, decide_eq_true_eq]

namespace Transacted

variable {first second third : RepositoryTx Rest} {bound bound' : List CoreMembership}
  {minted minted' : List RuntimeLeaseGuard} {released released' : List LeaseMembership}

theorem of_quiet (quiet : Quiet hash first second) : Transacted hash first second [] [] [] where
  storeInstanceKey := quiet.storeInstanceKey
  poisoned := quiet.poisoned
  liveCoreSessions := quiet.liveCoreSessions
  liveRuntimeLeases := quiet.liveRuntimeLeases
  changes := quiet.changes
  boundKept := by rw [quiet.bound]; exact fun _ => id
  boundKnown := nofun
  boundFrom := by rw [quiet.bound]; exact fun _ => .inl
  acquiredKept := by rw [quiet.acquired]; exact fun _ => id
  mintedHonoured := nofun
  acquiredFrom := by rw [quiet.acquired]; exact fun _ => .inl
  releasedIs := by rw [quiet.released, List.append_nil]
  releasedStored := nofun

theorem knowsCore_kept (step : Transacted hash first second bound minted released)
    {core : CoreMembership} (known : first.knowsCore core = true) :
    second.knowsCore core = true := by
  rw [RepositoryTx.knowsCore_iff] at known ⊢
  rw [step.liveCoreSessions]
  exact known.imp_right (step.boundKept core)

theorem knowsLease_kept (step : Transacted hash first second bound minted released)
    {lease : LeaseMembership} (known : first.knowsLease lease = true) :
    second.knowsLease lease = true := by
  rw [RepositoryTx.knowsLease_iff] at known ⊢
  rw [step.liveRuntimeLeases]
  exact known.imp_right (step.acquiredKept lease)

theorem honours_kept (step : Transacted hash first second bound minted released)
    {guard : RuntimeLeaseGuard} (honoured : first.Honours guard) : second.Honours guard := by
  obtain ⟨⟨real, same⟩, known⟩ := honoured
  rw [← step.storeInstanceKey] at real same
  exact ⟨⟨real, same⟩, step.knowsLease_kept known⟩

theorem trans (left : Transacted hash first second bound minted released)
    (right : Transacted hash second third bound' minted' released') :
    Transacted hash first third (bound ++ bound') (minted ++ minted') (released ++ released') where
  storeInstanceKey := right.storeInstanceKey.trans left.storeInstanceKey
  poisoned := right.poisoned.trans left.poisoned
  liveCoreSessions := right.liveCoreSessions.trans left.liveCoreSessions
  liveRuntimeLeases := right.liveRuntimeLeases.trans left.liveRuntimeLeases
  changes := left.changes.trans right.changes
  boundKept := fun core inside => right.boundKept core (left.boundKept core inside)
  boundKnown := by
    intro core inside
    rcases List.mem_append.mp inside with inside | inside
    · exact right.knowsCore_kept (left.boundKnown core inside)
    · exact right.boundKnown core inside
  boundFrom := by
    intro core inside
    rcases right.boundFrom core inside with inside | inside
    · exact (left.boundFrom core inside).imp_right (List.mem_append_left _)
    · exact .inr (List.mem_append_right _ inside)
  acquiredKept := fun lease inside => right.acquiredKept lease (left.acquiredKept lease inside)
  mintedHonoured := by
    intro guard inside
    rcases List.mem_append.mp inside with inside | inside
    · exact right.honours_kept (left.mintedHonoured guard inside)
    · exact right.mintedHonoured guard inside
  acquiredFrom := by
    intro lease inside
    rw [List.map_append]
    rcases right.acquiredFrom lease inside with inside | ⟨inside, fresh⟩
    · exact (left.acquiredFrom lease inside).imp_right fun both =>
        ⟨List.mem_append_left _ both.1, both.2⟩
    · refine .inr ⟨List.mem_append_right _ inside, ?_⟩
      -- a lease stored before the first step would still be stored before the second
      cases there : first.database.leases.get? lease.1 with
      | none => rfl
      | some row =>
          obtain ⟨_, found, -⟩ := left.changes.leasesKept _ row there
          rw [fresh] at found
          cases found
  releasedIs := by rw [right.releasedIs, left.releasedIs, List.append_assoc]
  releasedStored := by
    intro lease inside
    rcases List.mem_append.mp inside with inside | inside
    · exact (left.releasedStored lease inside).kept right.changes.leasesKept
    · exact right.releasedStored lease inside

end Transacted

section Effects

variable {tx after : RepositoryTx Rest}

theorem transacted_bindCoreSession {guard : RunEvidenceGuard} {input : CoreSessionInput}
    {done : PUnit} (ran : bindCoreSession guard input tx = (.ok done, after)) :
    Transacted hash tx after [(guard.scanRunId, input.coreSessionId)] [] [] := by
  unfold bindCoreSession at ran
  obtain ⟨context, s1, ran1, ran⟩ := bind_eq_ok.mp ran
  rw [reads_validateV5RunGuard.eq_of_ok ran1] at ran
  obtain ⟨_, s2, ran2, ran⟩ := bind_eq_ok.mp ran
  rw [reads_requireNonnegative.eq_of_ok ran2] at ran
  obtain ⟨seen, s3, ran3, ran⟩ := bind_eq_ok.mp ran
  obtain ⟨rfl, rfl⟩ := current_eq_ok.mp ran3
  cases stored : tx.database.coreSessions.get? guard.scanRunId with
  | some existing =>
    rw [stored] at ran
    dsimp only at ran
    split at ran
    · obtain ⟨known, rfl⟩ := ensure_eq_ok.mp ran
      exact { Transacted.of_quiet (Quiet.refl tx) with
        boundKnown := by
          rintro core (_ | ⟨_, ⟨⟩⟩)
          exact known
        boundFrom := fun _ => .inl }
    · exact (fail_eq_ok.mp ran).elim
  | none =>
    rw [stored] at ran
    obtain ⟨_, s4, ran4, ran⟩ := bind_eq_ok.mp ran
    have quiet : Quiet hash tx s4 := quiet_insertCoreSession _ _ _ ran4
    have same := update_eq_ok.mp ran
    subst same
    have step : Transacted hash s4 { s4 with boundCoreSessions :=
        s4.boundCoreSessions ++ [(guard.scanRunId, input.coreSessionId)] }
        [(guard.scanRunId, input.coreSessionId)] [] [] :=
      { Transacted.of_quiet (Quiet.refl s4) with
        boundKept := fun core inside => List.mem_append_left _ inside
        boundKnown := fun core inside => RepositoryTx.knowsCore_iff.mpr
          (.inr (List.mem_append_right _ inside))
        boundFrom := fun core inside => List.mem_append.mp inside }
    exact (Transacted.of_quiet quiet).trans step

theorem transacted_acquireRuntimeLease {guard : RunEvidenceGuard}
    {input : AcquireRuntimeLeaseInput} {lease : RuntimeLeaseGuard}
    (ran : acquireRuntimeLease hash evidenceExists guard input tx = (.ok lease, after)) :
    Transacted hash tx after [] [lease] [] := by
  unfold acquireRuntimeLease at ran
  obtain ⟨seen, s0, ran0, ran⟩ := bind_eq_ok.mp ran
  obtain ⟨rfl, rfl⟩ := current_eq_ok.mp ran0
  obtain ⟨_, s1, ran1, ran⟩ := bind_eq_ok.mp ran
  obtain ⟨real, rfl⟩ := ensure_eq_ok.mp ran1
  rw [decide_eq_true_eq] at real
  obtain ⟨_, s2, ran2, ran⟩ := bind_eq_ok.mp ran
  rw [reads_ensure.eq_of_ok ran2] at ran
  obtain ⟨context, s3, ran3, ran⟩ := bind_eq_ok.mp ran
  rw [reads_validateCoreSessionGuard.eq_of_ok ran3] at ran
  obtain ⟨_, s4, ran4, ran⟩ := bind_eq_ok.mp ran
  rw [reads_requireNonnegative.eq_of_ok ran4] at ran
  obtain ⟨workPlanDigest, s5, ran5, ran⟩ := bind_eq_ok.mp ran
  rw [(reads_query _).eq_of_ok ran5] at ran
  cases stored : tx.database.leases.get? guard.scanRunId with
  | some existing =>
    rw [stored] at ran
    obtain ⟨_, s6, ran6, ran⟩ := bind_eq_ok.mp ran
    obtain ⟨answers, rfl⟩ := ensure_eq_ok.mp ran6
    obtain ⟨rfl, rfl⟩ := pure_eq_ok.mp ran
    rw [Bool.and_eq_true] at answers
    exact { Transacted.of_quiet (Quiet.refl tx) with
      mintedHonoured := by
        intro guard inside
        rw [List.mem_singleton.mp inside]
        exact ⟨⟨real, rfl⟩, answers.2⟩
      acquiredFrom := fun _ => .inl }
  | none =>
    rw [stored] at ran
    obtain ⟨_, s6, ran6, ran⟩ := bind_eq_ok.mp ran
    rw [reads_ensure.eq_of_ok ran6] at ran
    obtain ⟨_, s7, ran7, ran⟩ := bind_eq_ok.mp ran
    have quiet : Quiet hash tx s7 := quiet_insertLease ⟨rfl, rfl⟩ _ _ _ ran7
    obtain ⟨_, s8, ran8, ran⟩ := bind_eq_ok.mp ran
    have same := update_eq_ok.mp ran8
    subst same
    obtain ⟨rfl, rfl⟩ := pure_eq_ok.mp ran
    exact { Transacted.of_quiet quiet with
      acquiredKept := by
        intro lease inside
        dsimp only
        rw [quiet.acquired]
        exact List.mem_append_left _ inside
      mintedHonoured := by
        intro guard inside
        rw [List.mem_singleton.mp inside]
        refine ⟨⟨?_, quiet.storeInstanceKey.symm⟩, ?_⟩
        · rw [← quiet.storeInstanceKey] at real
          exact real
        · exact RepositoryTx.knowsLease_iff.mpr
            (.inr (List.mem_append_right _ (List.mem_singleton_self _)))
      acquiredFrom := by
        intro lease inside
        dsimp only at inside
        rw [quiet.acquired] at inside
        rcases List.mem_append.mp inside with inside | inside
        · exact .inl inside
        · refine .inr ⟨inside, ?_⟩
          rw [List.mem_singleton.mp inside]
          exact stored }

theorem get?_withReleased {database : Database Rest} {scanRunId nowMs : Int} {row : RuntimeLeaseRow}
    (found : database.leases.get? scanRunId = some row) :
    (database.withReleased scanRunId nowMs).leases.get? scanRunId = some (row.released nowMs) :=
  Table.get?_modify_self (fun row : RuntimeLeaseRow => row.released nowMs)
    (fun _ : RuntimeLeaseRow => rfl) found

theorem transacted_finishRuntimeLeaseRelease {guard : RuntimeLeaseGuard} {nowMs : Int}
    {done : PUnit} (ran : finishRuntimeLeaseRelease guard nowMs tx = (.ok done, after)) :
    Transacted hash tx after [] [] [guard.membership] := by
  obtain ⟨row, found, releasing, allowed, rfl⟩ := finishRuntimeLeaseRelease_eq_ok.mp ran
  exact { Transacted.of_quiet (Quiet.of_change (.finishRelease found releasing allowed)) with
    releasedIs := rfl
    releasedStored := by
      intro lease inside
      rw [List.mem_singleton.mp inside]
      refine ⟨row.released nowMs, ?_, rfl⟩
      exact get?_withReleased found }

theorem transacted_acknowledgeCancel {guard : RuntimeLeaseGuard} {requestId : Int}
    {requestKey : Bytes32} {acknowledgedAtMs : Int} {versions : Int × Int}
    (ran : acknowledgeCancel guard requestId requestKey acknowledgedAtMs tx =
      (.ok versions, after)) : Transacted hash tx after [] [] [guard.membership] := by
  unfold acknowledgeCancel at ran
  obtain ⟨context, s1, ran1, ran⟩ := bind_eq_ok.mp ran
  rw [reads_validateRuntimeLeaseGuard.eq_of_ok ran1] at ran
  obtain ⟨request, s2, ran2, ran⟩ := bind_eq_ok.mp ran
  rw [reads_requirePendingControlRequest.eq_of_ok ran2] at ran
  obtain ⟨_, s3, ran3, ran⟩ := bind_eq_ok.mp ran
  have releasing : Quiet hash _ _ := quiet_beginRuntimeLeaseRelease _ _ _ ran3
  obtain ⟨observedRun, s4, ran4, ran⟩ := bind_eq_ok.mp ran
  have run : Quiet hash _ _ := quiet_transitionScanRun _ _ _ ran4
  obtain ⟨observedJob, s5, ran5, ran⟩ := bind_eq_ok.mp ran
  have job : Quiet hash _ _ := quiet_transitionScanJob _ _ _ ran5
  obtain ⟨generation, s6, ran6, ran⟩ := bind_eq_ok.mp ran
  rw [(reads_query _).eq_of_ok ran6] at ran
  obtain ⟨_, s7, ran7, ran⟩ := bind_eq_ok.mp ran
  have acknowledged : Quiet hash _ _ := quiet_acknowledgeControlRequest _ _ _ ran7
  obtain ⟨_, s8, ran8, ran⟩ := bind_eq_ok.mp ran
  obtain ⟨-, rfl⟩ := pure_eq_ok.mp ran
  exact (Transacted.of_quiet (((releasing.trans run).trans job).trans acknowledged)).trans
    (transacted_finishRuntimeLeaseRelease ran8)

theorem transacted_transitionLeasedScanJobAndRun {guard : RuntimeLeaseGuard}
    {expectedJobState : ScanJobState} {expectedJobVersion : Int} {expectedRunState : ScanRunState}
    {expectedRunVersion : Int} {outcome : LeasedScanTerminalOutcome} {nowMs : Int}
    {lastError : Option (String × String)} {versions : Int × Int}
    (ran : transitionLeasedScanJobAndRun guard expectedJobState expectedJobVersion expectedRunState
      expectedRunVersion outcome nowMs lastError tx = (.ok versions, after)) :
    Transacted hash tx after [] [] [guard.membership] := by
  unfold transitionLeasedScanJobAndRun at ran
  obtain ⟨context, s1, ran1, ran⟩ := bind_eq_ok.mp ran
  rw [reads_validateRuntimeLeaseGuard.eq_of_ok ran1] at ran
  obtain ⟨_, s2, ran2, ran⟩ := bind_eq_ok.mp ran
  rw [reads_ensure.eq_of_ok ran2] at ran
  obtain ⟨pending, s3, ran3, ran⟩ := bind_eq_ok.mp ran
  rw [(reads_query _).eq_of_ok ran3] at ran
  obtain ⟨_, s4, ran4, ran⟩ := bind_eq_ok.mp ran
  rw [reads_ensure.eq_of_ok ran4] at ran
  obtain ⟨-, ran⟩ := (when_eq_ok reads_requireStageSealed).mp ran
  obtain ⟨_, s6, ran6, ran⟩ := bind_eq_ok.mp ran
  have releasing : Quiet hash _ _ := quiet_beginRuntimeLeaseRelease _ _ _ ran6
  obtain ⟨observedRun, s7, ran7, ran⟩ := bind_eq_ok.mp ran
  have run : Quiet hash _ _ := quiet_transitionScanRun _ _ _ ran7
  obtain ⟨observedJob, s8, ran8, ran⟩ := bind_eq_ok.mp ran
  have job : Quiet hash _ _ := quiet_transitionScanJob _ _ _ ran8
  obtain ⟨_, s9, ran9, ran⟩ := bind_eq_ok.mp ran
  obtain ⟨-, rfl⟩ := pure_eq_ok.mp ran
  exact (Transacted.of_quiet ((releasing.trans run).trans job)).trans
    (transacted_finishRuntimeLeaseRelease ran9)

/-- What a call that succeeded has bound, minted and released. -/
theorem transacted_perform {operation : Operation Rest} {reply : Reply}
    (ran : perform hash evidenceExists operation tx = (.ok reply, after)) :
    Transacted hash tx after (boundBy (operation, .ok reply)) (mintedBy (operation, .ok reply))
      (releasedBy (operation, .ok reply)) := by
  cases operation with
  | bindCoreSession guard input =>
      rw [perform] at ran
      obtain ⟨_, _, did, done⟩ := bind_eq_ok.mp ran
      obtain ⟨rfl, rfl⟩ := pure_eq_ok.mp done
      exact transacted_bindCoreSession did
  | acquireRuntimeLease guard input =>
      rw [perform] at ran
      obtain ⟨_, _, did, done⟩ := bind_eq_ok.mp ran
      obtain ⟨rfl, rfl⟩ := pure_eq_ok.mp done
      exact transacted_acquireRuntimeLease did
  | requestScanControl guard input =>
      rw [perform] at ran
      obtain ⟨_, _, did, done⟩ := bind_eq_ok.mp ran
      obtain ⟨rfl, rfl⟩ := pure_eq_ok.mp done
      exact Transacted.of_quiet (quiet_requestScanControl _ _ _ did)
  | acknowledgePause guard input acknowledgedAtMs =>
      rw [perform] at ran
      obtain ⟨_, _, did, done⟩ := bind_eq_ok.mp ran
      obtain ⟨rfl, rfl⟩ := pure_eq_ok.mp done
      exact Transacted.of_quiet (quiet_acknowledgePause _ _ _ did)
  | acknowledgeResume guard requestId requestKey acknowledgedAtMs =>
      rw [perform] at ran
      obtain ⟨_, _, did, done⟩ := bind_eq_ok.mp ran
      obtain ⟨rfl, rfl⟩ := pure_eq_ok.mp done
      exact Transacted.of_quiet (quiet_acknowledgeResume _ _ _ did)
  | acknowledgeCancel guard requestId requestKey acknowledgedAtMs =>
      rw [perform] at ran
      obtain ⟨_, _, did, done⟩ := bind_eq_ok.mp ran
      obtain ⟨rfl, rfl⟩ := pure_eq_ok.mp done
      exact transacted_acknowledgeCancel did
  | transitionLeased guard jobState jobVersion runState runVersion outcome nowMs lastError =>
      rw [perform] at ran
      obtain ⟨_, _, did, done⟩ := bind_eq_ok.mp ran
      obtain ⟨rfl, rfl⟩ := pure_eq_ok.mp done
      exact transacted_transitionLeasedScanJobAndRun did
  | recordCoreEvidence field guard coreSessionId inputs =>
      rw [perform] at ran
      obtain ⟨_, _, did, done⟩ := bind_eq_ok.mp ran
      obtain ⟨rfl, rfl⟩ := pure_eq_ok.mp done
      exact Transacted.of_quiet (quiet_recordCoreEvidenceBatch _ _ _ did)
  | updateBoundScanProgress guard progress =>
      rw [perform] at ran
      obtain ⟨_, _, did, done⟩ := bind_eq_ok.mp ran
      obtain ⟨rfl, rfl⟩ := pure_eq_ok.mp done
      exact Transacted.of_quiet (quiet_updateBoundScanProgress _ _ _ did)
  | other mutator =>
      rw [perform] at ran
      obtain ⟨_, _, did, done⟩ := bind_eq_ok.mp ran
      obtain ⟨rfl, rfl⟩ := pure_eq_ok.mp done
      exact Transacted.of_quiet (quiet_runOther _ _ _ did)

end Effects

end Guiying.Store
