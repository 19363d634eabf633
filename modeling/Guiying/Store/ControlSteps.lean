import Guiying.Store.WriteTransaction

/-!
# The changes a mutator makes

A mutator that returned has made some of the changes below, one after the other,
each with what its statement and its triggers asked for. A property of databases
that every change keeps is kept by every mutator.
-/

namespace Guiying.Store

open Guiying.Foundation Guiying.Foundation.MachineInt Program

variable {Rest : Type} {α : Type} {hash : List UInt8 → Bytes32}

/-- One statement that was made. -/
inductive Change (hash : List UInt8 → Bytes32) : Database Rest → Database Rest → Prop
  | moveRun {database : Database Rest} {scanRunId expectedVersion nowMs : Int}
      {expectedState target : ScanRunState} {lastError : Option (String × String)}
      {row : ScanRunRow}
      (moved : MovedRun database scanRunId expectedState expectedVersion target nowMs lastError row) :
      Change hash database
        (database.withMovedRun scanRunId target (expectedVersion + 1) nowMs lastError)
  | moveJob {database : Database Rest} {scanJobId expectedVersion nowMs : Int}
      {expectedState target : ScanJobState} {row : ScanJobRow}
      (moved : MovedJob database scanJobId expectedState expectedVersion target nowMs row) :
      Change hash database (database.withMovedJob scanJobId target (expectedVersion + 1) nowMs)
  | beginRelease {database : Database Rest} {scanRunId nowMs : Int} {reason : ReleaseReason}
      {row : RuntimeLeaseRow} (found : database.leases.get? scanRunId = some row)
      (active : row.state = .active)
      (allowed : database.leaseUpdateAllowed row (row.releasing reason nowMs) = true) :
      Change hash database (database.withReleasing scanRunId reason nowMs)
  | finishRelease {database : Database Rest} {scanRunId nowMs : Int} {row : RuntimeLeaseRow}
      (found : database.leases.get? scanRunId = some row) (releasing : row.state = .releasing)
      (allowed : database.leaseUpdateAllowed row (row.released nowMs) = true) :
      Change hash database (database.withReleased scanRunId nowMs)
  | appendEvidence {database : Database Rest} {scanRunId : Int} {input : EvidenceInput Rest}
      {row : RuntimeLeaseRow} (found : database.leases.get? scanRunId = some row)
      (active : row.state = .active)
      (allowed : database.leaseUpdateAllowed row (row.withEvidence hash input) = true) :
      Change hash database { database with
        leases := database.leases.modify scanRunId (fun old => old.withEvidence hash input)
          fun old => old.withEvidence_scanRunId hash input }
  | acknowledge {database : Database Rest} {requestId jobVersion runVersion acknowledgedAtMs : Int}
      {generation : Option Int} {reasonCode : String}
      {pauseCheckpoint : Option (Bytes32 × Bytes32)} {row : ControlRequestRow}
      (found : database.requests.get? requestId = some row) (pending : row.disposition = .pending)
      (allowed : database.requestUpdateAllowed row (row.acknowledged jobVersion runVersion generation
        reasonCode acknowledgedAtMs pauseCheckpoint) = true) :
      Change hash database { database with
        requests := database.requests.modify requestId (fun old => old.acknowledged jobVersion
          runVersion generation reasonCode acknowledgedAtMs pauseCheckpoint) fun _ => rfl }
  | supersede {database : Database Rest} {scanRunId requestedAtMs byId : Int}
      (allowed : ∀ row ∈ database.requests.rows,
        supersededRow scanRunId requestedAtMs byId row = row ∨
          database.requestUpdateAllowed row (supersededRow scanRunId requestedAtMs byId row) =
            true) :
      Change hash database { database with
        requests := database.requests.update (supersededRow scanRunId requestedAtMs byId)
          (supersededRow_id scanRunId requestedAtMs byId) }
  | insertRequest {database : Database Rest} {row : ControlRequestRow}
      {requests : Table ControlRequestRow.id} (new : row.acknowledgedAtMs = none)
      (allowed : database.requestInsertAllowed row = true)
      (fresh : row.requestKey ∉ database.requests.rows.map ControlRequestRow.requestKey)
      (inserted : database.requests.insert row = some requests) :
      Change hash database { database with requests := requests }
  | insertCheckpoint {database : Database Rest} {row : PauseCheckpointRow}
      {checkpoints : Table PauseCheckpointRow.key}
      (allowed : database.checkpointInsertAllowed row = true)
      (freshKey : row.writeKey ∉ database.checkpoints.rows.map PauseCheckpointRow.writeKey)
      (freshRequest :
        row.pauseRequestId ∉ database.checkpoints.rows.map PauseCheckpointRow.pauseRequestId)
      (inserted : database.checkpoints.insert row = some checkpoints) :
      Change hash database { database with checkpoints := checkpoints }
  | bindCoreSession {database : Database Rest} {row : CoreSessionRow}
      {coreSessions : Table CoreSessionRow.scanRunId}
      (allowed : database.coreSessionAllowed row = true)
      (inserted : database.coreSessions.insert row = some coreSessions) :
      Change hash database { database with coreSessions := coreSessions }
  | acquireLease {database : Database Rest} {row : RuntimeLeaseRow}
      {leases : Table RuntimeLeaseRow.scanRunId}
      (started : row.releaseStartedAtMs = none ∧ row.releasedAtMs = none)
      (allowed : database.leaseInsertAllowed row = true)
      (inserted : database.leases.insert row = some leases) :
      Change hash database { database with leases := leases }
  | progress {database : Database Rest} {scanRunId : Int} {progress : ScanProgress}
      {row : ScanRunRow} (found : database.runs.get? scanRunId = some row)
      (running : row.state = .running)
      (clock : row.updatedAtMs ≤ progress.heartbeatAtMs) :
      Change hash database { database with
        runs := database.runs.modify scanRunId (fun old => old.progressed progress) fun _ => rfl }
  | record {database : Database Rest} {rest : Rest} :
      Change hash database { database with rest := rest }
  | other {database : Database Rest} (mutator : OtherMutator Rest) :
      Change hash database (mutator.run database).2

/-- Some changes, one after the other. -/
abbrev Changes (hash : List UInt8 → Bytes32) : Database Rest → Database Rest → Prop :=
  Relation.ReflTransGen (Change hash)

/-- What every change keeps, changes keep. -/
theorem Changes.invariant {holds : Database Rest → Prop}
    (step : ∀ before after, Change hash before after → holds before → holds after)
    {before after : Database Rest} (changes : Changes hash before after) (start : holds before) :
    holds after := by
  induction changes with
  | refl => exact start
  | tail _ change ih => exact step _ _ change ih

/-- A relation that is reflexive and transitive and holds of every change holds of changes, where an
invariant helps along. -/
theorem Changes.relates {holds : Database Rest → Prop} {relation : Database Rest → Database Rest → Prop}
    (refl : ∀ database, relation database database)
    (trans : ∀ first second third, relation first second → relation second third →
      relation first third)
    (step : ∀ before after, Change hash before after → holds before →
      holds after ∧ relation before after)
    {before after : Database Rest} (changes : Changes hash before after) (start : holds before) :
    holds after ∧ relation before after := by
  induction changes with
  | refl => exact ⟨start, refl _⟩
  | tail _ change ih =>
      obtain ⟨held, related⟩ := ih
      obtain ⟨holds, next⟩ := step _ _ change held
      exact ⟨holds, trans _ _ _ related next⟩

/-! ## Times advance -/

section Times

variable {before after : Database Rest}

theorem RuntimeLeaseRow.withEvidence_times (row : RuntimeLeaseRow) (input : EvidenceInput Rest) :
    (row.withEvidence hash input).acquiredAtMs = row.acquiredAtMs ∧
      (row.withEvidence hash input).lastHeartbeatAtMs = row.lastHeartbeatAtMs ∧
      (row.withEvidence hash input).state = row.state ∧
      (row.withEvidence hash input).releaseStartedAtMs = row.releaseStartedAtMs ∧
      (row.withEvidence hash input).releasedAtMs = row.releasedAtMs := by
  unfold withEvidence
  split
  · exact ⟨rfl, rfl, rfl, rfl, rfl⟩
  · exact ⟨rfl, rfl, rfl, rfl, rfl⟩

theorem RuntimeLeaseRow.releasing_advances {row : RuntimeLeaseRow} {reason : ReleaseReason}
    {nowMs : Int} (ordered : row.InOrder) (active : row.state = .active) :
    (row.releasing reason nowMs).InOrder ∧ row.Advances (row.releasing reason nowMs) := by
  have unreleased : row.releasedAtMs = none := ordered.unreleased (by rw [active]; nofun)
  refine ⟨⟨nofun, fun _ => unreleased⟩, rfl, le_refl _, ?_, .refl _⟩
  rw [ordered.active active]
  trivial

theorem RuntimeLeaseRow.released_advances {row : RuntimeLeaseRow} {nowMs : Int}
    (ordered : row.InOrder) (releasing : row.state = .releasing) :
    (row.released nowMs).InOrder ∧ row.Advances (row.released nowMs) := by
  refine ⟨⟨nofun, fun unreleased => absurd rfl unreleased⟩, rfl, le_refl _, .refl _, ?_⟩
  rw [ordered.unreleased (by rw [releasing]; nofun)]
  trivial

theorem RuntimeLeaseRow.withEvidence_advances {row : RuntimeLeaseRow} {input : EvidenceInput Rest}
    (ordered : row.InOrder) :
    (row.withEvidence hash input).InOrder ∧ row.Advances (row.withEvidence hash input) := by
  obtain ⟨acquired, heartbeat, state, started, released⟩ := row.withEvidence_times input
  constructor
  · constructor
    · rw [state, started]
      exact ordered.active
    · rw [state, released]
      exact ordered.unreleased
  · refine ⟨acquired, heartbeat.ge, ?_, ?_⟩
    · rw [started]
      exact .refl _
    · rw [released]
      exact .refl _

theorem supersededRow_advances {scanRunId requestedAtMs byId : Int} {row : ControlRequestRow}
    (ordered : row.InOrder) :
    (supersededRow scanRunId requestedAtMs byId row).InOrder ∧
      row.Advances (supersededRow scanRunId requestedAtMs byId row) := by
  unfold supersededRow
  split
  · rename_i pending
    refine ⟨nofun, rfl, ?_⟩
    rw [ordered pending.2.1]
    trivial
  · exact ⟨ordered, .refl row⟩

theorem ScanRunRow.progressed_advances {row : ScanRunRow} {progress : ScanProgress}
    (ordered : row.InOrder) (clock : row.updatedAtMs ≤ progress.heartbeatAtMs) :
    (row.progressed progress).InOrder ∧ row.Advances (row.progressed progress) := by
  refine ⟨⟨?_, le_refl _, ordered.finished⟩, rfl, .refl _, ?_, .refl _, clock⟩
  · exact ordered.started.trans (later_some.mpr clock)
  · exact ordered.heartbeat.trans (later_some.mpr clock)

/-- No change moves a stored time back. -/
theorem Change.advances (change : Change hash before after) (ordered : before.InOrder) :
    after.InOrder ∧ before.Advances after := by
  have same := Database.Advances.refl before
  cases change with
  | moveRun moved =>
      have row := ordered.runs _ (Table.get?_eq_some.mp moved.found).1
      have valid := moved.valid
      rw [← moved.state] at valid
      refine ⟨⟨?_, ordered.leases, ordered.requests⟩, ?_, same.jobs, same.leases, same.requests⟩
      · refine Table.forall_modify ?_ moved.found ordered.runs ?_
        · exact fun _ => rfl
        · exact ScanRunRow.moved_inOrder row moved.clock
      · refine Table.kept_modify ScanRunRow.Advances.refl ?_ moved.found ?_
        · exact fun _ => rfl
        · exact ScanRunRow.moved_advances row valid moved.clock
  | moveJob moved =>
      refine ⟨⟨ordered.runs, ordered.leases, ordered.requests⟩, same.runs, ?_, same.leases,
        same.requests⟩
      refine Table.kept_modify ScanJobRow.Advances.refl ?_ moved.found ?_
      · exact fun _ => rfl
      · exact ⟨rfl, moved.clock⟩
  | beginRelease found active _ =>
      have row := ordered.leases _ (Table.get?_eq_some.mp found).1
      obtain ⟨inOrder, advances⟩ := RuntimeLeaseRow.releasing_advances row active
      refine ⟨⟨ordered.runs, ?_, ordered.requests⟩, same.runs, same.jobs, ?_, same.requests⟩
      · refine Table.forall_modify ?_ found ordered.leases inOrder
        exact fun _ => rfl
      · refine Table.kept_modify RuntimeLeaseRow.Advances.refl ?_ found advances
        exact fun _ => rfl
  | finishRelease found releasing _ =>
      have row := ordered.leases _ (Table.get?_eq_some.mp found).1
      obtain ⟨inOrder, advances⟩ := RuntimeLeaseRow.released_advances row releasing
      refine ⟨⟨ordered.runs, ?_, ordered.requests⟩, same.runs, same.jobs, ?_, same.requests⟩
      · refine Table.forall_modify ?_ found ordered.leases inOrder
        exact fun _ => rfl
      · refine Table.kept_modify RuntimeLeaseRow.Advances.refl ?_ found advances
        exact fun _ => rfl
  | appendEvidence found active _ =>
      have row := ordered.leases _ (Table.get?_eq_some.mp found).1
      obtain ⟨inOrder, advances⟩ := RuntimeLeaseRow.withEvidence_advances row
      refine ⟨⟨ordered.runs, ?_, ordered.requests⟩, same.runs, same.jobs, ?_, same.requests⟩
      · refine Table.forall_modify ?_ found ordered.leases inOrder
        exact fun old => old.withEvidence_scanRunId hash _
      · refine Table.kept_modify RuntimeLeaseRow.Advances.refl ?_ found advances
        exact fun old => old.withEvidence_scanRunId hash _
  | acknowledge found pending _ =>
      have row := ordered.requests _ (Table.get?_eq_some.mp found).1
      refine ⟨⟨ordered.runs, ordered.leases, ?_⟩, same.runs, same.jobs, same.leases, ?_⟩
      · refine Table.forall_modify ?_ found ordered.requests ?_
        · exact fun _ => rfl
        · nofun
      · refine Table.kept_modify ControlRequestRow.Advances.refl ?_ found ⟨rfl, ?_⟩
        · exact fun _ => rfl
        · rw [row pending]
          trivial
  | supersede _ =>
      refine ⟨⟨ordered.runs, ordered.leases, ?_⟩, same.runs, same.jobs, same.leases, ?_⟩
      · intro row inside
        obtain ⟨old, present, rfl⟩ := List.mem_map.mp inside
        exact (supersededRow_advances (ordered.requests old present)).1
      · refine Table.kept_update ?_ fun row inside =>
          (supersededRow_advances (ordered.requests row inside)).2
        exact supersededRow_id _ _ _
  | insertRequest new _ _ inserted =>
      refine ⟨⟨ordered.runs, ordered.leases, ?_⟩, same.runs, same.jobs, same.leases, ?_⟩
      · exact Table.forall_insert inserted ordered.requests fun _ => new
      · exact Table.kept_insert ControlRequestRow.Advances.refl inserted
  | insertCheckpoint | bindCoreSession | record =>
      exact ⟨⟨ordered.runs, ordered.leases, ordered.requests⟩, same.runs, same.jobs, same.leases,
        same.requests⟩
  | acquireLease started _ inserted =>
      refine ⟨⟨ordered.runs, ?_, ordered.requests⟩, same.runs, same.jobs, ?_, same.requests⟩
      · exact Table.forall_insert inserted ordered.leases
          ⟨fun _ => started.1, fun _ => started.2⟩
      · exact Table.kept_insert RuntimeLeaseRow.Advances.refl inserted
  | progress found _ clock =>
      have row := ordered.runs _ (Table.get?_eq_some.mp found).1
      obtain ⟨inOrder, advances⟩ := ScanRunRow.progressed_advances row clock
      refine ⟨⟨?_, ordered.leases, ordered.requests⟩, ?_, same.jobs, same.leases, same.requests⟩
      · refine Table.forall_modify ?_ found ordered.runs inOrder
        exact fun _ => rfl
      · refine Table.kept_modify ScanRunRow.Advances.refl ?_ found advances
        exact fun _ => rfl
  | other mutator => exact mutator.advances before ordered

/-- No stored time goes back over any number of changes. -/
theorem Changes.advances (changes : Changes hash before after) (ordered : before.InOrder) :
    after.InOrder ∧ before.Advances after :=
  changes.relates Database.Advances.refl (fun _ _ _ => Database.Advances.trans)
    (fun _ _ change => change.advances) ordered

end Times

end Guiying.Store
