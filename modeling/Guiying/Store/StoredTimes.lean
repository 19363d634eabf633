import Guiying.Store.ControlFacts

/-!
# Stored times

The times of a run, a job, a lease and a request. A time that is set stays set and
does not go back; which times a row has set follows from its state.
-/

namespace Guiying.Store

open Guiying.Foundation

/-! ## Rows -/

/-- A time that is set stays set, and is not earlier afterwards. -/
def Later : Option Int → Option Int → Prop
  | none, _ => True
  | some _, none => False
  | some before, some after => before ≤ after

@[simp] theorem later_some {before after : Int} : Later (some before) (some after) ↔ before ≤ after :=
  Iff.rfl

theorem Later.refl (time : Option Int) : Later time time := by
  cases time with
  | none => trivial
  | some time => exact le_refl time

theorem Later.trans {first second third : Option Int} (left : Later first second)
    (right : Later second third) : Later first third := by
  cases first with
  | none => trivial
  | some first =>
      cases second with
      | none => exact left.elim
      | some second =>
          cases third with
          | none => exact right.elim
          | some third => exact Int.le_trans left right

structure ScanRunRow.Advances (before after : ScanRunRow) : Prop where
  created : after.createdAtMs = before.createdAtMs
  started : Later before.startedAtMs after.startedAtMs
  heartbeat : Later before.heartbeatAtMs after.heartbeatAtMs
  finished : Later before.finishedAtMs after.finishedAtMs
  updated : before.updatedAtMs ≤ after.updatedAtMs

structure ScanJobRow.Advances (before after : ScanJobRow) : Prop where
  created : after.createdAtMs = before.createdAtMs
  updated : before.updatedAtMs ≤ after.updatedAtMs

structure RuntimeLeaseRow.Advances (before after : RuntimeLeaseRow) : Prop where
  acquired : after.acquiredAtMs = before.acquiredAtMs
  heartbeat : before.lastHeartbeatAtMs ≤ after.lastHeartbeatAtMs
  releaseStarted : Later before.releaseStartedAtMs after.releaseStartedAtMs
  released : Later before.releasedAtMs after.releasedAtMs

structure ControlRequestRow.Advances (before after : ControlRequestRow) : Prop where
  requested : after.requestedAtMs = before.requestedAtMs
  acknowledged : Later before.acknowledgedAtMs after.acknowledgedAtMs

theorem ScanRunRow.Advances.refl (row : ScanRunRow) : row.Advances row :=
  ⟨rfl, .refl _, .refl _, .refl _, le_refl _⟩

theorem ScanRunRow.Advances.trans (first second third : ScanRunRow) (left : first.Advances second)
    (right : second.Advances third) : first.Advances third :=
  ⟨right.created.trans left.created, left.started.trans right.started,
    left.heartbeat.trans right.heartbeat, left.finished.trans right.finished,
    left.updated.trans right.updated⟩

theorem ScanJobRow.Advances.refl (row : ScanJobRow) : row.Advances row := ⟨rfl, le_refl _⟩

theorem ScanJobRow.Advances.trans (first second third : ScanJobRow) (left : first.Advances second)
    (right : second.Advances third) : first.Advances third :=
  ⟨right.created.trans left.created, left.updated.trans right.updated⟩

theorem RuntimeLeaseRow.Advances.refl (row : RuntimeLeaseRow) : row.Advances row :=
  ⟨rfl, le_refl _, .refl _, .refl _⟩

theorem RuntimeLeaseRow.Advances.trans (first second third : RuntimeLeaseRow)
    (left : first.Advances second) (right : second.Advances third) : first.Advances third :=
  ⟨right.acquired.trans left.acquired, left.heartbeat.trans right.heartbeat,
    left.releaseStarted.trans right.releaseStarted, left.released.trans right.released⟩

theorem ControlRequestRow.Advances.refl (row : ControlRequestRow) : row.Advances row :=
  ⟨rfl, .refl _⟩

theorem ControlRequestRow.Advances.trans (first second third : ControlRequestRow)
    (left : first.Advances second) (right : second.Advances third) : first.Advances third :=
  ⟨right.requested.trans left.requested, left.acknowledged.trans right.acknowledged⟩

/-! ## Rows in order -/

/-- No time of the run is after its last update, and only a terminal run has finished. -/
structure ScanRunRow.InOrder (row : ScanRunRow) : Prop where
  started : Later row.startedAtMs (some row.updatedAtMs)
  heartbeat : Later row.heartbeatAtMs (some row.updatedAtMs)
  finished : row.finishedAtMs.isSome = true → isTerminal row.state = true

/-- The `CHECK` of `scan_runtime_leases` on the state and the times of a release. -/
structure RuntimeLeaseRow.InOrder (row : RuntimeLeaseRow) : Prop where
  active : row.state = .active → row.releaseStartedAtMs = none
  unreleased : row.state ≠ .released → row.releasedAtMs = none

/-- The `CHECK` of `scan_control_requests` on the disposition and the time of an acknowledgement. -/
def ControlRequestRow.InOrder (row : ControlRequestRow) : Prop :=
  row.disposition = .pending → row.acknowledgedAtMs = none

/-! ## Databases -/

variable {Rest : Type}

structure Database.InOrder (database : Database Rest) : Prop where
  runs : ∀ row ∈ database.runs.rows, row.InOrder
  leases : ∀ row ∈ database.leases.rows, row.InOrder
  requests : ∀ row ∈ database.requests.rows, row.InOrder

/-- No stored time of a run, a job, a lease or a request goes back. -/
structure Database.Advances (before after : Database Rest) : Prop where
  runs : Table.Kept ScanRunRow.Advances before.runs after.runs
  jobs : Table.Kept ScanJobRow.Advances before.jobs after.jobs
  leases : Table.Kept RuntimeLeaseRow.Advances before.leases after.leases
  requests : Table.Kept ControlRequestRow.Advances before.requests after.requests

namespace Database.Advances

variable {first second third : Database Rest}

theorem refl (database : Database Rest) : database.Advances database where
  runs := .refl ScanRunRow.Advances.refl _
  jobs := .refl ScanJobRow.Advances.refl _
  leases := .refl RuntimeLeaseRow.Advances.refl _
  requests := .refl ControlRequestRow.Advances.refl _

theorem trans (left : first.Advances second) (right : second.Advances third) :
    first.Advances third where
  runs := left.runs.trans ScanRunRow.Advances.trans right.runs
  jobs := left.jobs.trans ScanJobRow.Advances.trans right.jobs
  leases := left.leases.trans RuntimeLeaseRow.Advances.trans right.leases
  requests := left.requests.trans ControlRequestRow.Advances.trans right.requests

end Database.Advances

/-! ## Moved rows -/

theorem not_terminal_of_valid {state target : ScanRunState}
    (valid : validRunTransition state target = true) : isTerminal state = false := by
  cases state <;> first | rfl | cases valid

theorem ScanRunRow.moved_inOrder {row : ScanRunRow} {target : ScanRunState} {version nowMs : Int}
    {lastError : Option (String × String)} (ordered : row.InOrder) (clock : row.updatedAtMs ≤ nowMs) :
    (row.moved target version nowMs lastError).InOrder where
  started := by
    have kept : Later row.startedAtMs (some nowMs) := ordered.started.trans (later_some.mpr clock)
    unfold moved
    dsimp only
    split
    · cases started : row.startedAtMs with
      | none => exact le_refl nowMs
      | some time =>
          rw [started] at kept
          exact kept
    · exact kept
  heartbeat := by
    unfold moved
    dsimp only
    split
    · exact le_refl nowMs
    · exact ordered.heartbeat.trans (later_some.mpr clock)
  finished := by
    unfold moved
    dsimp only
    split
    · rename_i terminal
      exact fun _ => terminal
    · nofun

theorem ScanRunRow.moved_advances {row : ScanRunRow} {target : ScanRunState} {version nowMs : Int}
    {lastError : Option (String × String)} (ordered : row.InOrder)
    (valid : validRunTransition row.state target = true) (clock : row.updatedAtMs ≤ nowMs) :
    row.Advances (row.moved target version nowMs lastError) where
  created := rfl
  started := by
    unfold moved
    dsimp only
    split
    · cases row.startedAtMs with
      | none => trivial
      | some time => exact le_refl time
    · exact .refl _
  heartbeat := by
    unfold moved
    dsimp only
    split
    · exact ordered.heartbeat.trans (later_some.mpr clock)
    · exact .refl _
  finished := by
    -- a run that can be moved has not finished
    cases finished : row.finishedAtMs with
    | none => trivial
    | some time =>
        have terminal := ordered.finished (by rw [finished]; rfl)
        rw [not_terminal_of_valid valid] at terminal
        cases terminal
  updated := clock

end Guiying.Store
