import Mathlib.Logic.Function.Basic
import Guiying.Foundation.Machine

/-!
# Scans, exports and quarantine mutations at their gates

Three kinds of calls meet at the job registry, the export registry and the
mutation gate. The registry of scan jobs is an async mutex held over every
check; the other two are locked for one step at a time. A caller is at one point
of its code: it can be dropped where it awaits, and a blocking worker it has
spawned goes on without it.
-/

namespace Guiying.Desktop

open Guiying.Foundation

abbrev Caller := Nat

abbrev JobId := Nat

abbrev ExportToken := Nat

abbrev OperationId := Nat

/-- An entry of the export registry: a token and the generation it was issued in. -/
structure ExportEntry where
  token : ExportToken
  generation : Nat
  deriving DecidableEq, Repr

/-- `launch_scan`, `export_scan_history`, and `execute_quarantine_plan` or
`restore_quarantine_operation`. -/
inductive Request where
  | scan
  | history (token : ExportToken)
  | mutation (operation : OperationId)
  deriving DecidableEq, Repr

/-- Where a caller stands in `reserve_authorized_root` and `finish`, in `begin_history_export`, and
in `begin_filesystem_mutation`. `Queued` points await the job registry; the points after them hold
it until `scanning`, `exporting` and `mutationPreparing`, where the owner of the job, the lease or
the permit goes on without it. `exportReading` awaits `begin_result_read` and `exportFinishing`
awaits `finish_result_read`. An abandoned caller has been dropped while its worker executes; the
worker of an export still owns the lease. -/
inductive Point where
  | unused
  | ended
  | scanQueued
  | scanLocked
  | scanAvailable
  | scanNoExport
  | scanNoMutation
  | scanReserved (job : JobId)
  | scanning (job : JobId)
  | finishQueued (job : JobId)
  | finishLocked (job : JobId)
  | exportQueued (token : ExportToken)
  | exportLocked (token : ExportToken)
  | exportNoScan (token : ExportToken)
  | exportNoMutation (token : ExportToken)
  | exportReading (entry : ExportEntry)
  | exportRead (entry : ExportEntry)
  | exportTaken (entry : ExportEntry)
  | exporting (entry : ExportEntry)
  | exportAbandoned (entry : ExportEntry)
  | exportFinishing (entry : ExportEntry)
  | mutationQueued (operation : OperationId)
  | mutationLocked (operation : OperationId)
  | mutationNoScan (operation : OperationId)
  | mutationNoExport (operation : OperationId)
  | mutationGranted (operation : OperationId)
  | mutationPreparing (operation : OperationId)
  | mutating (operation : OperationId)
  | mutationAbandoned (operation : OperationId)
  | mutated (operation : OperationId)
  deriving DecidableEq, Repr

namespace Point

def critical : Point → Bool
  | scanLocked | scanAvailable | scanNoExport | scanNoMutation | scanReserved _ => true
  | finishLocked _ => true
  | exportLocked _ | exportNoScan _ | exportNoMutation _ => true
  | exportReading _ | exportRead _ | exportTaken _ => true
  | mutationLocked _ | mutationNoScan _ | mutationNoExport _ | mutationGranted _ => true
  | _ => false

def job : Point → Option JobId
  | scanReserved job | scanning job | finishQueued job | finishLocked job => some job
  | _ => none

def lease : Point → Option ExportEntry
  | exportTaken entry | exporting entry | exportAbandoned entry | exportFinishing entry =>
      some entry
  | _ => none

def permit : Point → Option OperationId
  | mutationGranted operation | mutationPreparing operation | mutating operation
  | mutated operation => some operation
  | _ => none

def scanWorker : Point → Bool
  | scanning _ => true
  | _ => false

def exportWorker : Point → Bool
  | exporting _ | exportAbandoned _ => true
  | _ => false

def mutationWorker : Point → Bool
  | mutating _ | mutationAbandoned _ => true
  | _ => false

end Point

/-- The registries and where every caller stands: `holder` has the async mutex of the job registry,
and while `resultPending` a terminal status waits to be acknowledged. -/
structure Gates where
  holder : Option Caller
  active : Option JobId
  resultPending : Bool
  nextJob : JobId
  grants : List ExportEntry
  running : List ExportEntry
  nextGeneration : Nat
  activeOperation : Option OperationId
  callers : Caller → Point

namespace Gates

def new : Gates where
  holder := none
  active := none
  resultPending := false
  nextJob := 0
  grants := []
  running := []
  nextGeneration := 0
  activeOperation := none
  callers _ := .unused

/-! ## What a step does to the registries -/

def reserveJob (gates : Gates) : Gates :=
  { gates with active := some gates.nextJob, nextJob := gates.nextJob + 1 }

/-- `finish`: only the job that is still active is taken. -/
def finish (gates : Gates) (job : JobId) : Gates :=
  if gates.active = some job then { gates with active := none, resultPending := true } else gates

def runExport (gates : Gates) (entry : ExportEntry) : Gates :=
  { gates with
    grants := gates.grants.filter fun other => other.token ≠ entry.token
    running := entry :: gates.running.filter fun other => other.token ≠ entry.token }

/-- `HistoryExportRunCleanup`: the entry goes if it is still of the generation of the lease. -/
def dropLease (gates : Gates) (entry : ExportEntry) : Gates :=
  { gates with running := gates.running.filter fun other => other ≠ entry }

def openMutation (gates : Gates) (operation : OperationId) : Gates :=
  { gates with activeOperation := some operation }

/-- `FilesystemMutationPermit`: the gate opens if it still names the operation of the permit. -/
def dropPermit (gates : Gates) (operation : OperationId) : Gates :=
  if gates.activeOperation = some operation then { gates with activeOperation := none } else gates

def goto (gates : Gates) (caller : Caller) (point : Point) : Gates :=
  { gates with callers := Function.update gates.callers caller point }

def acquire (gates : Gates) (caller : Caller) (point : Point) : Option Gates :=
  if gates.holder = none then some { gates.goto caller point with holder := some caller } else none

def release (gates : Gates) (caller : Caller) (point : Point) : Gates :=
  { gates.goto caller point with holder := none }

/-- A check that the registry is held for: on success on to `passed`, else out with an error. -/
def check (gates : Gates) (caller : Caller) (condition : Bool) (passed : Point) : Gates :=
  if condition then gates.goto caller passed else gates.release caller .ended

end Gates

/-- `advance` is the next step of a call or the end of its worker, and its `ok` answers a call that
may fail: `consume_scan_root`, the worker of an export, `take_plan` or `restore_root` with the
evidence. -/
inductive Action where
  | request (caller : Caller) (request : Request)
  | advance (caller : Caller) (ok : Bool)
  | abandon (caller : Caller)
  | issueGrant (token : ExportToken)
  | dropGrant (token : ExportToken)
  | acknowledge
  deriving DecidableEq, Repr

namespace Gates

def advance (gates : Gates) (caller : Caller) (ok : Bool) : Option Gates :=
  match gates.callers caller with
  | .unused | .ended => none
  | .scanQueued => gates.acquire caller .scanLocked
  | .scanLocked =>
      some (gates.check caller (gates.active.isNone && !gates.resultPending) .scanAvailable)
  | .scanAvailable => some (gates.check caller gates.running.isEmpty .scanNoExport)
  | .scanNoExport => some (gates.check caller gates.activeOperation.isNone .scanNoMutation)
  | .scanNoMutation =>
      if ok then some (gates.reserveJob.goto caller (.scanReserved gates.nextJob))
      else some (gates.release caller .ended)
  | .scanReserved job => some (gates.release caller (.scanning job))
  | .scanning job => some (gates.goto caller (.finishQueued job))
  | .finishQueued job => gates.acquire caller (.finishLocked job)
  | .finishLocked job => some ((gates.finish job).release caller .ended)
  | .exportQueued token => gates.acquire caller (.exportLocked token)
  | .exportLocked token => some (gates.check caller gates.active.isNone (.exportNoScan token))
  | .exportNoScan token =>
      some (gates.check caller gates.activeOperation.isNone (.exportNoMutation token))
  | .exportNoMutation token =>
      match gates.grants.find? fun entry => entry.token = token with
      | none => some (gates.release caller .ended)
      | some entry => some (gates.check caller ok (.exportReading entry))
  | .exportReading entry => some (gates.check caller ok (.exportRead entry))
  | .exportRead entry =>
      if ok ∧ entry ∈ gates.grants then
        some ((gates.runExport entry).goto caller (.exportTaken entry))
      else some (gates.release caller .ended)
  | .exportTaken entry => some (gates.release caller (.exporting entry))
  | .exporting entry =>
      if ok then some (gates.goto caller (.exportFinishing entry))
      else some ((gates.dropLease entry).goto caller .ended)
  | .exportAbandoned entry => some ((gates.dropLease entry).goto caller .ended)
  | .exportFinishing entry => some ((gates.dropLease entry).goto caller .ended)
  | .mutationQueued operation => gates.acquire caller (.mutationLocked operation)
  | .mutationLocked operation =>
      some (gates.check caller gates.active.isNone (.mutationNoScan operation))
  | .mutationNoScan operation =>
      some (gates.check caller gates.running.isEmpty (.mutationNoExport operation))
  | .mutationNoExport operation =>
      if gates.activeOperation.isNone then
        some ((gates.openMutation operation).goto caller (.mutationGranted operation))
      else some (gates.release caller .ended)
  | .mutationGranted operation => some (gates.release caller (.mutationPreparing operation))
  | .mutationPreparing operation =>
      if ok then some (gates.goto caller (.mutating operation))
      else some ((gates.dropPermit operation).goto caller .ended)
  | .mutating operation => some (gates.goto caller (.mutated operation))
  | .mutationAbandoned _ => some (gates.goto caller .ended)
  | .mutated operation => some ((gates.dropPermit operation).goto caller .ended)

/-- Dropping a future drops what it owns, the permit of a mutation included, which its worker does
not own; the task that finishes a scan is detached. -/
def abandon (gates : Gates) (caller : Caller) : Option Gates :=
  match gates.callers caller with
  | .scanQueued | .exportQueued _ | .mutationQueued _ => some (gates.goto caller .ended)
  | .exportReading _ => some (gates.release caller .ended)
  | .exporting entry => some (gates.goto caller (.exportAbandoned entry))
  | .exportFinishing entry => some ((gates.dropLease entry).goto caller .ended)
  | .mutationPreparing operation => some ((gates.dropPermit operation).goto caller .ended)
  | .mutating operation =>
      some ((gates.dropPermit operation).goto caller (.mutationAbandoned operation))
  | _ => none

def step (gates : Gates) : Action → Option Gates
  | .request caller request =>
      if gates.callers caller = .unused then
        some (gates.goto caller (match request with
          | .scan => .scanQueued
          | .history token => .exportQueued token
          | .mutation operation => .mutationQueued operation))
      else none
  | .advance caller ok => gates.advance caller ok
  | .abandon caller => gates.abandon caller
  | .issueGrant token =>
      if (gates.grants ++ gates.running).any fun entry => entry.token = token then none
      else some { gates with
        grants := ⟨token, gates.nextGeneration + 1⟩ :: gates.grants
        nextGeneration := gates.nextGeneration + 1 }
  | .dropGrant token =>
      some { gates with grants := gates.grants.filter fun entry => entry.token ≠ token }
  | .acknowledge => if gates.holder = none then some { gates with resultPending := false } else none

end Gates

def gateMachine : Machine Gates Action := ⟨.new, Gates.step⟩

end Guiying.Desktop
