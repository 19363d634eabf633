import Guiying.Desktop.HistoryExports
import Guiying.Desktop.WindowGrants

/-!
# The calls of windows and the end of a window

Each call of a window goes through short sections of the registries, one after
the other; between two of them any other call may go on. The handler of a closing
window is one more such call. It leaves what it cannot lock to tasks that run
later.
-/

namespace Guiying.Desktop

open Guiying.Foundation

structure ActiveScan where
  ownerWindowLabel : Window
  control : WorkerControlState

/-- In this order `open_scan_history`, `with_result_reader`, `select_history_export_target`,
`export_scan_history`, `launch_scan`, `select_scan_root`, `select_quarantine_plan_root` and the
calls that take a plan, the same two of a restore, and the handler of `CloseRequested` or
`Destroyed`. -/
inductive DeskRequest where
  | openResult (scanRunId : Int)
  | readResult (token : Token)
  | selectExport (token : Token) (options : ExportOptions)
  | startExport (token : Token)
  | startScan (token : Token)
  | selectRoot
  | preparePlan
  | takePlan (token : Token)
  | prepareRestore
  | takeRestoreRoot (token : Token)
  | close
  deriving DecidableEq

inductive DeskPoint where
  | unused
  | queued (request : DeskRequest)
  | ended
  | openPermitted (permit : ResultOpenPermit)
  | opened (token : Token)
  | reading (lease : ResultReadLease)
  | delivered
  | selectAdmitted (token : Token) (options : ExportOptions)
  | selecting (binding : ResultExportBinding) (options : ExportOptions)
  | choosing (permit : PendingExportSelection)
  | validated (permit : PendingExportSelection)
  | checked (permit : PendingExportSelection)
  | exportGranted (token : Token)
  | exportLocked (token : Token)
  | exportFound (grant : HistoryExportGrant)
  | exportLeased (grant : HistoryExportGrant) (lease : ResultReadLease)
  | exportStarted (lease : ResultReadLease)
  | scanLocked (token : Token)
  | scanConsumed
  | scanStarted
  | rootSelecting (sequence : Nat)
  | rootGranted (token : Token)
  | planPreparing (epoch : Nat)
  | planIssued (token : Token)
  | planTaken
  | restorePreparing (epoch : Nat)
  | restoreIssued (token : Token)
  | restoreTaken
  | closeRoots
  | closeTombstone
  | closeExports
  | closeReads
  | closeScan
  | closeQuarantine
  | closed
  deriving DecidableEq

namespace DeskPoint

def holds : DeskPoint → Bool
  | exportLocked _ | exportFound _ | exportLeased _ _ | scanLocked _ | scanConsumed => true
  | _ => false

/-- The window has got a token, data, or an operation that it may carry out. -/
def gained : DeskPoint → Bool
  | opened _ | delivered | exportGranted _ | exportStarted _ | planIssued _ | planTaken
  | restoreIssued _ | restoreTaken => true
  | _ => false

def closing : DeskPoint → Bool
  | queued .close | closeRoots | closeTombstone | closeExports | closeReads | closeScan
  | closeQuarantine | closed => true
  | _ => false

end DeskPoint

structure DeskCall where
  ownerWindowLabel : Window
  point : DeskPoint

/-- `holder` has the async mutex of the job registry over several steps; spawned tasks have still to
remove the result reads of `deferredReads` and to cancel the scans of `deferredScans`. -/
structure Desk where
  roots : ScanRootTokenRegistry
  owners : ResultOwners
  reads : ResultReadRegistry
  exports : HistoryExportRegistry
  holder : Option Caller
  scan : Option ActiveScan
  quarantine : QuarantineRegistry
  deferredReads : List Window
  deferredScans : List Window
  callers : Caller → DeskCall

/-- What the environment supplies to a step: `ok` where nothing else fails, a dialog is not dismissed
and a `try_lock` is not defeated by another short section. -/
structure Choice where
  now : Instant
  ok : Bool
  drawn : List Token
  source : ResultSource
  selected : Option String
  plan : QuarantinePlan

inductive DeskAction where
  | request (caller : Caller) (owner : Window) (request : DeskRequest)
  | advance (caller : Caller) (choice : Choice)
  | abandon (caller : Caller)
  | commitExport (token : Token)
  | dropRun (token : Token) (generation : Nat)
  | cancelExport (owner : Window) (token : Token)
  | revokeExports (token : Token)
  | closeResultRead (owner : Window) (token : Token)
  | pauseScan
  | resumeScan
  | finishEnumeration
  | cancelScan
  | finishScan
  | runReads (owner : Window)
  | runScan (owner : Window)

namespace Desk

def new : Desk where
  roots := .new
  owners := .new
  reads := .new
  exports := .new
  holder := none
  scan := none
  quarantine := .new
  deferredReads := []
  deferredScans := []
  callers _ := ⟨"", .unused⟩

def goto (desk : Desk) (caller : Caller) (point : DeskPoint) : Desk :=
  { desk with
    callers := Function.update desk.callers caller
      { desk.callers caller with point } }

def acquire (desk : Desk) (caller : Caller) (point : DeskPoint) : Option Desk :=
  if desk.holder = none then some { desk.goto caller point with holder := some caller } else none

def release (desk : Desk) (caller : Caller) (point : DeskPoint) : Desk :=
  { desk.goto caller point with holder := none }

/-- A step that waits for the job registry and holds it only for itself. -/
def whenFree (desk : Desk) (next : Desk) : Option Desk :=
  if desk.holder = none then some next else none

/-- Go on with the answer of a section, or end with its error. -/
def answer {α : Type} (result : Except AppError α) (passed : α → DeskPoint) : DeskPoint :=
  match result with
  | .ok value => passed value
  | .error _ => .ended

def cancelScanOf (desk : Desk) (owner : Window) : Option ActiveScan :=
  desk.scan.map fun active =>
    if active.ownerWindowLabel = owner then { active with control := active.control.cancel }
    else active

/-! ## Result reads -/

def advanceRead (desk : Desk) (caller : Caller) (owner : Window) (choice : Choice) :
    DeskPoint → Option Desk
  | .queued (.openResult scanRunId) =>
      let result := desk.reads.beginResultOpen desk.owners choice.now owner scanRunId
      some { desk.goto caller (answer result.2 .openPermitted) with reads := result.1 }
  | .openPermitted permit =>
      if choice.ok then
        let result := desk.reads.issueResultRead desk.owners choice.now permit choice.source
          choice.drawn
        match result.2 with
        | .ok issued => some { desk.goto caller (.opened issued.1) with reads := result.1 }
        | .error _ =>
            some { desk.goto caller .ended with reads := result.1.dropPending permit.sequence }
      else some { desk.goto caller .ended with reads := desk.reads.dropPending permit.sequence }
  | .queued (.readResult token) =>
      let result := desk.reads.beginResultRead desk.owners choice.now owner token
      some { desk.goto caller (answer result.2 .reading) with reads := result.1 }
  | .reading lease =>
      let result := desk.reads.finishResultRead desk.owners choice.now lease
      let point := if choice.ok then answer result.2 fun _ => .delivered else .ended
      some { desk.goto caller point with reads := result.1 }
  | _ => none

/-! ## Exports -/

def advanceExport (desk : Desk) (caller : Caller) (owner : Window) (choice : Choice) :
    DeskPoint → Option Desk
  | .queued (.selectExport token options) =>
      let admitted := desk.scan.isNone && choice.ok
      desk.whenFree (desk.goto caller (if admitted then .selectAdmitted token options else .ended))
  | .selectAdmitted token options =>
      let result := desk.reads.snapshotResultExportBinding desk.owners choice.now owner token
      let point := answer result.2 fun binding => .selecting binding options
      some { desk.goto caller point with reads := result.1 }
  | .selecting binding options =>
      let result := desk.exports.beginSelection choice.now binding options
      some { desk.goto caller (answer result.2 .choosing) with exports := result.1 }
  | .choosing permit =>
      let result := desk.reads.snapshotResultExportBinding desk.owners choice.now
        permit.binding.ownerWindowLabel permit.binding.resultReadToken
      if choice.ok = false then
        some { desk.goto caller .ended with exports := desk.exports.dropPending permit.sequence }
      else
        match result.2 with
        | .ok current =>
            if current = permit.binding then
              some { desk.goto caller (.validated permit) with reads := result.1 }
            else
              some { desk.goto caller .ended with
                reads := result.1, exports := desk.exports.dropPending permit.sequence }
        | .error _ =>
            some { desk.goto caller .ended with
              reads := result.1, exports := desk.exports.dropPending permit.sequence }
  | .validated permit =>
      if desk.scan.isNone && choice.ok then desk.whenFree (desk.goto caller (.checked permit))
      else
        desk.whenFree
          { desk.goto caller .ended with exports := desk.exports.dropPending permit.sequence }
  | .checked permit =>
      let result := desk.exports.finishSelection choice.now permit choice.drawn
      match result.2 with
      | .ok token => some { desk.goto caller (.exportGranted token) with exports := result.1 }
      | .error _ =>
          some { desk.goto caller .ended with exports := result.1.dropPending permit.sequence }
  | .queued (.startExport token) => desk.acquire caller (.exportLocked token)
  | .exportLocked token =>
      if desk.scan.isNone && choice.ok then
        let result := desk.exports.findGrant choice.now owner token
        match result.2 with
        | .ok grant => some { desk.goto caller (.exportFound grant) with exports := result.1 }
        | .error _ => some { desk.release caller .ended with exports := result.1 }
      else some (desk.release caller .ended)
  | .exportFound grant =>
      let result := desk.reads.beginResultRead desk.owners choice.now owner
        grant.binding.resultReadToken
      match result.2 with
      | .ok lease =>
          if (⟨lease.token, lease.ownerWindowLabel, lease.ownerEpoch, lease.generation,
              lease.source, lease.scanRunId⟩ : ResultExportBinding) = grant.binding then
            some { desk.goto caller (.exportLeased grant lease) with reads := result.1 }
          else some { desk.release caller .ended with reads := result.1.releaseInFlight lease }
      | .error _ => some { desk.release caller .ended with reads := result.1 }
  | .exportLeased grant lease =>
      let result := desk.exports.runGrant choice.now owner grant
      match result.2 with
      | .ok _ => some { desk.release caller (.exportStarted lease) with exports := result.1 }
      | .error _ =>
          some { desk.release caller .ended with
            exports := result.1, reads := desk.reads.releaseInFlight lease }
  | .exportStarted lease =>
      some { desk.goto caller .ended with
        reads := (desk.reads.finishResultRead desk.owners choice.now lease).1 }
  | _ => none

/-! ## Scans -/

def advanceScan (desk : Desk) (caller : Caller) (owner : Window) (choice : Choice) :
    DeskPoint → Option Desk
  | .queued (.startScan token) => desk.acquire caller (.scanLocked token)
  | .scanLocked token =>
      if desk.scan.isNone && desk.exports.running.isEmpty && choice.ok then
        let result := desk.roots.consume choice.now owner token
        match result.2 with
        | .ok _ => some { desk.goto caller .scanConsumed with roots := result.1 }
        | .error _ => some { desk.release caller .ended with roots := result.1 }
      else some (desk.release caller .ended)
  | .scanConsumed => some { desk.release caller .scanStarted with scan := some ⟨owner, .new⟩ }
  | .queued .selectRoot =>
      let result := desk.roots.beginSelection choice.now owner
      some { desk.goto caller (answer result.2 .rootSelecting) with roots := result.1 }
  | .rootSelecting sequence =>
      let result := desk.roots.finishSelection choice.now owner sequence choice.selected
        choice.drawn
      let point := answer result.2 fun granted =>
        match granted with
        | some token => .rootGranted token
        | none => .ended
      some { desk.goto caller point with roots := result.1 }
  | _ => none

/-! ## Quarantine -/

def advanceQuarantine (desk : Desk) (caller : Caller) (owner : Window) (choice : Choice) :
    DeskPoint → Option Desk
  | .queued .preparePlan =>
      some (desk.goto caller (answer (desk.quarantine.liveOwnerEpoch owner) .planPreparing))
  | .planPreparing epoch =>
      if choice.ok then
        let result := desk.quarantine.issuePlan choice.now owner epoch choice.plan
        some { desk.goto caller (answer result.2 .planIssued) with quarantine := result.1 }
      else some (desk.goto caller .ended)
  | .queued (.takePlan token) =>
      let result := desk.quarantine.takePlan choice.now owner token
      some { desk.goto caller (answer result.2 fun _ => .planTaken) with quarantine := result.1 }
  | .queued .prepareRestore =>
      some (desk.goto caller (answer (desk.quarantine.liveOwnerEpoch owner) .restorePreparing))
  | .restorePreparing epoch =>
      match choice.drawn, choice.selected with
      | token :: _, some root =>
          let result := desk.quarantine.issueRestoreRoot choice.now owner epoch token root
          some { desk.goto caller (answer result.2 .restoreIssued) with quarantine := result.1 }
      | _, _ => some (desk.goto caller .ended)
  | .queued (.takeRestoreRoot token) =>
      let result := desk.quarantine.restoreRoot choice.now owner token
      some { desk.goto caller (answer result.2 fun _ => .restoreTaken) with
        quarantine := result.1 }
  | _ => none

/-! ## The end of a window -/

def advanceClose (desk : Desk) (caller : Caller) (owner : Window) (choice : Choice) :
    DeskPoint → Option Desk
  | .queued .close => some (desk.goto caller .closeRoots)
  | .closeRoots =>
      some { desk.goto caller .closeTombstone with roots := desk.roots.clearForOwner owner }
  | .closeTombstone =>
      some { desk.goto caller .closeExports with
        owners := desk.owners.markResultOwnerClosed owner }
  | .closeExports =>
      some { desk.goto caller .closeReads with exports := desk.exports.revokeForOwner owner }
  | .closeReads =>
      if choice.ok then
        some { desk.goto caller .closeScan with
          reads := desk.reads.removeResultReadsForOwner owner }
      else some { desk.goto caller .closeScan with deferredReads := owner :: desk.deferredReads }
  | .closeScan =>
      if choice.ok ∧ desk.holder = none then
        some { desk.goto caller .closeQuarantine with scan := desk.cancelScanOf owner }
      else
        some { desk.goto caller .closeQuarantine with
          deferredScans := owner :: desk.deferredScans }
  | .closeQuarantine =>
      some { desk.goto caller .closed with quarantine := desk.quarantine.revokeForOwner owner }
  | _ => none

/-! ## Steps -/

def advance (desk : Desk) (caller : Caller) (choice : Choice) : Option Desk :=
  let call := desk.callers caller
  (desk.advanceRead caller call.ownerWindowLabel choice call.point).orElse fun _ =>
  (desk.advanceExport caller call.ownerWindowLabel choice call.point).orElse fun _ =>
  (desk.advanceScan caller call.ownerWindowLabel choice call.point).orElse fun _ =>
  (desk.advanceQuarantine caller call.ownerWindowLabel choice call.point).orElse fun _ =>
  desk.advanceClose caller call.ownerWindowLabel choice call.point

/-- Dropping a future drops its permit, its lease and its lock; a handler is not a future. -/
def abandon (desk : Desk) (caller : Caller) : Option Desk :=
  match (desk.callers caller).point with
  | .queued .close => none
  | .queued _ | .selectAdmitted _ _ | .rootSelecting _ | .planPreparing _ | .restorePreparing _ =>
      some (desk.goto caller .ended)
  | .openPermitted permit =>
      some { desk.goto caller .ended with reads := desk.reads.dropPending permit.sequence }
  | .reading lease | .exportStarted lease =>
      some { desk.goto caller .ended with reads := desk.reads.releaseInFlight lease }
  | .choosing permit | .validated permit =>
      some { desk.goto caller .ended with exports := desk.exports.dropPending permit.sequence }
  | .exportFound _ => some (desk.release caller .ended)
  | _ => none

def steerScan (desk : Desk) (change : WorkerControlState → WorkerControlState) : Option Desk :=
  match desk.scan with
  | none => none
  | some active => some { desk with scan := some { active with control := change active.control } }

def step (desk : Desk) : DeskAction → Option Desk
  | .request caller owner request =>
      if (desk.callers caller).point = .unused then
        some { desk with
          callers := Function.update desk.callers caller ⟨owner, .queued request⟩ }
      else none
  | .advance caller choice => desk.advance caller choice
  | .abandon caller => desk.abandon caller
  | .commitExport token => some { desk with exports := desk.exports.commit token }
  | .dropRun token generation =>
      some { desk with exports := desk.exports.dropRun token generation }
  | .cancelExport owner token =>
      some { desk with exports := (desk.exports.cancelExport desk.owners owner token).1 }
  | .revokeExports token =>
      some { desk with exports := desk.exports.revokeForResultToken token }
  | .closeResultRead owner token =>
      some { desk with reads := (desk.reads.closeResultRead owner token).1 }
  | .pauseScan => if desk.holder = none then desk.steerScan fun c => c.requestPause.2 else none
  | .resumeScan => if desk.holder = none then desk.steerScan .requestResume else none
  | .finishEnumeration => desk.steerScan .finishEnumeration
  | .cancelScan => if desk.holder = none then desk.steerScan .cancel else none
  | .finishScan => if desk.holder = none then some { desk with scan := none } else none
  | .runReads owner =>
      if owner ∈ desk.deferredReads then
        some { desk with
          reads := desk.reads.removeResultReadsForOwner owner
          deferredReads := desk.deferredReads.erase owner }
      else none
  | .runScan owner =>
      if owner ∈ desk.deferredScans ∧ desk.holder = none then
        some { desk with
          scan := desk.cancelScanOf owner
          deferredScans := desk.deferredScans.erase owner }
      else none

end Desk

def deskMachine : Machine Desk DeskAction := ⟨.new, Desk.step⟩

end Guiying.Desktop
