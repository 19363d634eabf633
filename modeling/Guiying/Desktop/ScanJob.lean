import Guiying.Core.StreamEvent
import Guiying.Desktop.Gates

/-!
# The registry of scan jobs and the control of a worker

The registry knows the active job and the last terminal status. The control is
the cell that the active job and its worker share: a directive, and whether a
pause can still be asked for.
-/

namespace Guiying.Desktop

open Guiying.Core

abbrev Window := String

/-! ## The status of a job -/

inductive ScanJobPhase where
  | running
  | pausing
  | paused
  | resuming
  | cancelling
  | completed
  | cancelled
  | failed
  deriving DecidableEq

namespace ScanJobPhase

def terminal : ScanJobPhase → Bool
  | completed | cancelled | failed => true
  | running | pausing | paused | resuming | cancelling => false

end ScanJobPhase

inductive ResultCompleteness where
  | complete
  | incomplete
  | cancelled
  deriving DecidableEq

inductive ScanAttemptKind where
  | initialFull
  | freshFullChild
  deriving DecidableEq

inductive ScanWorkerStage where
  | enumeration
  | fingerprinting
  | exactVerification
  | captureTime
  | finished
  deriving DecidableEq

structure ScanProgressEvent where
  jobId : JobId
  stage : String
  completed : Nat
  total : Option Nat
  deriving DecidableEq

structure ScanResultSummary where
  scanRunId : String
  status : ResultCompleteness
  deriving DecidableEq

structure AppError where
  code : String
  message : String
  jobId : Option JobId
  deriving DecidableEq

namespace AppError

def alreadyRunning (jobId : JobId) : AppError :=
  ⟨"SCAN_ALREADY_RUNNING", "已有一个扫描任务正在运行；请等待其完成或先取消该任务。", some jobId⟩

def resultPending (jobId : JobId) : AppError :=
  ⟨"SCAN_RESULT_PENDING", "上一份扫描结果尚未被界面确认接收；请先恢复并确认该结果。", some jobId⟩

def jobNotFound (jobId : JobId) : AppError :=
  ⟨"SCAN_JOB_NOT_FOUND", "扫描任务不存在，或其状态已被后续任务替换。", some jobId⟩

def jobOwnerMismatch (jobId : JobId) : AppError :=
  ⟨"SCAN_JOB_OWNER_MISMATCH", "该扫描任务不属于当前窗口，已拒绝访问。", some jobId⟩

def pauseUnavailable (jobId : JobId) (message : String) : AppError :=
  ⟨"SCAN_PAUSE_UNAVAILABLE", message, some jobId⟩

def resumeUnavailable (jobId : JobId) (message : String) : AppError :=
  ⟨"SCAN_RESUME_UNAVAILABLE", message, some jobId⟩

def scan (jobId : JobId) (message : String) : AppError :=
  ⟨"READ_ONLY_SCAN_FAILED", message, some jobId⟩

def stillRunning (jobId : JobId) : AppError :=
  ⟨"SCAN_JOB_STILL_RUNNING", "扫描仍在运行，不能确认其终态结果。", some jobId⟩

end AppError

structure ScanJobStatus where
  jobId : JobId
  phase : ScanJobPhase
  attemptKind : Option ScanAttemptKind
  startedAtUnixMs : Nat
  finishedAtUnixMs : Option Nat
  scanRunId : Option String
  historyEntryId : Option String
  progress : Option ScanProgressEvent
  result : Option ScanResultSummary
  error : Option AppError

/-- How a worker ends. -/
inductive ScanOutcome where
  | completed (result : ScanResultSummary)
  | cancelled (result : ScanResultSummary)
  | failed (error : AppError)
  deriving DecidableEq

/-! ## ScanWorkerControl -/

inductive WorkerDirective where
  | continue
  | pause
  | cancel
  deriving DecidableEq

structure WorkerControlState where
  directive : WorkerDirective
  enumerationActive : Bool
  deriving DecidableEq

namespace WorkerControlState

def new : WorkerControlState := ⟨.continue, true⟩

/-- Whether the pause is accepted, and what it leaves. -/
def requestPause (state : WorkerControlState) : Bool × WorkerControlState :=
  if state.enumerationActive ∧ state.directive ≠ .cancel then
    (true, { state with directive := .pause })
  else (false, state)

def finishEnumeration (state : WorkerControlState) : WorkerControlState :=
  { directive := if state.directive = .pause then .continue else state.directive
    enumerationActive := false }

/-- A pause is lifted and its waiter woken; nothing else changes. -/
def requestResume (state : WorkerControlState) : WorkerControlState :=
  if state.directive = .pause then { state with directive := .continue } else state

def cancel (state : WorkerControlState) : WorkerControlState :=
  { state with directive := .cancel }

end WorkerControlState

/-! ## The registry -/

structure ActiveScanJob where
  status : ScanJobStatus
  ownerWindowLabel : Window
  stage : ScanWorkerStage

structure ScanJobRegistry where
  active : Option ActiveScanJob
  lastTerminal : Option ScanJobStatus
  lastTerminalOwnerWindowLabel : Option Window
  terminalAcknowledged : Bool

namespace ScanJobRegistry

def new : ScanJobRegistry := ⟨none, none, none, false⟩

def ensureScanStartAvailable (registry : ScanJobRegistry) : Except AppError Unit :=
  match registry.active with
  | some active => .error (.alreadyRunning active.status.jobId)
  | none =>
      match registry.lastTerminal with
      | some terminal =>
          if registry.terminalAcknowledged then .ok () else .error (.resultPending terminal.jobId)
      | none => .ok ()

def reserveJob (registry : ScanJobRegistry) (ownerWindowLabel : Window) (jobId : JobId)
    (now : Nat) : ScanJobRegistry :=
  { registry with
    active := some
      { status :=
          { jobId, phase := .running, attemptKind := none, startedAtUnixMs := now
            finishedAtUnixMs := none, scanRunId := none, historyEntryId := none
            progress := none, result := none, error := none }
        ownerWindowLabel, stage := .enumeration } }

def setPhase (registry : ScanJobRegistry) (phase : ScanJobPhase) : ScanJobRegistry :=
  { registry with
    active := registry.active.map fun active =>
      { active with status := { active.status with phase } } }

/-- The active job, when it is the one asked for and belongs to the window. -/
def ownedJob (registry : ScanJobRegistry) (ownerWindowLabel : Window) (jobId : JobId) :
    Except AppError ActiveScanJob :=
  match registry.active with
  | none => .error (.jobNotFound jobId)
  | some active =>
      if active.status.jobId ≠ jobId then .error (.jobNotFound jobId)
      else if active.ownerWindowLabel ≠ ownerWindowLabel then .error (.jobOwnerMismatch jobId)
      else .ok active

/-- `pause_for_owner` up to its request to the worker: whether there is one to make. -/
def pauseForOwner (registry : ScanJobRegistry) (ownerWindowLabel : Window) (jobId : JobId) :
    Except AppError Bool := do
  let active ← registry.ownedJob ownerWindowLabel jobId
  if active.stage ≠ .enumeration then
    .error (.pauseUnavailable jobId "只有目录枚举阶段可以暂停；内容读取阶段请使用停止扫描。")
  else
    match active.status.phase with
    | .running => .ok true
    | .pausing | .paused => .ok false
    | .resuming =>
        .error (.pauseUnavailable jobId "扫描正在恢复枚举；请等待恢复完成后再请求暂停。")
    | .cancelling | .completed | .cancelled | .failed =>
        .error (.pauseUnavailable jobId "扫描已在停止或终态，不能再暂停。")

/-- The error of a pause that the worker refuses. -/
def pauseRefused (jobId : JobId) : AppError :=
  .pauseUnavailable jobId "目录枚举已经结束；内容读取阶段不能暂停。"

/-- `resume_for_owner`: whether it resumes. -/
def resumeForOwner (registry : ScanJobRegistry) (ownerWindowLabel : Window) (jobId : JobId) :
    Except AppError Bool := do
  let active ← registry.ownedJob ownerWindowLabel jobId
  if active.stage ≠ .enumeration then
    .error (.resumeUnavailable jobId "目录枚举已经结束，没有可继续的同进程暂停点。")
  else
    match active.status.phase with
    | .paused => .ok true
    | .resuming | .running => .ok false
    | .pausing =>
        .error (.resumeUnavailable jobId "暂停尚未到达安全点；请等待状态变为已暂停。")
    | .cancelling | .completed | .cancelled | .failed =>
        .error (.resumeUnavailable jobId "扫描已在停止或终态，不能继续。")

/-- `cancel`: whether it reaches the active job; a terminal status is answered as it is. -/
def cancelJob (registry : ScanJobRegistry) (jobId : JobId) : Except AppError Bool :=
  if registry.active.any fun active => active.status.jobId = jobId then .ok true
  else if registry.lastTerminal.any fun status => status.jobId = jobId then .ok false
  else .error (.jobNotFound jobId)

/-- `cancel_active_for_owner`: whether the window has a job to cancel. -/
def cancelForOwner (registry : ScanJobRegistry) (ownerWindowLabel : Window) : Bool :=
  registry.active.any fun active =>
    active.ownerWindowLabel = ownerWindowLabel ∧ active.status.phase.terminal = false

/-- The answer says whether the terminal status is released by this call. -/
def acknowledge (registry : ScanJobRegistry) (jobId : JobId) :
    Except AppError (Bool × ScanJobRegistry) :=
  if registry.active.any fun active => active.status.jobId = jobId then
    .error (.stillRunning jobId)
  else
    match registry.lastTerminal with
    | none => .ok (false, registry)
    | some status =>
        if status.jobId = jobId then
          .ok (!registry.terminalAcknowledged, { registry with terminalAcknowledged := true })
        else .error (.jobNotFound jobId)

/-- A change of the active job, if it is the job of the caller. -/
def onJob (registry : ScanJobRegistry) (jobId : JobId)
    (change : ActiveScanJob → ActiveScanJob) : ScanJobRegistry :=
  { registry with
    active := registry.active.map fun active =>
      if active.status.jobId = jobId then change active else active }

def recordProgress (registry : ScanJobRegistry) (jobId : JobId) (progress : ScanProgressEvent) :
    ScanJobRegistry :=
  registry.onJob jobId fun active =>
    { active with status := { active.status with progress := some progress } }

def recordScanAttempt (registry : ScanJobRegistry) (jobId : JobId) (scanRunId : String)
    (attemptKind : ScanAttemptKind) : Except AppError ScanJobRegistry :=
  match registry.active with
  | none => .error (.jobNotFound jobId)
  | some active =>
      if active.status.jobId ≠ jobId then .error (.jobNotFound jobId)
      else
        match active.status.scanRunId, active.status.attemptKind with
        | none, none =>
            .ok (registry.onJob jobId fun active =>
              { active with
                status :=
                  { active.status with
                    scanRunId := some scanRunId, attemptKind := some attemptKind } })
        | some recordedRunId, some recordedKind =>
            if recordedRunId = scanRunId ∧ recordedKind = attemptKind then .ok registry
            else
              .error (.scan jobId "扫描运行与尝试类型已经记录为另一组值；已拒绝覆盖界面状态。")
        | _, _ =>
            .error (.scan jobId "扫描运行与尝试类型已经记录为另一组值；已拒绝覆盖界面状态。")

/-- A worker cannot take back that its job is being cancelled. -/
def recordWorkerPhase (registry : ScanJobRegistry) (jobId : JobId) (phase : ScanJobPhase) :
    ScanJobRegistry :=
  registry.onJob jobId fun active =>
    if active.status.phase = .cancelling ∧ phase ≠ .cancelling then active
    else { active with status := { active.status with phase } }

def recordWorkerStage (registry : ScanJobRegistry) (jobId : JobId) (stage : ScanWorkerStage) :
    ScanJobRegistry :=
  registry.onJob jobId fun active => { active with stage }

def finishStatus (status : ScanJobStatus) (outcome : ScanOutcome) (now : Nat) : ScanJobStatus :=
  match outcome with
  | .completed result =>
      { status with
        phase := .completed, finishedAtUnixMs := some now, scanRunId := some result.scanRunId
        historyEntryId := some result.scanRunId, result := none, error := none }
  | .cancelled result =>
      { status with
        phase := .cancelled, finishedAtUnixMs := some now, scanRunId := some result.scanRunId
        historyEntryId := none, result := some result, error := none }
  | .failed error =>
      { status with
        phase := .failed, finishedAtUnixMs := some now, historyEntryId := none, result := none
        error := some error }

/-- Only the job that is still active gets a terminal status. -/
def finish (registry : ScanJobRegistry) (jobId : JobId) (outcome : ScanOutcome) (now : Nat) :
    ScanJobRegistry :=
  match registry.active with
  | none => registry
  | some active =>
      if active.status.jobId ≠ jobId then registry
      else
        { active := none
          lastTerminal := some (finishStatus active.status outcome now)
          lastTerminalOwnerWindowLabel := some active.ownerWindowLabel
          terminalAcknowledged := false }

end ScanJobRegistry

end Guiying.Desktop
