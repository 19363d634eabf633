import Guiying.Desktop.ScanJob

/-!
# One worker and the calls that steer it

A call takes the job registry, speaks to the worker through the control, and
lets the registry go; the worker takes the registry for one record at a time and
the control whenever it looks for its directive. Steps of both come in any order.
A pause is reported only at a safe point where it was asked for, a cancellation
is consumed by the core without a report, and progress is dropped while a call
holds the registry.
-/

namespace Guiying.Desktop

open Guiying.Core
open Guiying.Foundation

/-- Where a call stands that holds the job registry. -/
inductive Section where
  | pauseRequesting (jobId : JobId)
  | pauseRequested
  | resumeRequesting
  | resumeRequested
  | cancelRequesting
  | cancelRequested
  deriving DecidableEq, Repr

/-- Where the worker stands: before its attempt is recorded, in an enumeration, before the report
that the name says, or in a stage. In `wait_while_paused` it is `waiting` before it looks at the
directive and `blocked` on the condition variable. -/
inductive WorkerPoint where
  | starting
  | enumerating
  | reportPaused
  | waiting
  | blocked
  | resuming
  | reportResumed
  | enumerated (status : StreamBatchStatus)
  | reportRunning
  | stopped
  | enterStage (stage : ScanWorkerStage)
  | inStage (stage : ScanWorkerStage)
  | finishing (outcome : ScanOutcome)
  deriving DecidableEq

structure Worker where
  jobId : JobId
  point : WorkerPoint

/-- `inside` is the call that holds the registry between two of its steps. -/
structure Jobs where
  registry : ScanJobRegistry
  inside : Option Section
  control : WorkerControlState
  worker : Option Worker
  nextJob : JobId

inductive WorkerStep where
  | go
  | attempt (scanRunId : String) (attemptKind : ScanAttemptKind)
  | enumeration (status : StreamBatchStatus)
  | spurious
  | conclude (result : ScanResultSummary)
  | stageCancelled (result : ScanResultSummary)
  | fail (error : AppError)
  | finish (now : Nat)

/-- The calls, the next step of the one that holds the registry, and the steps of the worker. A
start is `admitted` when the other gates are open and the grant of its root is good. -/
inductive ScanAction where
  | start (owner : Window) (admitted : Bool) (now : Nat)
  | pause (owner : Window) (jobId : JobId)
  | resume (owner : Window) (jobId : JobId)
  | cancel (jobId : JobId)
  | cancelOwner (owner : Window)
  | proceed
  | acknowledge (jobId : JobId)
  | progress (jobId : JobId) (event : ScanProgressEvent)
  | work (step : WorkerStep)

namespace Jobs

def new : Jobs where
  registry := .new
  inside := none
  control := .new
  worker := none
  nextJob := 0

def goto (jobs : Jobs) (worker : Worker) (point : WorkerPoint) : Jobs :=
  { jobs with worker := some { worker with point } }

def notify (jobs : Jobs) : Jobs :=
  { jobs with
    worker := jobs.worker.map fun worker =>
      if worker.point = .blocked then { worker with point := .waiting } else worker }

/-! ## Calls -/

/-- A call that found something to do goes on with the registry held. -/
def enter (jobs : Jobs) (found : Except AppError Bool) (call : Section) : Jobs :=
  match found with
  | .ok true => { jobs with inside := some call }
  | .ok false | .error _ => jobs

def start (jobs : Jobs) (owner : Window) (admitted : Bool) (now : Nat) : Jobs :=
  match jobs.registry.ensureScanStartAvailable with
  | .error _ => jobs
  | .ok () =>
      if admitted then
        { jobs with
          registry := jobs.registry.reserveJob owner jobs.nextJob now
          control := .new
          worker := some ⟨jobs.nextJob, .starting⟩
          nextJob := jobs.nextJob + 1 }
      else jobs

/-- `resume_for_owner` records its phase before it speaks to the worker. -/
def resume (jobs : Jobs) (owner : Window) (jobId : JobId) : Jobs :=
  match jobs.registry.resumeForOwner owner jobId with
  | .ok true =>
      { jobs with
        registry := jobs.registry.setPhase .resuming
        inside := some .resumeRequesting }
  | .ok false | .error _ => jobs

def acknowledge (jobs : Jobs) (jobId : JobId) : Jobs :=
  match jobs.registry.acknowledge jobId with
  | .ok answer => { jobs with registry := answer.2 }
  | .error _ => jobs

def proceed (jobs : Jobs) : Section → Jobs
  | .pauseRequesting _ =>
      { jobs with
        control := jobs.control.requestPause.2
        inside := if jobs.control.requestPause.1 then some .pauseRequested else none }
  | .pauseRequested =>
      { jobs with registry := jobs.registry.setPhase .pausing, inside := none }
  | .resumeRequesting =>
      { jobs with
        control := jobs.control.requestResume
        worker := if jobs.control.directive = .pause then jobs.notify.worker else jobs.worker
        inside := some .resumeRequested }
  | .resumeRequested => { jobs with inside := none }
  | .cancelRequesting =>
      { jobs with
        control := jobs.control.cancel
        worker := jobs.notify.worker
        inside := some .cancelRequested }
  | .cancelRequested =>
      { jobs with registry := jobs.registry.setPhase .cancelling, inside := none }

/-! ## The worker -/

/-- A step of the worker that takes the registry. -/
def record (jobs : Jobs) (worker : Worker) (registry : ScanJobRegistry) (point : WorkerPoint) :
    Option Jobs :=
  if jobs.inside = none then some { jobs.goto worker point with registry := registry } else none

def work (jobs : Jobs) (worker : Worker) (step : WorkerStep) : Option Jobs :=
  match worker.point, step with
  | .starting, .attempt scanRunId attemptKind =>
      match jobs.registry.recordScanAttempt worker.jobId scanRunId attemptKind with
      | .ok registry => jobs.record worker registry .enumerating
      | .error error => jobs.record worker jobs.registry (.finishing (.failed error))
  | .enumerating, .enumeration status =>
      if status = .paused then
        if jobs.control.directive = .pause then some (jobs.goto worker .reportPaused) else none
      else some (jobs.goto worker (.enumerated status))
  | .reportPaused, .go =>
      jobs.record worker (jobs.registry.recordWorkerPhase worker.jobId .paused) .waiting
  | .waiting, .go =>
      if jobs.control.directive = .pause then some (jobs.goto worker .blocked)
      else some (jobs.goto worker .resuming)
  | .blocked, .spurious => some (jobs.goto worker .waiting)
  | .resuming, .go =>
      match jobs.control.directive with
      | .cancel => some (jobs.goto worker .enumerating)
      | .pause => some (jobs.goto worker .reportPaused)
      | .continue => some (jobs.goto worker .reportResumed)
  | .reportResumed, .go =>
      jobs.record worker (jobs.registry.recordWorkerPhase worker.jobId .running) .enumerating
  | .enumerated status, .go =>
      some { jobs.goto worker (match status with
          | .completed | .partialScan => .reportRunning
          | .cancelled => .stopped
          | .interrupted =>
              .finishing (.failed (.scan worker.jobId
                "根目录或卷身份在枚举期间发生变化，扫描证据未封印。"))
          | .inProgress | .paused =>
              .finishing (.failed (.scan worker.jobId
                "目录枚举离开了受支持的暂停状态机。"))) with
        control := jobs.control.finishEnumeration }
  | .stopped, .conclude result => some (jobs.goto worker (.finishing (.cancelled result)))
  | .reportRunning, .go =>
      jobs.record worker (jobs.registry.recordWorkerPhase worker.jobId .running)
        (.enterStage .fingerprinting)
  | .enterStage stage, .go =>
      jobs.record worker (jobs.registry.recordWorkerStage worker.jobId stage) (.inStage stage)
  | .inStage .fingerprinting, .go => some (jobs.goto worker (.enterStage .exactVerification))
  | .inStage .exactVerification, .go => some (jobs.goto worker (.enterStage .captureTime))
  | .inStage .captureTime, .go => some (jobs.goto worker (.enterStage .finished))
  | .inStage .fingerprinting, .stageCancelled result
  | .inStage .exactVerification, .stageCancelled result =>
      some (jobs.goto worker (.finishing (.cancelled result)))
  | .inStage .finished, .conclude result =>
      some (jobs.goto worker (.finishing (.completed result)))
  | .finishing outcome, .finish now =>
      if jobs.inside = none then
        some { jobs with
          registry := jobs.registry.finish worker.jobId outcome now
          worker := none }
      else none
  | .finishing _, .fail _ | .blocked, .fail _ => none
  | _, .fail error => some (jobs.goto worker (.finishing (.failed error)))
  | _, _ => none

def call (jobs : Jobs) (next : Jobs) : Option Jobs :=
  if jobs.inside = none then some next else none

def step (jobs : Jobs) : ScanAction → Option Jobs
  | .start owner admitted now => jobs.call (jobs.start owner admitted now)
  | .pause owner jobId =>
      jobs.call (jobs.enter (jobs.registry.pauseForOwner owner jobId)
        (.pauseRequesting jobId))
  | .resume owner jobId => jobs.call (jobs.resume owner jobId)
  | .cancel jobId => jobs.call (jobs.enter (jobs.registry.cancelJob jobId) .cancelRequesting)
  | .cancelOwner owner =>
      jobs.call (jobs.enter (.ok (jobs.registry.cancelForOwner owner)) .cancelRequesting)
  | .proceed => jobs.inside.map jobs.proceed
  | .acknowledge jobId => jobs.call (jobs.acknowledge jobId)
  | .progress jobId event =>
      if jobs.inside = none then
        some { jobs with registry := jobs.registry.recordProgress jobId event }
      else some jobs
  | .work step => jobs.worker.bind fun worker => jobs.work worker step

/-! ## Answers -/

/-- What a call answers that finds nothing to do, or that is refused. -/
def settled : Except AppError Bool → Option (Except AppError Bool)
  | .ok true => none
  | found => some found

/-- What the call of this step answers, if it answers in this step. -/
def answer (jobs : Jobs) : ScanAction → Option (Except AppError Bool)
  | .start _ admitted _ =>
      match jobs.registry.ensureScanStartAvailable with
      | .error error => some (.error error)
      | .ok () => if admitted then some (.ok true) else none
  | .pause owner jobId => settled (jobs.registry.pauseForOwner owner jobId)
  | .resume owner jobId => settled (jobs.registry.resumeForOwner owner jobId)
  | .cancel jobId => settled (jobs.registry.cancelJob jobId)
  | .cancelOwner owner => settled (.ok (jobs.registry.cancelForOwner owner))
  | .proceed =>
      match jobs.inside with
      | some (.pauseRequesting jobId) =>
          if jobs.control.requestPause.1 then none
          else some (.error (ScanJobRegistry.pauseRefused jobId))
      | some .pauseRequested | some .resumeRequested | some .cancelRequested => some (.ok true)
      | _ => none
  | .acknowledge jobId => some ((jobs.registry.acknowledge jobId).map Prod.fst)
  | .progress _ _ | .work _ => none

end Jobs

def scanMachine : Machine Jobs ScanAction := ⟨.new, Jobs.step⟩

end Guiying.Desktop
