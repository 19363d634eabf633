import Guiying.Desktop.ScanControl
import Guiying.Desktop.ScanLife

/-!
# What a step can do to the jobs

A job is active exactly while its worker is at work. Every step of a call or of
the worker starts a job, moves its phase along, ends it, or acknowledges it.
-/

namespace Guiying.Desktop

open Guiying.Core
open Guiying.Foundation

namespace Jobs

/-- A job is active and its worker is at work. -/
structure Busy (jobs : Jobs) (active : ActiveScanJob) (worker : Worker) : Prop where
  isActive : jobs.registry.active = some active
  works : jobs.worker = some worker
  same : worker.jobId = active.status.jobId
  next : jobs.nextJob = active.status.jobId + 1
  directed : Directed active.status.phase jobs.control jobs.inside
  placed : Placed active.status.phase active.stage jobs.control worker.point
  unstaged : jobs.inside = some .pauseRequested → worker.point.staged = false

structure Free (jobs : Jobs) : Prop where
  idle : jobs.registry.active = none
  nobody : jobs.worker = none
  outside : jobs.inside = none
  last : ∀ status, jobs.registry.lastTerminal = some status → jobs.nextJob = status.jobId + 1

inductive Inv (jobs : Jobs) : Prop
  | free (free : jobs.Free)
  | busy (active : ActiveScanJob) (worker : Worker) (busy : jobs.Busy active worker)

/-! ## What a run shows of the jobs -/

/-- The life of the jobs as the registry has it. -/
def life (jobs : Jobs) : JobLife :=
  match jobs.registry.active with
  | some active => .active active.status.jobId active.status.phase
  | none =>
      match jobs.registry.lastTerminal with
      | none => .idle jobs.nextJob
      | some status =>
          if jobs.registry.terminalAcknowledged then .idle jobs.nextJob else .pending status.jobId

/-- What one step changes in the life of the jobs. -/
def events (before after : Jobs) : List JobEvent :=
  match before.registry.active, after.registry.active with
  | none, some active => [.started active.status.jobId]
  | some active, some later =>
      if active.status.phase = later.status.phase then []
      else [.moved active.status.jobId active.status.phase later.status.phase]
  | some _, none =>
      match after.registry.lastTerminal with
      | none => []
      | some status => [.ended status.jobId status.phase]
  | none, none =>
      match after.registry.lastTerminal with
      | none => []
      | some status =>
          if !before.registry.terminalAcknowledged && after.registry.terminalAcknowledged then
            [.acknowledged status.jobId]
          else []

/-- All that a step can do. -/
inductive Stepped (jobs next : Jobs) : Prop
  | idle (free : jobs.Free) (same : next = jobs)
  | acknowledged (free : jobs.Free) (status : ScanJobStatus)
      (last : jobs.registry.lastTerminal = some status)
      (pending : jobs.registry.terminalAcknowledged = false)
      (same : next =
        { jobs with registry := { jobs.registry with terminalAcknowledged := true } })
  | started (free : jobs.Free) (active : ActiveScanJob) (worker : Worker)
      (released : ∀ status, jobs.registry.lastTerminal = some status →
        jobs.registry.terminalAcknowledged = true)
      (fresh : active.status.jobId = jobs.nextJob) (runs : active.status.phase = .running)
      (busy : next.Busy active worker)
  | goesOn (active : ActiveScanJob) (worker : Worker) (busy : jobs.Busy active worker)
      (later : ActiveScanJob) (laterWorker : Worker) (laterBusy : next.Busy later laterWorker)
      (same : later.status.jobId = active.status.jobId)
      (moves : later.status.phase = active.status.phase ∨
        active.status.phase.mayMove later.status.phase = true)
  | ended (active : ActiveScanJob) (worker : Worker) (busy : jobs.Busy active worker)
      (free : next.Free) (status : ScanJobStatus)
      (last : next.registry.lastTerminal = some status)
      (same : status.jobId = active.status.jobId) (isTerminal : status.phase.terminal = true)
      (pending : next.registry.terminalAcknowledged = false)

theorem Stepped.inv {jobs next : Jobs} (stepped : jobs.Stepped next) : next.Inv := by
  cases stepped with
  | idle free same =>
      rw [same]
      exact .free free
  | acknowledged free status last pending same =>
      rw [same]
      exact .free ⟨free.idle, free.nobody, free.outside, free.last⟩
  | started free active worker released fresh runs busy => exact .busy active worker busy
  | goesOn active worker busy later laterWorker laterBusy same moves =>
      exact .busy later laterWorker laterBusy
  | ended active worker busy free status last same isTerminal pending => exact .free free

theorem Free.life_of_released {jobs : Jobs} (free : jobs.Free)
    (released : ∀ status, jobs.registry.lastTerminal = some status →
      jobs.registry.terminalAcknowledged = true) : jobs.life = .idle jobs.nextJob := by
  unfold life
  rw [free.idle]
  cases last : jobs.registry.lastTerminal with
  | none => rfl
  | some status => simp [released status last]

theorem Busy.life {jobs : Jobs} {active : ActiveScanJob} {worker : Worker}
    (busy : jobs.Busy active worker) :
    jobs.life = .active active.status.jobId active.status.phase := by
  unfold Jobs.life
  rw [busy.isActive]

/-- A step shows exactly what takes the life of the jobs before it to the one after it. -/
theorem Stepped.life {jobs next : Jobs} (stepped : jobs.Stepped next) :
    lifeMachine.after jobs.life (events jobs next) = some next.life := by
  cases stepped with
  | idle free same =>
      rw [same]
      have quiet : events jobs jobs = [] := by
        unfold events
        rw [free.idle]
        cases jobs.registry.lastTerminal <;> simp
      rw [quiet]
      rfl
  | acknowledged free status last pending same =>
      subst same
      have seen : events jobs { jobs with
          registry := { jobs.registry with terminalAcknowledged := true } } =
          [.acknowledged status.jobId] := by simp [events, free.idle, last, pending]
      rw [seen]
      simp [Jobs.life, free.idle, last, pending, Machine.after, lifeMachine, JobLife.step,
        free.last status last]
  | started free active worker released fresh runs busy =>
      have seen : events jobs next = [.started active.status.jobId] := by
        simp [events, free.idle, busy.isActive]
      rw [seen, free.life_of_released released, busy.life]
      simp [Machine.after, lifeMachine, JobLife.step, fresh, runs]
  | goesOn active worker busy later laterWorker laterBusy same moves =>
      rw [busy.life, laterBusy.life]
      by_cases still : active.status.phase = later.status.phase
      · have seen : events jobs next = [] := by
          simp [events, busy.isActive, laterBusy.isActive, still]
        rw [seen, same, still]
        rfl
      · have moves := moves.resolve_left (Ne.symm still)
        have seen : events jobs next =
            [.moved active.status.jobId active.status.phase later.status.phase] := by
          simp [events, busy.isActive, laterBusy.isActive, still]
        rw [seen]
        simp [Machine.after, lifeMachine, JobLife.step, moves, same]
  | ended active worker busy free status last same isTerminal pending =>
      have seen : events jobs next = [.ended status.jobId status.phase] := by
        simp [events, busy.isActive, free.idle, last]
      rw [seen, busy.life]
      simp [Machine.after, lifeMachine, JobLife.step, Jobs.life, same, isTerminal, free.idle, last,
        pending]

end Jobs

/-! ## What the calls find in the registry -/

namespace ScanJobRegistry

theorem onJob_idle {registry : ScanJobRegistry} (idle : registry.active = none) (jobId : JobId)
    (change : ActiveScanJob → ActiveScanJob) : registry.onJob jobId change = registry := by
  unfold onJob
  rw [idle, Option.map_none, ← idle]

theorem onJob_active {registry : ScanJobRegistry} {active : ActiveScanJob}
    (isActive : registry.active = some active) {jobId : JobId} (same : jobId = active.status.jobId)
    (change : ActiveScanJob → ActiveScanJob) :
    registry.onJob jobId change = { registry with active := some (change active) } := by
  unfold onJob
  rw [isActive, Option.map_some, if_pos same.symm]

theorem pauseForOwner_idle {registry : ScanJobRegistry} (idle : registry.active = none)
    (owner : Window) (jobId : JobId) :
    registry.pauseForOwner owner jobId = .error (.jobNotFound jobId) := by
  simp only [pauseForOwner, ownedJob, idle]
  rfl

theorem resumeForOwner_idle {registry : ScanJobRegistry} (idle : registry.active = none)
    (owner : Window) (jobId : JobId) :
    registry.resumeForOwner owner jobId = .error (.jobNotFound jobId) := by
  simp only [resumeForOwner, ownedJob, idle]
  rfl

/-- Only a job that runs is asked to pause. -/
theorem pauseForOwner_running {registry : ScanJobRegistry} {active : ActiveScanJob}
    (isActive : registry.active = some active) {owner : Window} {jobId : JobId}
    (asks : registry.pauseForOwner owner jobId = .ok true) : active.status.phase = .running := by
  simp only [pauseForOwner, ownedJob, isActive] at asks
  split at asks
  · cases asks
  · split at asks
    · cases asks
    · simp only [bind, Except.bind] at asks
      split at asks
      · cases asks
      · split at asks
        · assumption
        all_goals cases asks

/-- Only a job that is paused is resumed. -/
theorem resumeForOwner_paused {registry : ScanJobRegistry} {active : ActiveScanJob}
    (isActive : registry.active = some active) {owner : Window} {jobId : JobId}
    (asks : registry.resumeForOwner owner jobId = .ok true) : active.status.phase = .paused := by
  simp only [resumeForOwner, ownedJob, isActive] at asks
  split at asks
  · cases asks
  · split at asks
    · cases asks
    · simp only [bind, Except.bind] at asks
      split at asks
      · cases asks
      · split at asks
        · assumption
        all_goals cases asks

/-- The owner of a job that is paused resumes it. -/
theorem resumeForOwner_of_paused {registry : ScanJobRegistry} {active : ActiveScanJob}
    (isActive : registry.active = some active) (isPaused : active.status.phase = .paused)
    (enumerates : active.stage = .enumeration) :
    registry.resumeForOwner active.ownerWindowLabel active.status.jobId = .ok true := by
  simp [resumeForOwner, ownedJob, isActive, isPaused, enumerates, bind, Except.bind]

theorem cancelJob_active {registry : ScanJobRegistry} {active : ActiveScanJob}
    (isActive : registry.active = some active) :
    registry.cancelJob active.status.jobId = .ok true := by
  simp [cancelJob, isActive]

theorem cancelJob_idle {registry : ScanJobRegistry} (idle : registry.active = none)
    (jobId : JobId) : registry.cancelJob jobId ≠ .ok true := by
  simp only [cancelJob, idle, Option.any_none, Bool.false_eq_true, if_false]
  split <;> nofun

/-- An acknowledgement only ever sets the flag. -/
theorem acknowledge_cases (registry : ScanJobRegistry) (jobId : JobId) :
    (∃ error, registry.acknowledge jobId = .error error) ∨
      (∃ released, registry.acknowledge jobId = .ok (released, registry)) ∨
      ∃ status released, registry.lastTerminal = some status ∧
        registry.acknowledge jobId =
          .ok (released, { registry with terminalAcknowledged := true }) := by
  unfold acknowledge
  split
  · exact Or.inl ⟨_, rfl⟩
  · split
    · exact Or.inr (Or.inl ⟨_, rfl⟩)
    · rename_i status last
      split
      · exact Or.inr (Or.inr ⟨status, _, last, rfl⟩)
      · exact Or.inl ⟨_, rfl⟩

theorem ensureScanStartAvailable_free {registry : ScanJobRegistry}
    (free : registry.ensureScanStartAvailable = .ok ()) :
    registry.active = none ∧ ∀ status, registry.lastTerminal = some status →
      registry.terminalAcknowledged = true := by
  unfold ensureScanStartAvailable at free
  cases isActive : registry.active with
  | some active =>
      rw [isActive] at free
      cases free
  | none =>
      refine ⟨rfl, ?_⟩
      intro status last
      rw [isActive, last] at free
      simp only at free
      split at free
      · assumption
      · cases free

theorem finishStatus_jobId (status : ScanJobStatus) (outcome : ScanOutcome) (now : Nat) :
    (finishStatus status outcome now).jobId = status.jobId := by cases outcome <;> rfl

theorem finishStatus_terminal (status : ScanJobStatus) (outcome : ScanOutcome) (now : Nat) :
    (finishStatus status outcome now).phase.terminal = true := by cases outcome <;> rfl

theorem recordScanAttempt_phase {registry recorded : ScanJobRegistry} {active : ActiveScanJob}
    (isActive : registry.active = some active) {scanRunId : String} {kind : ScanAttemptKind}
    (recording : registry.recordScanAttempt active.status.jobId scanRunId kind = .ok recorded) :
    ∃ later, recorded.active = some later ∧ later.status.jobId = active.status.jobId ∧
      later.status.phase = active.status.phase ∧ later.stage = active.stage := by
  simp only [recordScanAttempt, isActive] at recording
  split at recording
  · cases recording
  · split at recording
    · cases recording
      rw [onJob_active isActive rfl]
      exact ⟨_, rfl, rfl, rfl, rfl⟩
    · split at recording
      · cases recording
        exact ⟨active, isActive, rfl, rfl, rfl⟩
      · cases recording
    · cases recording

end ScanJobRegistry

namespace Jobs

/-! ## A step of a call -/

theorem enter_cases (jobs : Jobs) (found : Except AppError Bool) (call : Section) :
    jobs.enter found call = jobs ∨
      found = .ok true ∧ jobs.enter found call = { jobs with inside := some call } := by
  cases found with
  | error error => exact Or.inl rfl
  | ok changes =>
      cases changes with
      | false => exact Or.inl rfl
      | true => exact Or.inr ⟨rfl, rfl⟩

/-- The job stays as it is. -/
theorem Busy.stay {jobs next : Jobs} {active : ActiveScanJob} {worker laterWorker : Worker}
    (busy : jobs.Busy active worker) (laterBusy : next.Busy active laterWorker) :
    jobs.Stepped next :=
  .goesOn active worker busy active laterWorker laterBusy rfl (Or.inl rfl)

theorem call_cases {jobs next after : Jobs} (called : jobs.call next = some after) :
    jobs.inside = none ∧ after = next := by
  unfold call at called
  split at called
  · rename_i outside
    cases called
    exact ⟨outside, rfl⟩
  · cases called

theorem eq_of_settled {found : Except AppError Bool} {error : AppError}
    (refused : settled found = some (.error error)) : found = .error error := by
  cases found with
  | error other => exact Option.some.inj refused
  | ok changes => cases changes <;> cases refused

/-- A call that is refused changes nothing. -/
theorem refused_unchanged {jobs next : Jobs} {action : ScanAction} {error : AppError}
    (refused : jobs.answer action = some (.error error)) (stepped : jobs.step action = some next) :
    next = { jobs with inside := none } := by
  have still (outside : jobs.inside = none) : jobs = { jobs with inside := none } := by
    rw [← outside]
  cases action with
  | start owner admitted now =>
      obtain ⟨outside, rfl⟩ := call_cases stepped
      unfold answer at refused
      unfold Jobs.start
      cases found : jobs.registry.ensureScanStartAvailable with
      | error other => exact still outside
      | ok free =>
          rw [found] at refused
          cases admitted <;> cases refused
  | pause owner jobId =>
      obtain ⟨outside, rfl⟩ := call_cases stepped
      rw [eq_of_settled refused]
      exact still outside
  | resume owner jobId =>
      obtain ⟨outside, rfl⟩ := call_cases stepped
      unfold Jobs.resume
      rw [eq_of_settled refused]
      exact still outside
  | cancel jobId =>
      obtain ⟨outside, rfl⟩ := call_cases stepped
      rw [eq_of_settled refused]
      exact still outside
  | cancelOwner owner => cases eq_of_settled refused
  | proceed =>
      obtain ⟨call, holds, rfl⟩ := Option.map_eq_some_iff.mp stepped
      unfold answer at refused
      rw [holds] at refused
      dsimp only at refused
      cases call with
      | pauseRequesting jobId =>
          dsimp only at refused
          simp only [Jobs.proceed]
          by_cases accepted : jobs.control.requestPause.1 = true
          · rw [if_pos accepted] at refused
            cases refused
          · rw [if_neg accepted]
            have kept : jobs.control.requestPause.2 = jobs.control := by
              unfold WorkerControlState.requestPause at accepted ⊢
              split at accepted
              · exact absurd rfl accepted
              · rename_i refuses
                rw [if_neg refuses]
            rw [kept]
      | _ => cases refused
  | acknowledge jobId =>
      obtain ⟨outside, rfl⟩ := call_cases stepped
      unfold answer at refused
      dsimp only at refused
      unfold Jobs.acknowledge
      cases found : jobs.registry.acknowledge jobId with
      | error other => exact still outside
      | ok answered =>
          rw [found] at refused
          cases refused
  | progress jobId event => cases refused
  | work step => cases refused

theorem acknowledge_steps (jobs : Jobs) (jobId : JobId) :
    jobs.acknowledge jobId = jobs ∨
      ∃ status, jobs.registry.lastTerminal = some status ∧
        jobs.acknowledge jobId =
          { jobs with registry := { jobs.registry with terminalAcknowledged := true } } := by
  unfold acknowledge
  rcases jobs.registry.acknowledge_cases jobId with
    ⟨error, refused⟩ | ⟨released, kept⟩ | ⟨status, released, last, sets⟩
  · rw [refused]
    exact Or.inl rfl
  · rw [kept]
    exact Or.inl rfl
  · rw [sets]
    exact Or.inr ⟨status, last, rfl⟩

theorem Free.stepped {jobs next : Jobs} (free : jobs.Free) {action : ScanAction}
    (stepped : jobs.step action = some next) : jobs.Stepped next := by
  cases action with
  | proceed =>
      simp only [step, free.outside] at stepped
      cases stepped
  | work work =>
      simp only [step, free.nobody] at stepped
      cases stepped
  | progress jobId event =>
      rw [step, if_pos free.outside, ScanJobRegistry.recordProgress,
        ScanJobRegistry.onJob_idle free.idle] at stepped
      cases stepped
      exact .idle free rfl
  | start owner admitted now =>
      obtain ⟨_, rfl⟩ := call_cases stepped
      unfold start
      cases available : jobs.registry.ensureScanStartAvailable with
      | error error => exact .idle free rfl
      | ok _ =>
          cases admitted with
          | false => exact .idle free rfl
          | true =>
              have released := (ScanJobRegistry.ensureScanStartAvailable_free available).2
              refine .started free _ ⟨jobs.nextJob, .starting⟩ released ?_ ?_
                ⟨rfl, rfl, rfl, rfl, ?_, Placed.start, ?_⟩
              · rfl
              · rfl
              · simp only [if_true, free.outside]
                exact Directed.start
              · simp [free.outside]
  | pause owner jobId =>
      obtain ⟨_, rfl⟩ := call_cases stepped
      rw [ScanJobRegistry.pauseForOwner_idle free.idle]
      exact .idle free rfl
  | resume owner jobId =>
      obtain ⟨_, rfl⟩ := call_cases stepped
      unfold resume
      rw [ScanJobRegistry.resumeForOwner_idle free.idle]
      exact .idle free rfl
  | cancel jobId =>
      obtain ⟨_, rfl⟩ := call_cases stepped
      cases enter_cases jobs (jobs.registry.cancelJob jobId) .cancelRequesting with
      | inl same => exact .idle free same
      | inr found => exact absurd found.1 (ScanJobRegistry.cancelJob_idle free.idle jobId)
  | cancelOwner owner =>
      obtain ⟨_, rfl⟩ := call_cases stepped
      simp only [ScanJobRegistry.cancelForOwner, free.idle]
      exact .idle free rfl
  | acknowledge jobId =>
      obtain ⟨_, rfl⟩ := call_cases stepped
      cases jobs.acknowledge_steps jobId with
      | inl same => exact .idle free same
      | inr sets =>
          obtain ⟨status, last, same⟩ := sets
          cases pending : jobs.registry.terminalAcknowledged with
          | false => exact .acknowledged free status last pending same
          | true =>
              refine .idle free ?_
              rw [same, ← pending]

/-- A call or the worker changes the control, the mutex or where the worker stands. -/
theorem Busy.change {jobs : Jobs} {active : ActiveScanJob} {worker : Worker}
    (busy : jobs.Busy active worker) {control : WorkerControlState} {inside : Option Section}
    {point : WorkerPoint} (directed : Directed active.status.phase control inside)
    (placed : Placed active.status.phase active.stage control point)
    (unstaged : inside = some .pauseRequested → point.staged = false) :
    Busy { jobs with control, inside, worker := some { worker with point } } active
      { worker with point } :=
  ⟨busy.isActive, rfl, busy.same, busy.next, directed, placed, unstaged⟩

/-- The phase of the active job changes as well. -/
theorem Busy.setPhase {jobs : Jobs} {active : ActiveScanJob} {worker : Worker}
    (busy : jobs.Busy active worker) {phase : ScanJobPhase} {inside : Option Section}
    (directed : Directed phase jobs.control inside)
    (placed : Placed phase active.stage jobs.control worker.point)
    (unstaged : inside = some .pauseRequested → worker.point.staged = false) :
    Busy { jobs with registry := jobs.registry.setPhase phase, inside }
      { active with status := { active.status with phase } } worker where
  isActive := by simp [ScanJobRegistry.setPhase, busy.isActive]
  works := busy.works
  same := busy.same
  next := busy.next
  directed := directed
  placed := placed
  unstaged := unstaged

theorem Busy.notify {jobs : Jobs} {active : ActiveScanJob} {worker : Worker}
    (busy : jobs.Busy active worker) :
    jobs.notify.worker = some { worker with point := worker.point.woken } := by
  simp only [Jobs.notify, busy.works, Option.map_some, WorkerPoint.woken]
  split <;> rfl

theorem Busy.proceed {jobs : Jobs} {active : ActiveScanJob} {worker : Worker}
    (busy : jobs.Busy active worker) {call : Section} (holds : jobs.inside = some call) :
    jobs.Stepped (jobs.proceed call) := by
  have directed := busy.directed
  rw [holds] at directed
  have here : jobs.worker = some { worker with point := worker.point } := busy.works
  cases call with
  | pauseRequesting jobId =>
      have running := directed.pauseRequesting jobId rfl
      by_cases accepted : jobs.control.enumerationActive ∧ jobs.control.directive ≠ .cancel
      · have asked : jobs.control.requestPause =
            (true, { jobs.control with directive := .pause }) := if_pos accepted
        have unstaged : worker.point.staged = false := by
          have past := busy.placed.pastEnumeration
          rw [accepted.1] at past
          cases point : worker.point with
          | enterStage stage => exact absurd (past (by rw [point]; rfl)) (by simp)
          | inStage stage => exact absurd (past (by rw [point]; rfl)) (by simp)
          | _ => rfl
        have placed := busy.placed
        rw [running] at placed
        have later := busy.change directed.pauseAccept
          (running ▸ placed.pauseAccept accepted.1 accepted.2) fun _ => unstaged
        simp only [Jobs.proceed, asked, if_true]
        rw [here]
        exact busy.stay later
      · have refused : jobs.control.requestPause = (false, jobs.control) := if_neg accepted
        have later := busy.change directed.pauseRefuse busy.placed nofun
        simp only [Jobs.proceed, refused]
        rw [here]
        exact busy.stay later
  | pauseRequested =>
      have running := directed.pauseRequested rfl
      have placed := busy.placed
      rw [running] at placed
      have later := busy.setPhase directed.pause (placed.pause (busy.unstaged holds)) nofun
      refine .goesOn active worker busy _ worker later rfl (Or.inr ?_)
      rw [running]
      rfl
  | resumeRequesting =>
      have resuming := directed.resumeRequesting rfl
      by_cases asked : jobs.control.directive = .pause
      · have placed := busy.placed
        rw [resuming] at placed
        have lifted : jobs.control.requestResume = { jobs.control with directive := .continue } :=
          if_pos asked
        have woken := placed.resume asked
        rw [← resuming, ← lifted] at woken
        have later := busy.change directed.resume woken nofun
        simp only [Jobs.proceed]
        rw [if_pos asked, busy.notify]
        exact busy.stay later
      · have kept : jobs.control.requestResume = jobs.control := if_neg asked
        have later := busy.change directed.resume (by rw [kept]; exact busy.placed) nofun
        simp only [Jobs.proceed]
        rw [if_neg asked, here]
        exact busy.stay later
  | resumeRequested =>
      have later := busy.change directed.resumeDone busy.placed nofun
      simp only [Jobs.proceed]
      rw [here]
      exact busy.stay later
  | cancelRequesting =>
      have later := busy.change directed.cancel busy.placed.cancel nofun
      simp only [Jobs.proceed]
      rw [busy.notify]
      exact busy.stay later
  | cancelRequested =>
      have isCancelled := directed.cancelRequested rfl
      have later := busy.setPhase directed.cancelDone (busy.placed.cancelDone isCancelled) nofun
      refine .goesOn active worker busy _ worker later rfl ?_
      by_cases already : active.status.phase = .cancelling
      · exact Or.inl already.symm
      · exact Or.inr (ScanJobPhase.mayMove_cancelling directed.active already)

/-- A call that finds something to do holds the registry. -/
theorem Busy.enter {jobs : Jobs} {active : ActiveScanJob} {worker : Worker}
    (busy : jobs.Busy active worker) (found : Except AppError Bool) (call : Section)
    (directed : found = .ok true → Directed active.status.phase jobs.control (some call))
    (notPause : call ≠ .pauseRequested) : jobs.Stepped (jobs.enter found call) := by
  cases enter_cases jobs found call with
  | inl same =>
      rw [same]
      exact busy.stay busy
  | inr enters =>
      rw [enters.2]
      have later := busy.change (directed enters.1) busy.placed fun isPause =>
        absurd (Option.some.inj isPause) notPause
      have here : jobs.worker = some { worker with point := worker.point } := busy.works
      rw [here]
      exact busy.stay later

theorem Busy.acknowledge {jobs : Jobs} {active : ActiveScanJob} {worker : Worker}
    (busy : jobs.Busy active worker) (jobId : JobId) : jobs.Stepped (jobs.acknowledge jobId) := by
  cases jobs.acknowledge_steps jobId with
  | inl same =>
      rw [same]
      exact busy.stay busy
  | inr sets =>
      obtain ⟨status, _, same⟩ := sets
      rw [same]
      exact busy.stay ⟨busy.isActive, busy.works, busy.same, busy.next, busy.directed, busy.placed,
        busy.unstaged⟩

theorem Busy.progress {jobs : Jobs} {active : ActiveScanJob} {worker : Worker}
    (busy : jobs.Busy active worker) (jobId : JobId) (event : ScanProgressEvent) :
    jobs.Stepped { jobs with registry := jobs.registry.recordProgress jobId event } := by
  have isActive : (jobs.registry.recordProgress jobId event).active =
      some (if active.status.jobId = jobId then
        { active with status := { active.status with progress := some event } } else active) := by
    simp [ScanJobRegistry.recordProgress, ScanJobRegistry.onJob, busy.isActive]
  split at isActive
  · have later : Busy { jobs with registry := jobs.registry.recordProgress jobId event }
        { active with status := { active.status with progress := some event } } worker :=
      ⟨isActive, busy.works, busy.same, busy.next, busy.directed, busy.placed, busy.unstaged⟩
    exact .goesOn active worker busy _ worker later rfl (Or.inl rfl)
  · exact busy.stay ⟨isActive, busy.works, busy.same, busy.next, busy.directed, busy.placed,
      busy.unstaged⟩

theorem Busy.start {jobs : Jobs} {active : ActiveScanJob} {worker : Worker}
    (busy : jobs.Busy active worker) (owner : Window) (admitted : Bool) (now : Nat) :
    jobs.start owner admitted now = jobs := by
  simp only [Jobs.start, ScanJobRegistry.ensureScanStartAvailable, busy.isActive]

theorem Busy.resume {jobs : Jobs} {active : ActiveScanJob} {worker : Worker}
    (busy : jobs.Busy active worker) (outside : jobs.inside = none) (owner : Window)
    (jobId : JobId) : jobs.Stepped (jobs.resume owner jobId) := by
  have directed := busy.directed
  rw [outside] at directed
  have placed := busy.placed
  unfold Jobs.resume
  split
  · rename_i asks
    have paused := ScanJobRegistry.resumeForOwner_paused busy.isActive asks
    rw [paused] at directed placed
    have later := busy.setPhase directed.resumeRequest placed.resumeRequest nofun
    refine .goesOn active worker busy _ worker later rfl (Or.inr ?_)
    rw [paused]
    rfl
  · exact busy.stay busy
  · exact busy.stay busy

/-! ## A step of the worker -/

/-- The worker moves on by itself. -/
theorem Busy.move {jobs : Jobs} {active : ActiveScanJob} {worker : Worker}
    (busy : jobs.Busy active worker) {point : WorkerPoint}
    (placed : Placed active.status.phase active.stage jobs.control point)
    (unstaged : worker.point.staged = false → point.staged = false) :
    jobs.Stepped (jobs.goto worker point) :=
  busy.stay (busy.change busy.directed placed fun asked => unstaged (busy.unstaged asked))

theorem record_cases {jobs next : Jobs} {worker : Worker} {registry : ScanJobRegistry}
    {point : WorkerPoint} (recorded : jobs.record worker registry point = some next) :
    jobs.inside = none ∧ next = { jobs.goto worker point with registry := registry } := by
  unfold record at recorded
  split at recorded
  · rename_i outside
    cases recorded
    exact ⟨outside, rfl⟩
  · cases recorded

/-- The worker records something of its job with the registry free. -/
theorem Busy.record {jobs next : Jobs} {active later : ActiveScanJob} {worker : Worker}
    (busy : jobs.Busy active worker) {registry : ScanJobRegistry} {point : WorkerPoint}
    (recorded : jobs.record worker registry point = some next)
    (isActive : jobs.inside = none → registry.active = some later)
    (same : later.status.jobId = active.status.jobId)
    (moves : jobs.inside = none → later.status.phase = active.status.phase ∨
      active.status.phase.mayMove later.status.phase = true)
    (directed : jobs.inside = none → Directed later.status.phase jobs.control none)
    (placed : jobs.inside = none → Placed later.status.phase later.stage jobs.control point) :
    jobs.Stepped next := by
  obtain ⟨outside, rfl⟩ := record_cases recorded
  refine .goesOn active worker busy later { worker with point } ?_ same (moves outside)
  refine ⟨isActive outside, rfl, busy.same.trans same.symm, ?_, ?_, placed outside, ?_⟩
  · rw [same]
    exact busy.next
  · simp only [Jobs.goto, outside]
    exact directed outside
  · simp [Jobs.goto, outside]

/-- The phase that a worker's record leaves in the active job. -/
def recordedPhase (before recorded : ScanJobPhase) : ScanJobPhase :=
  if before = .cancelling ∧ recorded ≠ .cancelling then before else recorded

theorem recordWorkerPhase_active {registry : ScanJobRegistry} {active : ActiveScanJob}
    (isActive : registry.active = some active) {jobId : JobId}
    (same : jobId = active.status.jobId) (phase : ScanJobPhase) :
    (registry.recordWorkerPhase jobId phase).active =
      some { active with
        status := { active.status with phase := recordedPhase active.status.phase phase } } := by
  rw [ScanJobRegistry.recordWorkerPhase, ScanJobRegistry.onJob_active isActive same]
  simp only [recordedPhase]
  split <;> rfl

/-- A record of the phase leaves a cancelled job alone and moves another one on. -/
theorem Busy.recordPhase {jobs next : Jobs} {active : ActiveScanJob} {worker : Worker}
    (busy : jobs.Busy active worker) {phase : ScanJobPhase} {point : WorkerPoint}
    (recorded : jobs.record worker (jobs.registry.recordWorkerPhase worker.jobId phase) point =
      some next)
    (notCancelling : phase ≠ .cancelling)
    (moves : Directed active.status.phase jobs.control none → jobs.control.directive ≠ .cancel →
      phase = active.status.phase ∨ active.status.phase.mayMove phase = true)
    (directed : Directed active.status.phase jobs.control none →
      jobs.control.directive ≠ .cancel → Directed phase jobs.control none)
    (placed : Placed phase active.stage jobs.control point) : jobs.Stepped next := by
  have registry := recordWorkerPhase_active busy.isActive busy.same phase
  by_cases isCancelled : active.status.phase = .cancelling
  · have kept : recordedPhase active.status.phase phase = active.status.phase :=
      if_pos ⟨isCancelled, notCancelling⟩
    rw [kept] at registry
    have directive := busy.directed.cancelled isCancelled
    refine busy.record recorded (fun _ => registry) rfl (fun _ => Or.inl rfl) ?_ ?_
    · intro outside
      rw [← outside]
      exact busy.directed
    · intro _
      simp only [isCancelled]
      exact placed.cancelDone directive
  · have changed : recordedPhase active.status.phase phase = phase :=
      if_neg fun both => isCancelled both.1
    rw [changed] at registry
    have free : jobs.inside = none → jobs.control.directive ≠ .cancel := by
      intro outside directive
      have now := busy.directed
      rw [outside] at now
      exact isCancelled (now.phase_of_cancel directive)
    have now : jobs.inside = none → Directed active.status.phase jobs.control none := by
      intro outside
      rw [← outside]
      exact busy.directed
    refine busy.record recorded (fun _ => registry) rfl ?_ ?_ fun _ => placed
    · exact fun outside => moves (now outside) (free outside)
    · exact fun outside => directed (now outside) (free outside)

theorem Busy.finish {jobs : Jobs} {active : ActiveScanJob} {worker : Worker}
    (busy : jobs.Busy active worker) (outside : jobs.inside = none) (outcome : ScanOutcome)
    (now : Nat) :
    jobs.Stepped { jobs with
      registry := jobs.registry.finish worker.jobId outcome now, worker := none } := by
  have finished : jobs.registry.finish worker.jobId outcome now =
      { active := none
        lastTerminal := some (ScanJobRegistry.finishStatus active.status outcome now)
        lastTerminalOwnerWindowLabel := some active.ownerWindowLabel
        terminalAcknowledged := false } := by
    simp [ScanJobRegistry.finish, busy.isActive, busy.same]
  rw [finished]
  have same := ScanJobRegistry.finishStatus_jobId active.status outcome now
  refine .ended active worker busy ⟨rfl, rfl, outside, ?_⟩ _ rfl same
    (ScanJobRegistry.finishStatus_terminal active.status outcome now) rfl
  intro status last
  cases last
  rw [same]
  exact busy.next

/-- A worker that fails goes to its end, wherever it stands. -/
theorem Busy.fail {jobs : Jobs} {active : ActiveScanJob} {worker : Worker}
    (busy : jobs.Busy active worker) (outcome : ScanOutcome) :
    jobs.Stepped (jobs.goto worker (.finishing outcome)) :=
  busy.move (busy.placed.finish outcome) fun _ => rfl

theorem Busy.attempt {jobs next : Jobs} {active : ActiveScanJob} {worker : Worker}
    (busy : jobs.Busy active worker) (stands : worker.point = .starting) {scanRunId : String}
    {kind : ScanAttemptKind}
    (stepped : jobs.work worker (.attempt scanRunId kind) = some next) : jobs.Stepped next := by
  have placed := busy.placed
  rw [stands] at placed
  have directed : jobs.inside = none → Directed active.status.phase jobs.control none := by
    intro outside
    rw [← outside]
    exact busy.directed
  unfold Jobs.work at stepped
  rw [stands] at stepped
  simp only at stepped
  rw [busy.same] at stepped
  split at stepped
  · rename_i recording
    obtain ⟨later, isActive, same, phase, stage⟩ :=
      ScanJobRegistry.recordScanAttempt_phase busy.isActive recording
    refine busy.record stepped (fun _ => isActive) same (fun _ => Or.inl phase) ?_ ?_
    · rw [phase]
      exact directed
    · rw [phase, stage]
      exact fun _ => placed.attempt
  · refine busy.record stepped (fun _ => busy.isActive) rfl (fun _ => Or.inl rfl) directed ?_
    exact fun _ => placed.finish _

/-- The end of the enumeration, and what comes after it. -/
theorem Busy.enumerationEnds {jobs : Jobs} {active : ActiveScanJob} {worker : Worker}
    (busy : jobs.Busy active worker) {status : StreamBatchStatus}
    (stands : worker.point = .enumerated status) {later : WorkerPoint}
    (expected : (active.status.phase == .running || active.status.phase == .pausing) = true →
      later.expects active.status.phase = true)
    (after : later = .reportRunning ∨ later = .stopped ∨ ∃ outcome, later = .finishing outcome) :
    jobs.Stepped { jobs.goto worker later with control := jobs.control.finishEnumeration } := by
  have placed := busy.placed
  rw [stands] at placed
  have directed : Directed active.status.phase jobs.control.finishEnumeration jobs.inside := by
    apply busy.directed.finishEnumeration
    intro asked isPaused
    have expected := placed.expected (by rw [asked]; nofun)
    rw [isPaused] at expected
    cases expected
  refine busy.stay (busy.change directed (placed.finishEnumeration expected after) ?_)
  intro _
  rcases after with isLater | isLater | ⟨_, isLater⟩ <;> rw [isLater] <;> rfl

/-! ### The points of the worker -/

section Work

variable {jobs next : Jobs} {active : ActiveScanJob} {worker : Worker}
  (busy : jobs.Busy active worker) {step : WorkerStep}
  (stepped : jobs.work worker step = some next)

include busy stepped

theorem Busy.work_starting (stands : worker.point = .starting) : jobs.Stepped next := by
  have isWork := stepped
  unfold Jobs.work at stepped
  rw [stands] at stepped
  cases step with
  | attempt scanRunId kind => exact busy.attempt stands isWork
  | fail error =>
      cases stepped
      exact busy.fail _
  | _ => cases stepped

theorem Busy.work_enumerating (stands : worker.point = .enumerating) : jobs.Stepped next := by
  have placed := busy.placed
  unfold Jobs.work at stepped
  rw [stands] at stepped placed
  cases step with
  | enumeration status =>
      simp only at stepped
      split at stepped
      · split at stepped
        · rename_i asked
          cases stepped
          exact busy.move (placed.safePoint asked) fun _ => rfl
        · cases stepped
      · cases stepped
        exact busy.move (placed.enumerate status) fun _ => rfl
  | fail error =>
      cases stepped
      exact busy.fail _
  | _ => cases stepped

theorem Busy.work_reportPaused (stands : worker.point = .reportPaused) : jobs.Stepped next := by
  have placed := busy.placed
  unfold Jobs.work at stepped
  rw [stands] at stepped placed
  cases step with
  | go =>
      refine busy.recordPhase stepped nofun ?_ ?_ placed.reportPaused
      · intro directed free
        cases (directed.reportPaused (placed.asked free rfl)).1 with
        | inl pausing =>
            rw [pausing]
            exact Or.inr rfl
        | inr paused =>
            rw [paused]
            exact Or.inl rfl
      · intro directed free
        exact (directed.reportPaused (placed.asked free rfl)).2
  | fail error =>
      cases stepped
      exact busy.fail _
  | _ => cases stepped

theorem Busy.work_waiting (stands : worker.point = .waiting) : jobs.Stepped next := by
  have placed := busy.placed
  unfold Jobs.work at stepped
  rw [stands] at stepped placed
  cases step with
  | go =>
      simp only at stepped
      split at stepped
      · rename_i asked
        cases stepped
        exact busy.move (placed.block asked) fun _ => rfl
      · rename_i awake
        cases stepped
        exact busy.move (placed.leave busy.directed.paused awake) fun _ => rfl
  | fail error =>
      cases stepped
      exact busy.fail _
  | _ => cases stepped

theorem Busy.work_blocked (stands : worker.point = .blocked) : jobs.Stepped next := by
  have placed := busy.placed
  unfold Jobs.work at stepped
  rw [stands] at stepped placed
  cases step with
  | spurious =>
      cases stepped
      exact busy.move placed.wake fun _ => rfl
  | _ => cases stepped

theorem Busy.work_resuming (stands : worker.point = .resuming) : jobs.Stepped next := by
  have placed := busy.placed
  unfold Jobs.work at stepped
  rw [stands] at stepped placed
  cases step with
  | go =>
      simp only at stepped
      cases directive : jobs.control.directive with
      | cancel =>
          rw [directive] at stepped
          cases stepped
          exact busy.move (placed.consumeCancel directive) fun _ => rfl
      | pause => exact absurd directive placed.notPaused
      | «continue» =>
          rw [directive] at stepped
          cases stepped
          exact busy.move (placed.acknowledgeResume directive) fun _ => rfl
  | fail error =>
      cases stepped
      exact busy.fail _
  | _ => cases stepped

theorem Busy.work_reportResumed (stands : worker.point = .reportResumed) : jobs.Stepped next := by
  have placed := busy.placed
  unfold Jobs.work at stepped
  rw [stands] at stepped placed
  cases step with
  | go =>
      refine busy.recordPhase stepped nofun ?_ ?_ placed.reportResumed
      · intro _ free
        have expected := placed.expected free
        have resuming : active.status.phase = .resuming := beq_iff_eq.mp expected
        rw [resuming]
        exact Or.inr rfl
      · intro _ free
        exact .running (placed.resumed free rfl)
  | fail error =>
      cases stepped
      exact busy.fail _
  | _ => cases stepped

theorem Busy.work_enumerated {status : StreamBatchStatus}
    (stands : worker.point = .enumerated status) : jobs.Stepped next := by
  unfold Jobs.work at stepped
  rw [stands] at stepped
  cases step with
  | go =>
      cases stepped
      apply busy.enumerationEnds stands
      · cases status with
        | completed | partialScan => exact id
        | _ => exact fun _ => rfl
      · cases status with
        | completed | partialScan => exact Or.inl rfl
        | cancelled => exact Or.inr (Or.inl rfl)
        | _ => exact Or.inr (Or.inr ⟨_, rfl⟩)
  | fail error =>
      cases stepped
      exact busy.fail _
  | _ => cases stepped

theorem Busy.work_stopped (stands : worker.point = .stopped) : jobs.Stepped next := by
  unfold Jobs.work at stepped
  rw [stands] at stepped
  cases step with
  | conclude result =>
      cases stepped
      exact busy.fail _
  | fail error =>
      cases stepped
      exact busy.fail _
  | _ => cases stepped

theorem Busy.work_reportRunning (stands : worker.point = .reportRunning) : jobs.Stepped next := by
  have placed := busy.placed
  unfold Jobs.work at stepped
  rw [stands] at stepped placed
  cases step with
  | go =>
      refine busy.recordPhase stepped nofun ?_ ?_ placed.reportRunning
      · intro _ free
        have expected := placed.expected free
        cases Bool.or_eq_true_iff.mp expected with
        | inl running => exact Or.inl (beq_iff_eq.mp running).symm
        | inr pausing =>
            rw [beq_iff_eq.mp pausing]
            exact Or.inr rfl
      · intro _ free
        exact .running (placed.goesOn rfl free)
  | fail error =>
      cases stepped
      exact busy.fail _
  | _ => cases stepped

theorem Busy.work_enterStage {stage : ScanWorkerStage} (stands : worker.point = .enterStage stage) :
    jobs.Stepped next := by
  have placed := busy.placed
  unfold Jobs.work at stepped
  rw [stands] at stepped placed
  cases step with
  | go =>
      have isActive : (jobs.registry.recordWorkerStage worker.jobId stage).active =
          some { active with stage } := by
        rw [ScanJobRegistry.recordWorkerStage,
          ScanJobRegistry.onJob_active busy.isActive busy.same]
      refine busy.record stepped (fun _ => isActive) rfl (fun _ => Or.inl rfl) ?_
        fun _ => placed.enterStage
      intro outside
      rw [← outside]
      exact busy.directed
  | fail error =>
      cases stepped
      exact busy.fail _
  | _ => cases stepped

theorem Busy.work_inStage {stage : ScanWorkerStage} (stands : worker.point = .inStage stage) :
    jobs.Stepped next := by
  have late : worker.point.staged = true := by rw [stands]; rfl
  have enters (later : ScanWorkerStage) : jobs.Stepped (jobs.goto worker (.enterStage later)) := by
    have placed := busy.placed
    rw [stands] at placed
    refine busy.move placed.nextStage ?_
    rw [late]
    nofun
  unfold Jobs.work at stepped
  rw [stands] at stepped
  cases step with
  | go =>
      cases stage with
      | fingerprinting | exactVerification | captureTime =>
          cases stepped
          exact enters _
      | enumeration | finished => cases stepped
  | conclude result =>
      cases stage with
      | finished =>
          cases stepped
          exact busy.fail _
      | _ => cases stepped
  | stageCancelled result =>
      cases stage with
      | fingerprinting | exactVerification =>
          cases stepped
          exact busy.fail _
      | _ => cases stepped
  | fail error =>
      cases stage <;> cases stepped <;> exact busy.fail _
  | _ => cases stage <;> cases stepped

theorem Busy.work_finishing {outcome : ScanOutcome} (stands : worker.point = .finishing outcome) :
    jobs.Stepped next := by
  unfold Jobs.work at stepped
  rw [stands] at stepped
  cases step with
  | finish now =>
      simp only at stepped
      split at stepped
      · rename_i outside
        cases stepped
        exact busy.finish outside outcome now
      · cases stepped
  | _ => cases stepped

/-- Every step of the worker. -/
theorem Busy.work : jobs.Stepped next := by
  cases stands : worker.point with
  | starting => exact busy.work_starting stepped stands
  | enumerating => exact busy.work_enumerating stepped stands
  | reportPaused => exact busy.work_reportPaused stepped stands
  | waiting => exact busy.work_waiting stepped stands
  | blocked => exact busy.work_blocked stepped stands
  | resuming => exact busy.work_resuming stepped stands
  | reportResumed => exact busy.work_reportResumed stepped stands
  | enumerated status => exact busy.work_enumerated stepped stands
  | stopped => exact busy.work_stopped stepped stands
  | reportRunning => exact busy.work_reportRunning stepped stands
  | enterStage stage => exact busy.work_enterStage stepped stands
  | inStage stage => exact busy.work_inStage stepped stands
  | finishing outcome => exact busy.work_finishing stepped stands

end Work

theorem Busy.stepped {jobs next : Jobs} {active : ActiveScanJob} {worker : Worker}
    (busy : jobs.Busy active worker) {action : ScanAction}
    (stepped : jobs.step action = some next) : jobs.Stepped next := by
  have directed : jobs.inside = none → Directed active.status.phase jobs.control none := by
    intro outside
    rw [← outside]
    exact busy.directed
  cases action with
  | start owner admitted now =>
      obtain ⟨_, rfl⟩ := call_cases stepped
      rw [busy.start]
      exact busy.stay busy
  | pause owner jobId =>
      obtain ⟨outside, rfl⟩ := call_cases stepped
      refine busy.enter _ _ ?_ nofun
      intro asks
      have running := ScanJobRegistry.pauseForOwner_running busy.isActive asks
      have now := directed outside
      rw [running] at now ⊢
      exact now.pauseRequest jobId
  | resume owner jobId =>
      obtain ⟨outside, rfl⟩ := call_cases stepped
      exact busy.resume outside owner jobId
  | cancel jobId =>
      obtain ⟨outside, rfl⟩ := call_cases stepped
      exact busy.enter _ _ (fun _ => (directed outside).cancelRequest) nofun
  | cancelOwner owner =>
      obtain ⟨outside, rfl⟩ := call_cases stepped
      exact busy.enter _ _ (fun _ => (directed outside).cancelRequest) nofun
  | proceed =>
      obtain ⟨call, holds, rfl⟩ := Option.map_eq_some_iff.mp stepped
      exact busy.proceed holds
  | acknowledge jobId =>
      obtain ⟨_, rfl⟩ := call_cases stepped
      exact busy.acknowledge jobId
  | progress jobId event =>
      rw [step] at stepped
      split at stepped
      · cases stepped
        exact busy.progress jobId event
      · cases stepped
        exact busy.stay busy
  | work step =>
      rw [Jobs.step, busy.works] at stepped
      exact busy.work stepped

theorem inv_new : new.Inv := by
  refine .free ⟨rfl, rfl, rfl, ?_⟩
  intro status last
  cases last

theorem Inv.stepped {jobs next : Jobs} (inv : jobs.Inv) {action : ScanAction}
    (stepped : jobs.step action = some next) : jobs.Stepped next := by
  cases inv with
  | free free => exact free.stepped stepped
  | busy active worker busy => exact busy.stepped stepped

theorem Inv.step {jobs next : Jobs} (inv : jobs.Inv) {action : ScanAction}
    (stepped : jobs.step action = some next) : next.Inv := (inv.stepped stepped).inv

end Jobs

end Guiying.Desktop
