import Guiying.Desktop.ScanRuns

/-!
# The control of a scan is safe in every order of the steps

A cancellation that was accepted stays, a worker that sleeps can be woken, and
the phases of a job follow its permitted moves to exactly one terminal status.
-/

namespace Guiying.Desktop

open Guiying.Core
open Guiying.Foundation

namespace Jobs

/-! ## Runs -/

/-- What a run shows of its jobs. -/
def history (jobs : Jobs) (actions : List ScanAction) : List JobEvent :=
  scanMachine.shown events jobs actions

theorem Inv.history {jobs later : Jobs} (inv : jobs.Inv) {actions : List ScanAction}
    (ran : scanMachine.after jobs actions = some later) :
    lifeMachine.after jobs.life (jobs.history actions) = some later.life := by
  refine Machine.after_shown ?_ ?_ inv ran
  · exact fun state action next before stepped => before.step stepped
  · exact fun state action next before stepped => (before.stepped stepped).life

/-! ## A cancellation that was accepted -/

/-- The job is active, being cancelled, and its worker is told so. -/
def CancelAccepted (jobs : Jobs) (jobId : JobId) : Prop :=
  ∃ active, jobs.registry.active = some active ∧ active.status.jobId = jobId ∧
    active.status.phase = .cancelling ∧ jobs.control.directive = .cancel

theorem Busy.cancelAccepted {jobs : Jobs} {active : ActiveScanJob} {worker : Worker}
    (busy : jobs.Busy active worker) (cancelling : active.status.phase = .cancelling) :
    jobs.CancelAccepted active.status.jobId :=
  ⟨active, busy.isActive, rfl, cancelling, busy.directed.cancelled cancelling⟩

/-- A step from a cancelled job leaves it cancelled or ends it. -/
theorem CancelAccepted.step {jobs next : Jobs} {jobId : JobId} (accepted : jobs.CancelAccepted jobId)
    (stepped : jobs.Stepped next) :
    next.CancelAccepted jobId ∨ jobId ∈ JobEvent.endedJobs (events jobs next) := by
  obtain ⟨cancelled, isActive, isJob, cancelling, _⟩ := accepted
  cases stepped with
  | idle free same | acknowledged free status last pending same =>
      rw [free.idle] at isActive
      cases isActive
  | started free active worker released fresh runs busy =>
      rw [free.idle] at isActive
      cases isActive
  | goesOn active worker busy later laterWorker laterBusy same moves =>
      rw [busy.isActive] at isActive
      cases isActive
      have still : later.status.phase = .cancelling := by
        rw [cancelling] at moves
        cases moves with
        | inl kept => exact kept
        | inr moved =>
            cases phase : later.status.phase with
            | cancelling => rfl
            | _ =>
                rw [phase] at moved
                cases moved
      rw [← isJob, ← same]
      exact Or.inl (laterBusy.cancelAccepted still)
  | ended active worker busy free status last same isTerminal pending =>
      rw [busy.isActive] at isActive
      cases isActive
      refine Or.inr ?_
      have seen : events jobs next = [.ended status.jobId status.phase] := by
        simp [events, busy.isActive, free.idle, last]
      rw [seen, ← isJob, ← same]
      exact List.mem_singleton.mpr rfl

/-- Until its terminal status is recorded, the job stays cancelled. -/
theorem CancelAccepted.run {jobs later : Jobs} {jobId : JobId} (inv : jobs.Inv)
    (accepted : jobs.CancelAccepted jobId) {actions : List ScanAction}
    (ran : scanMachine.after jobs actions = some later) :
    later.CancelAccepted jobId ∨ jobId ∈ JobEvent.endedJobs (jobs.history actions) := by
  induction actions generalizing jobs with
  | nil =>
      cases ran
      exact Or.inl accepted
  | cons action rest ih =>
      obtain ⟨next, stepped, ran⟩ := Option.bind_eq_some_iff.mp ran
      have split : jobs.history (action :: rest) = events jobs next ++ next.history rest := by
        have isStep : scanMachine.step jobs action = some next := stepped
        simp only [history, Machine.shown, isStep]
      rw [split, JobEvent.endedJobs, List.filterMap_append]
      cases accepted.step (inv.stepped stepped) with
      | inr ended => exact Or.inr (List.mem_append_left _ ended)
      | inl still =>
          cases ih (inv.step stepped) still ran with
          | inl last => exact Or.inl last
          | inr ended => exact Or.inr (List.mem_append_right _ ended)

/-! ## A worker that sleeps -/

/-- A call has come to its end and the worker leaves its wait. -/
structure Woken (jobs : Jobs) (jobId : JobId) (phase : ScanJobPhase)
    (directive : WorkerDirective) : Prop where
  outside : jobs.inside = none
  phase : ∃ active, jobs.registry.active = some active ∧ active.status.jobId = jobId ∧
    active.status.phase = phase
  directive : jobs.control.directive = directive
  leaves : ∃ left, jobs.step (.work .go) = some left ∧ left.worker = some ⟨jobId, .resuming⟩

/-- The job of a sleeping worker is paused for every call that finds the registry free, and such
a call can wake it. While a call holds the registry, only the one that is about to wake the
worker has written another phase. -/
structure Asleep (jobs : Jobs) (jobId : JobId) : Prop where
  paused : ∃ active, jobs.registry.active = some active ∧ active.status.jobId = jobId ∧
    (active.status.phase = .paused ∨
      active.status.phase = .resuming ∧ jobs.inside = some .resumeRequesting)
  observed : jobs.inside = none → ∃ active, jobs.registry.active = some active ∧
    active.status.jobId = jobId ∧ active.status.phase = .paused ∧
    (∃ woken, scanMachine.after jobs
        [.resume active.ownerWindowLabel jobId, .proceed, .proceed] = some woken ∧
      woken.Woken jobId .resuming .continue) ∧
    (∃ woken, scanMachine.after jobs [.cancel jobId, .proceed, .proceed] = some woken ∧
      woken.Woken jobId .cancelling .cancel) ∧
    ∃ woken, scanMachine.after jobs
        [.cancelOwner active.ownerWindowLabel, .proceed, .proceed] = some woken ∧
      woken.Woken jobId .cancelling .cancel

theorem Busy.paused_of_blocked {jobs : Jobs} {active : ActiveScanJob} {worker : Worker}
    (busy : jobs.Busy active worker) (sleeps : worker.point = .blocked) :
    active.status.phase = .paused ∨
      active.status.phase = .resuming ∧ jobs.inside = some .resumeRequesting := by
  have asked := busy.placed.asleep sleeps
  have expected := busy.placed.expected (by rw [asked]; nofun)
  rw [sleeps] at expected
  cases Bool.or_eq_true_iff.mp expected with
  | inl paused => exact Or.inl (beq_iff_eq.mp paused)
  | inr resuming =>
      have resuming := beq_iff_eq.mp resuming
      have why := busy.directed.pausing asked
      rw [resuming] at why
      rcases why with impossible | impossible | requested | requesting
      · cases impossible
      · cases impossible
      · have running := busy.directed.pauseRequested requested
        rw [resuming] at running
        cases running
      · exact Or.inr ⟨resuming, requesting⟩

/-- The call goes through its two remaining steps. -/
theorem after_call {before entered : Jobs} {action : ScanAction} {first second : Section}
    (enters : before.step action = some entered) (holds : entered.inside = some first)
    (goesOn : (entered.proceed first).inside = some second) :
    scanMachine.after before [action, .proceed, .proceed] =
      some ((entered.proceed first).proceed second) := by
  have one : scanMachine.step before action = some entered := enters
  have two : scanMachine.step entered .proceed = some (entered.proceed first) := by
    show entered.inside.map entered.proceed = _
    rw [holds]
    rfl
  have three : scanMachine.step (entered.proceed first) .proceed =
      some ((entered.proceed first).proceed second) := by
    show (entered.proceed first).inside.map (entered.proceed first).proceed = _
    rw [goesOn]
    rfl
  simp only [Machine.after, one, two, three, Option.bind_some]

/-- A worker before its wait leaves it when its directive is no longer to pause. -/
theorem leaves_of_waiting {jobs : Jobs} {worker : Worker}
    (works : jobs.worker = some { worker with point := .waiting })
    (awake : jobs.control.directive ≠ .pause) :
    ∃ left, jobs.step (.work .go) = some left ∧
      left.worker = some ⟨worker.jobId, .resuming⟩ := by
  refine ⟨jobs.goto { worker with point := .waiting } .resuming, ?_, rfl⟩
  simp [step, works, work, awake]

section Sleep

variable {jobs : Jobs} {active : ActiveScanJob} {worker : Worker}

theorem Busy.resume_wakes (busy : jobs.Busy active worker) (sleeps : worker.point = .blocked)
    (outside : jobs.inside = none) (paused : active.status.phase = .paused) :
    ∃ woken, scanMachine.after jobs
      [.resume active.ownerWindowLabel active.status.jobId, .proceed, .proceed] = some woken ∧
    woken.Woken active.status.jobId .resuming .continue := by
  have asked := busy.placed.asleep sleeps
  have enumerates := busy.placed.stage (by rw [sleeps]; rfl) (by rw [sleeps]; rfl)
  have accepted := ScanJobRegistry.resumeForOwner_of_paused busy.isActive paused enumerates
  have enters : jobs.step (.resume active.ownerWindowLabel active.status.jobId) = some
      { jobs with
        registry := jobs.registry.setPhase .resuming, inside := some .resumeRequesting } := by
    simp only [Jobs.step, call, outside, if_true, Jobs.resume, accepted]
  have lifted : jobs.control.requestResume = { jobs.control with directive := .continue } :=
    if_pos asked
  have notified := busy.notify
  rw [sleeps] at notified
  refine ⟨_, after_call enters rfl rfl, rfl, ?_, ?_, ?_⟩
  · refine ⟨{ active with status := { active.status with phase := .resuming } }, ?_, rfl, rfl⟩
    simp [Jobs.proceed, ScanJobRegistry.setPhase, busy.isActive]
  · simp only [Jobs.proceed, lifted]
  · rw [← busy.same]
    apply leaves_of_waiting
    · simp only [Jobs.proceed, asked, if_true]
      exact notified
    · simp only [Jobs.proceed, lifted]
      intro same
      cases same

theorem Busy.cancel_wakes (busy : jobs.Busy active worker) (sleeps : worker.point = .blocked)
    {action : ScanAction}
    (enters : jobs.step action = some { jobs with inside := some .cancelRequesting }) :
    ∃ woken, scanMachine.after jobs [action, .proceed, .proceed] = some woken ∧
      woken.Woken active.status.jobId .cancelling .cancel := by
  have notified := busy.notify
  rw [sleeps] at notified
  refine ⟨_, after_call enters rfl rfl, rfl, ?_, rfl, ?_⟩
  · refine ⟨{ active with status := { active.status with phase := .cancelling } }, ?_, rfl, rfl⟩
    simp [Jobs.proceed, ScanJobRegistry.setPhase, busy.isActive]
  · rw [← busy.same]
    apply leaves_of_waiting
    · exact notified
    · intro same
      cases same

theorem Busy.asleep (busy : jobs.Busy active worker) (sleeps : worker.point = .blocked) :
    jobs.Asleep active.status.jobId where
  paused := ⟨active, busy.isActive, rfl, busy.paused_of_blocked sleeps⟩
  observed outside := by
    have paused : active.status.phase = .paused := by
      cases busy.paused_of_blocked sleeps with
      | inl paused => exact paused
      | inr requesting =>
          have impossible := requesting.2
          rw [outside] at impossible
          cases impossible
    refine ⟨active, busy.isActive, rfl, paused, busy.resume_wakes sleeps outside paused,
      busy.cancel_wakes sleeps ?_, busy.cancel_wakes sleeps ?_⟩
    · simp only [Jobs.step, call, outside, if_true, Jobs.enter,
        ScanJobRegistry.cancelJob_active busy.isActive]
    · have cancels : jobs.registry.cancelForOwner active.ownerWindowLabel = true := by
        simp [ScanJobRegistry.cancelForOwner, busy.isActive, paused, ScanJobPhase.terminal]
      simp only [Jobs.step, call, outside, if_true, cancels, Jobs.enter]

end Sleep

/-! ## The control of a scan -/

/-- What holds after a run of the registry, its worker and their calls. -/
structure ControlSafe (actions : List ScanAction) (jobs : Jobs) : Prop where
  /-- Phases follow the permitted moves, and a job starts only once the terminal status before it
  was acknowledged. -/
  life : lifeMachine.after (.idle 0) (new.history actions) = some jobs.life
  /-- One terminal status for each job that has been active, in their order. -/
  ended : JobEvent.endedJobs (new.history actions) = List.range jobs.life.done
  /-- A cancellation is accepted, and stays until the job ends. -/
  cancelled : ∀ next, jobs.inside = some .cancelRequested → jobs.step .proceed = some next →
    ∃ jobId, next.CancelAccepted jobId ∧ ∀ more later, scanMachine.after next more = some later →
      later.CancelAccepted jobId ∨ jobId ∈ JobEvent.endedJobs (next.history more)
  asleep : ∀ jobId, jobs.worker = some ⟨jobId, .blocked⟩ → jobs.Asleep jobId
  /-- Once its worker has finished no job is active, and every job that has been started has had
  its terminal status. -/
  finished : jobs.worker = none → jobs.registry.active = none ∧
    JobEvent.endedJobs (new.history actions) = List.range jobs.nextJob
  /-- A call that answers with an error leaves the job and its worker as they are. -/
  refused : ∀ action error next, jobs.answer action = some (.error error) →
    jobs.step action = some next → next = { jobs with inside := none }

/-- The call that cancels leaves its job cancelled. -/
theorem Inv.cancelAccepted {jobs next : Jobs} (inv : jobs.Inv)
    (holds : jobs.inside = some .cancelRequested) (stepped : jobs.step .proceed = some next) :
    ∃ jobId, next.CancelAccepted jobId := by
  cases inv with
  | free free =>
      rw [free.outside] at holds
      cases holds
  | busy active worker busy =>
      have directed := busy.directed
      rw [holds] at directed
      rw [Jobs.step, holds] at stepped
      cases stepped
      refine ⟨active.status.jobId,
        { active with status := { active.status with phase := .cancelling } }, ?_, rfl, rfl,
        directed.cancelRequested rfl⟩
      simp [proceed, ScanJobRegistry.setPhase, busy.isActive]

/-- Between two jobs every job that was numbered has had its terminal status. -/
theorem Free.done {jobs : Jobs} (free : jobs.Free) : jobs.life.done = jobs.nextJob := by
  unfold Jobs.life
  rw [free.idle]
  cases last : jobs.registry.lastTerminal with
  | none => rfl
  | some status =>
      have number := free.last status last
      cases acknowledged : jobs.registry.terminalAcknowledged with
      | true => simp [JobLife.done]
      | false => simp [JobLife.done, number]

end Jobs

/-- The control of a scan job is safe after every run. -/
theorem scan_control_safe (actions : List ScanAction) (jobs : Jobs)
    (ran : scanMachine.after .new actions = some jobs) : jobs.ControlSafe actions := by
  have inv : jobs.Inv := by
    refine Machine.after_invariant ?_ Jobs.inv_new ran
    exact fun state action next before stepped => before.step stepped
  have life := Jobs.inv_new.history ran
  have ended : JobEvent.endedJobs (Jobs.new.history actions) = List.range jobs.life.done := by
    rw [(JobLife.endedJobs_of_after life).2, List.range_eq_range']
    rfl
  constructor
  · exact life
  · exact ended
  · intro next holds stepped
    obtain ⟨jobId, accepted⟩ := inv.cancelAccepted holds stepped
    exact ⟨jobId, accepted, fun more later run => accepted.run (inv.step stepped) run⟩
  · intro jobId sleeps
    cases inv with
    | free free =>
        rw [free.nobody] at sleeps
        cases sleeps
    | busy active worker busy =>
        rw [busy.works] at sleeps
        cases sleeps
        have same : jobId = active.status.jobId := busy.same
        rw [same]
        exact busy.asleep rfl
  · intro nobody
    cases inv with
    | free free => exact ⟨free.idle, free.done ▸ ended⟩
    | busy active worker busy =>
        rw [busy.works] at nobody
        cases nobody
  · exact fun action error next refused stepped => Jobs.refused_unchanged refused stepped

/-- A job is paused at a safe point and its worker falls asleep. -/
def pausedRun : List ScanAction :=
  [.start "main" true 0, .work (.attempt "1" .initialFull), .pause "main" 0, .proceed, .proceed,
    .work (.enumeration .paused), .work .go, .work .go]

theorem pausedRun_sleeps : ∃ jobs, scanMachine.after .new pausedRun = some jobs ∧
    jobs.worker = some ⟨0, .blocked⟩ := ⟨_, rfl, rfl⟩

theorem scan_control_safe_pausedRun : ∃ jobs, scanMachine.after .new pausedRun = some jobs ∧
    jobs.worker = some ⟨0, .blocked⟩ ∧ jobs.ControlSafe pausedRun := by
  obtain ⟨jobs, ran, sleeps⟩ := pausedRun_sleeps
  exact ⟨jobs, ran, sleeps, scan_control_safe pausedRun jobs ran⟩

/-- A pause that comes between the end of the enumeration and the next stage is refused. -/
example : ((scanMachine.after .new [.start "main" true 0, .work (.attempt "1" .initialFull),
      .work (.enumeration .completed), .work .go, .pause "main" 0]).bind
    fun jobs => jobs.answer .proceed) = some (.error (ScanJobRegistry.pauseRefused 0)) := rfl

end Guiying.Desktop
