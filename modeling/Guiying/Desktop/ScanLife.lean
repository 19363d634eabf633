import Guiying.Desktop.ScanJob

/-!
# The life of scan jobs

What the registry promises to an observer: jobs run one after the other, a phase
follows another only along the permitted moves, and a terminal status is kept
until it is acknowledged.
-/

namespace Guiying.Desktop

open Guiying.Foundation

namespace ScanJobPhase

/-- The moves of an active job. -/
def mayMove : ScanJobPhase → ScanJobPhase → Bool
  | running, pausing => true
  | pausing, paused => true
  | paused, resuming => true
  | resuming, running => true
  | pausing, running => true
  | before, cancelling => !before.terminal && before != cancelling
  | _, _ => false

theorem mayMove_cancelling {phase : ScanJobPhase} (active : phase.terminal = false)
    (fresh : phase ≠ cancelling) : phase.mayMove cancelling = true := by
  cases phase with
  | cancelling => exact absurd rfl fresh
  | running | pausing | paused | resuming => rfl
  | completed | cancelled | failed => cases active

end ScanJobPhase

inductive JobEvent where
  | started (jobId : JobId)
  | moved (jobId : JobId) (before after : ScanJobPhase)
  | ended (jobId : JobId) (phase : ScanJobPhase)
  | acknowledged (jobId : JobId)
  deriving DecidableEq

inductive JobLife where
  /-- No job is active and no status is pending; the next job has this number. -/
  | idle (next : JobId)
  | active (jobId : JobId) (phase : ScanJobPhase)
  /-- The terminal status of a job waits to be acknowledged. -/
  | pending (jobId : JobId)
  deriving DecidableEq

namespace JobLife

def step : JobLife → JobEvent → Option JobLife
  | idle next, .started jobId => if jobId = next then some (active jobId .running) else none
  | active jobId phase, .moved moved before after =>
      if moved = jobId ∧ before = phase ∧ phase.mayMove after then some (active jobId after)
      else none
  | active jobId _, .ended ended phase =>
      if ended = jobId ∧ phase.terminal then some (pending jobId) else none
  | pending jobId, .acknowledged acknowledged =>
      if acknowledged = jobId then some (idle (jobId + 1)) else none
  | _, _ => none

/-- How many jobs have had their terminal status. -/
def done : JobLife → Nat
  | idle next => next
  | active jobId _ => jobId
  | pending jobId => jobId + 1

end JobLife

def lifeMachine : Machine JobLife JobEvent := ⟨.idle 0, JobLife.step⟩

namespace JobEvent

def endedJob : JobEvent → Option JobId
  | ended jobId _ => some jobId
  | _ => none

def endedJobs (events : List JobEvent) : List JobId := events.filterMap endedJob

end JobEvent

namespace JobLife

theorem endedJob_of_step {life next : JobLife} {event : JobEvent}
    (stepped : life.step event = some next) :
    (event.endedJob = none ∧ next.done = life.done) ∨
      (event.endedJob = some life.done ∧ next.done = life.done + 1) := by
  unfold step at stepped
  split at stepped
  · split at stepped
    · rename_i same
      cases stepped
      exact Or.inl ⟨rfl, same⟩
    · cases stepped
  · split at stepped
    · cases stepped
      exact Or.inl ⟨rfl, rfl⟩
    · cases stepped
  · split at stepped
    · rename_i same
      cases stepped
      exact Or.inr ⟨congrArg some same.1, rfl⟩
    · cases stepped
  · split at stepped
    · cases stepped
      exact Or.inl ⟨rfl, rfl⟩
    · cases stepped
  · cases stepped

/-- Terminal statuses come one for each job, in the order of the jobs. -/
theorem endedJobs_of_after {life last : JobLife} {events : List JobEvent}
    (ran : lifeMachine.after life events = some last) :
    life.done ≤ last.done ∧
      JobEvent.endedJobs events = List.range' life.done (last.done - life.done) := by
  induction events generalizing life with
  | nil =>
      cases ran
      simp [JobEvent.endedJobs]
  | cons event rest ih =>
      obtain ⟨next, stepped, ran⟩ := Option.bind_eq_some_iff.mp ran
      obtain ⟨later, jobs⟩ := ih ran
      cases endedJob_of_step stepped with
      | inl quiet =>
          rw [quiet.2] at later jobs
          refine ⟨later, ?_⟩
          rw [← jobs]
          exact List.filterMap_cons_none quiet.1
      | inr ended =>
          rw [ended.2] at later jobs
          refine ⟨by omega, ?_⟩
          have more : last.done - life.done = (last.done - (life.done + 1)) + 1 := by omega
          rw [more, List.range'_succ, ← jobs]
          exact List.filterMap_cons_some ended.1

end JobLife

end Guiying.Desktop
