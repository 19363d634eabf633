import Guiying.Desktop.ScanWorker

/-!
# Phase, directive and worker together

The phase of a job lives in the registry and its directive in the control; the
worker acts on both. What each of them says of the other two is kept by every
step of a call and of the worker.
-/

namespace Guiying.Desktop

open Guiying.Core

namespace WorkerPoint

/-- The phases of a job that is not being cancelled, by where its worker stands. -/
def expects : WorkerPoint → ScanJobPhase → Bool
  | starting, phase | enumerating, phase | reportPaused, phase | enumerated _, phase
  | reportRunning, phase => phase == .running || phase == .pausing
  | waiting, phase | blocked, phase => phase == .paused || phase == .resuming
  | resuming, phase | reportResumed, phase => phase == .resuming
  | enterStage _, phase | inStage _, phase => phase == .running
  | stopped, _ | finishing _, _ => true

/-- After `finish_enumeration`. -/
def enumerationOver : WorkerPoint → Bool
  | reportRunning | stopped | enterStage _ | inStage _ => true
  | _ => false

/-- The enumeration was resumed and that is not yet recorded. -/
def resumes : WorkerPoint → Bool
  | resuming | reportResumed => true
  | _ => false

def staged : WorkerPoint → Bool
  | enterStage _ | inStage _ => true
  | _ => false

def finishes : WorkerPoint → Bool
  | finishing _ => true
  | _ => false

/-- Where a worker is after a wake-up call. -/
def woken (point : WorkerPoint) : WorkerPoint :=
  if point = .blocked then .waiting else point

theorem woken_ne_blocked (point : WorkerPoint) : point.woken ≠ .blocked := by
  cases point <;> simp [woken]

@[simp] theorem woken_expects (point : WorkerPoint) : point.woken.expects = point.expects := by
  cases point <;> rfl

@[simp] theorem woken_enumerationOver (point : WorkerPoint) :
    point.woken.enumerationOver = point.enumerationOver := by cases point <;> rfl

@[simp] theorem woken_staged (point : WorkerPoint) : point.woken.staged = point.staged := by
  cases point <;> rfl

@[simp] theorem woken_finishes (point : WorkerPoint) : point.woken.finishes = point.finishes := by
  cases point <;> rfl

theorem woken_reportPaused (point : WorkerPoint) :
    point.woken = .reportPaused ↔ point = .reportPaused := by cases point <;> simp [woken]

end WorkerPoint

/-- What the phase and the directive say of each other, but for the call that is at them. -/
structure Directed (phase : ScanJobPhase) (control : WorkerControlState)
    (inside : Option Section) : Prop where
  active : phase.terminal = false
  cancelled : phase = .cancelling → control.directive = .cancel
  cancelling : control.directive = .cancel → phase = .cancelling ∨ inside = some .cancelRequested
  cancelRequested : inside = some .cancelRequested → control.directive = .cancel
  pauseRequesting : ∀ jobId, inside = some (.pauseRequesting jobId) → phase = .running
  pauseRequested : inside = some .pauseRequested → phase = .running
  resumeRequesting : inside = some .resumeRequesting → phase = .resuming
  pausing : control.directive = .pause → phase = .pausing ∨ phase = .paused ∨
    inside = some .pauseRequested ∨ inside = some .resumeRequesting
  paused : phase = .paused → control.directive ≠ .continue

/-- What a worker relies on where it stands. -/
structure Placed (phase : ScanJobPhase) (stage : ScanWorkerStage) (control : WorkerControlState)
    (point : WorkerPoint) : Prop where
  asleep : point = .blocked → control.directive = .pause
  opens : control.directive = .pause → control.enumerationActive = true
  pastEnumeration : point.enumerationOver = true → control.enumerationActive = false
  expected : control.directive ≠ .cancel → point.expects phase = true
  asked : control.directive ≠ .cancel → point = .reportPaused → control.directive = .pause
  resumed : control.directive ≠ .cancel → point.resumes = true → control.directive = .continue
  stage : point.staged = false → point.finishes = false → stage = .enumeration

namespace Directed

variable {phase : ScanJobPhase} {control : WorkerControlState} {inside : Option Section}

theorem start : Directed .running .new none := by
  constructor <;> simp [ScanJobPhase.terminal, WorkerControlState.new]

theorem pauseRequest (directed : Directed .running control none) (jobId : JobId) :
    Directed .running control (some (.pauseRequesting jobId)) := by
  constructor <;> grind [Directed]

theorem pauseAccept {jobId : JobId}
    (directed : Directed phase control (some (.pauseRequesting jobId))) :
    Directed phase { control with directive := .pause } (some .pauseRequested) := by
  have running := directed.pauseRequesting jobId rfl
  subst running
  exact ⟨rfl, nofun, nofun, nofun, nofun, fun _ => rfl, nofun,
    fun _ => Or.inr (Or.inr (Or.inl rfl)), nofun⟩

theorem pauseRefuse {jobId : JobId}
    (directed : Directed phase control (some (.pauseRequesting jobId))) :
    Directed phase control none := by
  constructor <;> grind [Directed]

theorem pause (directed : Directed phase control (some .pauseRequested)) :
    Directed .pausing control none := by
  constructor <;> grind [Directed, ScanJobPhase.terminal]

theorem resumeRequest (directed : Directed .paused control none) :
    Directed .resuming control (some .resumeRequesting) := by
  constructor <;> grind [Directed, ScanJobPhase.terminal]

theorem resume (directed : Directed phase control (some .resumeRequesting)) :
    Directed phase control.requestResume (some .resumeRequested) := by
  constructor <;> grind [Directed, WorkerControlState.requestResume]

theorem resumeDone (directed : Directed phase control (some .resumeRequested)) :
    Directed phase control none := by
  constructor <;> grind [Directed]

theorem cancelRequest (directed : Directed phase control none) :
    Directed phase control (some .cancelRequesting) := by
  constructor <;> grind [Directed]

theorem cancel (directed : Directed phase control (some .cancelRequesting)) :
    Directed phase control.cancel (some .cancelRequested) := by
  constructor <;> grind [Directed, WorkerControlState.cancel]

theorem cancelDone (directed : Directed phase control (some .cancelRequested)) :
    Directed .cancelling control none := by
  constructor <;> grind [Directed, ScanJobPhase.terminal]

theorem reportPaused (directed : Directed phase control none) (asked : control.directive = .pause) :
    (phase = .pausing ∨ phase = .paused) ∧ Directed .paused control none := by
  constructor
  · grind [Directed]
  · constructor <;> grind [Directed, ScanJobPhase.terminal]

theorem running (goesOn : control.directive = .continue) : Directed .running control none := by
  constructor <;> grind [Directed, ScanJobPhase.terminal]

theorem finishEnumeration (directed : Directed phase control inside)
    (awake : control.directive = .pause → phase ≠ .paused) :
    Directed phase control.finishEnumeration inside := by
  constructor <;> grind [Directed, WorkerControlState.finishEnumeration]

/-- A cancelled job is recorded as such while the registry is free. -/
theorem phase_of_cancel (directed : Directed phase control none)
    (isCancelled : control.directive = .cancel) : phase = .cancelling := by
  grind [Directed]

end Directed

namespace Placed

variable {phase : ScanJobPhase} {stage : ScanWorkerStage} {control : WorkerControlState}
  {point : WorkerPoint}

theorem start : Placed .running .enumeration .new .starting := by
  constructor <;> simp [WorkerControlState.new, WorkerPoint.expects, WorkerPoint.enumerationOver,
    WorkerPoint.resumes]

/-! ### Calls -/

theorem pauseAccept (placed : Placed .running stage control point)
    (active : control.enumerationActive = true) (free : control.directive ≠ .cancel) :
    Placed .running stage { control with directive := .pause } point := by
  have expected := placed.expected free
  constructor
  · exact fun _ => rfl
  · exact fun _ => active
  · exact placed.pastEnumeration
  · exact fun _ => expected
  · exact fun _ _ => rfl
  · -- a worker that resumes is not at a job that runs
    cases point <;> grind [WorkerPoint.expects, WorkerPoint.resumes]
  · exact placed.stage

theorem pause (placed : Placed .running stage control point) (unstaged : point.staged = false) :
    Placed .pausing stage control point := by
  refine { placed with expected := ?_ }
  intro free
  have expected := placed.expected free
  cases point <;> grind [WorkerPoint.expects, WorkerPoint.staged]

theorem resumeRequest (placed : Placed .paused stage control point) :
    Placed .resuming stage control point := by
  refine { placed with expected := ?_ }
  intro free
  have expected := placed.expected free
  cases point <;> grind [WorkerPoint.expects]

theorem resume (placed : Placed .resuming stage control point)
    (asked : control.directive = .pause) :
    Placed .resuming stage { control with directive := .continue } point.woken := by
  have free : control.directive ≠ .cancel := by simp [asked]
  constructor
  · exact fun isBlocked => absurd isBlocked point.woken_ne_blocked
  · nofun
  · simpa using placed.pastEnumeration
  · intro _
    rw [WorkerPoint.woken_expects]
    exact placed.expected free
  · intro _ reports
    have expected := placed.expected free
    rw [point.woken_reportPaused.mp reports] at expected
    cases expected
  · exact fun _ _ => rfl
  · simpa using placed.stage

theorem cancel (placed : Placed phase stage control point) :
    Placed phase stage control.cancel point.woken := by
  constructor
  · exact fun isBlocked => absurd isBlocked point.woken_ne_blocked
  · nofun
  · simpa [WorkerControlState.cancel] using placed.pastEnumeration
  · exact fun free => absurd rfl free
  · exact fun free => absurd rfl free
  · exact fun free => absurd rfl free
  · simpa using placed.stage

theorem cancelDone (placed : Placed phase stage control point)
    (isCancelled : control.directive = .cancel) : Placed .cancelling stage control point := by
  refine { placed with expected := ?_ }
  exact fun free => absurd isCancelled free

/-! ### The worker -/

/-- A step of the worker that leaves phase, stage and control alone. -/
theorem move (placed : Placed phase stage control point) {later : WorkerPoint}
    (asleep : later = .blocked → control.directive = .pause)
    (pastEnumeration : later.enumerationOver = true → point.enumerationOver = true)
    (expected : control.directive ≠ .cancel → point.expects phase = true →
      later.expects phase = true)
    (asked : control.directive ≠ .cancel → later = .reportPaused → control.directive = .pause)
    (resumed : control.directive ≠ .cancel → later.resumes = true →
      control.directive = .continue)
    (unstaged : later.staged = false → later.finishes = false →
      point.staged = false ∧ point.finishes = false) :
    Placed phase stage control later where
  asleep := asleep
  opens := placed.opens
  pastEnumeration isOver := placed.pastEnumeration (pastEnumeration isOver)
  expected free := expected free (placed.expected free)
  asked := asked
  resumed := resumed
  stage early unfinished :=
    placed.stage (unstaged early unfinished).1 (unstaged early unfinished).2

theorem finish (placed : Placed phase stage control point) (outcome : ScanOutcome) :
    Placed phase stage control (.finishing outcome) :=
  placed.move nofun nofun (fun _ _ => rfl) nofun nofun nofun

theorem attempt (placed : Placed phase stage control .starting) :
    Placed phase stage control .enumerating :=
  placed.move nofun nofun (fun _ => id) nofun nofun fun _ _ => ⟨rfl, rfl⟩

theorem safePoint (placed : Placed phase stage control .enumerating)
    (asked : control.directive = .pause) : Placed phase stage control .reportPaused :=
  placed.move nofun nofun (fun _ => id) (fun _ _ => asked) nofun fun _ _ => ⟨rfl, rfl⟩

theorem enumerate (placed : Placed phase stage control .enumerating) (status : StreamBatchStatus) :
    Placed phase stage control (.enumerated status) :=
  placed.move nofun nofun (fun _ => id) nofun nofun fun _ _ => ⟨rfl, rfl⟩

theorem block (placed : Placed phase stage control .waiting)
    (asked : control.directive = .pause) : Placed phase stage control .blocked :=
  placed.move (fun _ => asked) nofun (fun _ => id) nofun nofun fun _ _ => ⟨rfl, rfl⟩

theorem wake (placed : Placed phase stage control .blocked) :
    Placed phase stage control .waiting :=
  placed.move nofun nofun (fun _ => id) nofun nofun fun _ _ => ⟨rfl, rfl⟩

/-- `wait_while_paused` returns to a job that resumes or is cancelled. -/
theorem leave (placed : Placed phase stage control .waiting)
    (paused : phase = .paused → control.directive ≠ .continue)
    (awake : control.directive ≠ .pause) : Placed phase stage control .resuming := by
  have goesOn : control.directive ≠ .cancel → control.directive = .continue := by
    cases directive : control.directive with
    | «continue» => exact fun _ => rfl
    | pause => exact absurd directive awake
    | cancel => exact fun free => absurd rfl free
  refine placed.move nofun nofun ?_ nofun (fun free _ => goesOn free) fun _ _ => ⟨rfl, rfl⟩
  intro free expected
  have notPaused : phase ≠ .paused := fun isPaused => paused isPaused (goesOn free)
  simpa [WorkerPoint.expects, notPaused] using expected

theorem consumeCancel (placed : Placed phase stage control .resuming)
    (isCancelled : control.directive = .cancel) : Placed phase stage control .enumerating :=
  placed.move nofun nofun (fun free => absurd isCancelled free) nofun nofun
    fun _ _ => ⟨rfl, rfl⟩

theorem acknowledgeResume (placed : Placed phase stage control .resuming)
    (goesOn : control.directive = .continue) : Placed phase stage control .reportResumed :=
  placed.move nofun nofun (fun _ => id) nofun (fun _ _ => goesOn) fun _ _ => ⟨rfl, rfl⟩

/-- Nobody asks for a pause between the return of the wait and the record of the resume. -/
theorem notPaused (placed : Placed phase stage control .resuming) :
    control.directive ≠ .pause := by
  intro asked
  have goesOn := placed.resumed (by simp [asked]) rfl
  rw [asked] at goesOn
  cases goesOn

/-- After the enumeration nobody can ask for a pause. -/
theorem goesOn (placed : Placed phase stage control point) (isOver : point.enumerationOver = true)
    (free : control.directive ≠ .cancel) : control.directive = .continue := by
  cases directive : control.directive with
  | «continue» => rfl
  | pause =>
      have active := placed.opens directive
      rw [placed.pastEnumeration isOver] at active
      cases active
  | cancel => exact absurd directive free

/-- The enumeration ends: a pause that it did not come to is lifted. -/
theorem finishEnumeration {status : StreamBatchStatus}
    (placed : Placed phase stage control (.enumerated status)) {later : WorkerPoint}
    (expected : (phase == .running || phase == .pausing) = true → later.expects phase = true)
    (after : later = .reportRunning ∨ later = .stopped ∨ ∃ outcome, later = .finishing outcome) :
    Placed phase stage control.finishEnumeration later := by
  have free : control.finishEnumeration.directive ≠ .cancel → control.directive ≠ .cancel := by
    intro isFree isCancelled
    apply isFree
    simp [WorkerControlState.finishEnumeration, isCancelled]
  constructor
  · rintro rfl
    rcases after with isLater | isLater | ⟨_, isLater⟩ <;> cases isLater
  · intro asked
    exfalso
    revert asked
    unfold WorkerControlState.finishEnumeration
    split <;> simp_all
  · exact fun _ => rfl
  · exact fun isFree => expected (placed.expected (free isFree))
  · rintro _ rfl
    rcases after with isLater | isLater | ⟨_, isLater⟩ <;> cases isLater
  · intro _ resumes
    rcases after with isLater | isLater | ⟨_, isLater⟩ <;> rw [isLater] at resumes <;>
      cases resumes
  · exact fun _ _ => placed.stage rfl rfl

/-! ### Records of the worker -/

theorem reportPaused (placed : Placed phase stage control .reportPaused) :
    Placed .paused stage control .waiting where
  asleep := nofun
  opens := placed.opens
  pastEnumeration := nofun
  expected _ := rfl
  asked := nofun
  resumed := nofun
  stage _ _ := placed.stage rfl rfl

theorem reportResumed (placed : Placed phase stage control .reportResumed) :
    Placed .running stage control .enumerating where
  asleep := nofun
  opens := placed.opens
  pastEnumeration := nofun
  expected _ := rfl
  asked := nofun
  resumed := nofun
  stage _ _ := placed.stage rfl rfl

theorem reportRunning (placed : Placed phase stage control .reportRunning) :
    Placed .running stage control (.enterStage .fingerprinting) where
  asleep := nofun
  opens := placed.opens
  pastEnumeration _ := placed.pastEnumeration rfl
  expected _ := rfl
  asked := nofun
  resumed := nofun
  stage := nofun

theorem enterStage {entered : ScanWorkerStage}
    (placed : Placed phase stage control (.enterStage entered)) :
    Placed phase entered control (.inStage entered) where
  asleep := nofun
  opens := placed.opens
  pastEnumeration _ := placed.pastEnumeration rfl
  expected := placed.expected
  asked := nofun
  resumed := nofun
  stage := nofun

theorem nextStage {entered later : ScanWorkerStage}
    (placed : Placed phase stage control (.inStage entered)) :
    Placed phase stage control (.enterStage later) :=
  placed.move nofun (fun _ => rfl) (fun _ => id) nofun nofun nofun

end Placed

end Guiying.Desktop
