import Guiying.Desktop.Gates

/-!
# Scans, exports and quarantine mutations exclude each other

As long as no mutation caller is dropped while its worker executes, each gate
stays shut for as long as the work behind it goes on. A dropped mutation caller
takes its permit with it, and the gate opens under the worker.
-/

namespace Guiying.Desktop

open Guiying.Foundation

namespace Gates

/-- Two kinds of work never go on at one time, and at most one scan job is active. -/
structure Excluded (gates : Gates) : Prop where
  mutationAlone : ∀ caller, (gates.callers caller).mutationWorker = true →
    gates.active = none ∧ gates.running = []
  mutationWorkerAlone : ∀ caller other, (gates.callers caller).mutationWorker = true →
    (gates.callers other).scanWorker = false ∧ (gates.callers other).exportWorker = false ∧
      ((gates.callers other).mutationWorker = true → other = caller)
  exportAlone : ∀ caller, (gates.callers caller).exportWorker = true →
    gates.active = none ∧ ∀ other, (gates.callers other).scanWorker = false
  oneScan : ∀ caller other job otherJob, (gates.callers caller).job = some job →
    (gates.callers other).job = some otherJob → caller = other

/-- No caller of a mutation is dropped while its worker executes. -/
def Attended (gates : Gates) (action : Action) : Prop :=
  ∀ caller operation, action = .abandon caller → gates.callers caller ≠ .mutating operation

end Gates

/-! ## What a point of a caller says of the registries -/

namespace Point

/-- The caller has seen that no scan is active, and still holds the job registry. -/
def seesNoScan : Point → Bool
  | scanAvailable | scanNoExport | scanNoMutation => true
  | exportNoScan _ | exportNoMutation _ | exportReading _ | exportRead _ => true
  | mutationNoScan _ | mutationNoExport _ => true
  | _ => false

def seesNoExport : Point → Bool
  | scanNoExport | scanNoMutation | mutationNoExport _ => true
  | _ => false

def seesNoMutation : Point → Bool
  | scanNoMutation | exportNoMutation _ | exportReading _ | exportRead _ => true
  | _ => false

/-- The worker of a mutation executes and nobody owns the permit. -/
def unattended : Point → Bool
  | mutationAbandoned _ => true
  | _ => false

theorem critical_of_seesNoScan {point : Point} (sees : point.seesNoScan = true) :
    point.critical = true := by
  cases point <;> first | rfl | cases sees

theorem critical_of_seesNoExport {point : Point} (sees : point.seesNoExport = true) :
    point.critical = true := by
  cases point <;> first | rfl | cases sees

theorem critical_of_seesNoMutation {point : Point} (sees : point.seesNoMutation = true) :
    point.critical = true := by
  cases point <;> first | rfl | cases sees

/-- A scan worker executes for a job of its caller. -/
theorem job_of_scanWorker {point : Point} (works : point.scanWorker = true) :
    ∃ job, point.job = some job := by
  cases point with
  | scanning job => exact ⟨job, rfl⟩
  | _ => cases works

theorem lease_of_exportWorker {point : Point} (works : point.exportWorker = true) :
    ∃ entry, point.lease = some entry := by
  cases point with
  | exporting entry => exact ⟨entry, rfl⟩
  | exportAbandoned entry => exact ⟨entry, rfl⟩
  | _ => cases works

theorem permit_of_mutationWorker {point : Point} (works : point.mutationWorker = true)
    (attended : point.unattended = false) : ∃ operation, point.permit = some operation := by
  cases point with
  | mutating operation => exact ⟨operation, rfl⟩
  | mutationAbandoned operation => cases attended
  | _ => cases works

/-- A point that claims nothing of the registries. -/
structure Claimless (point : Point) : Prop where
  job : point.job = none
  lease : point.lease = none
  permit : point.permit = none
  unattended : point.unattended = false

end Point

namespace Gates

/-- What a caller at a point relies on. -/
structure Backed (gates : Gates) (point : Point) : Prop where
  noScan : point.seesNoScan = true → gates.active = none
  noExport : point.seesNoExport = true → gates.running = []
  noMutation : point.seesNoMutation = true → gates.activeOperation = none
  job : ∀ job, point.job = some job → gates.active = some job
  lease : ∀ entry, point.lease = some entry → entry ∈ gates.running
  permit : ∀ operation, point.permit = some operation → gates.activeOperation = some operation
  attended : point.unattended = false

/-- What the registries say of each other. -/
structure Ordered (gates : Gates) : Prop where
  mutationAlone : ∀ operation, gates.activeOperation = some operation →
    gates.active = none ∧ gates.running = []
  scanAlone : ∀ job, gates.active = some job → gates.running = []
  freshTokens : ∀ grant ∈ gates.grants, ∀ entry ∈ gates.running, grant.token ≠ entry.token

/-- No two callers claim the same thing. -/
def Exclusive {β : Type} (claim : Point → Option β) (callers : Caller → Point) : Prop :=
  ∀ caller other value, claim (callers caller) = some value →
    claim (callers other) = some value → caller = other

structure Inv (gates : Gates) : Prop where
  held : ∀ caller, (gates.callers caller).critical = true ↔ gates.holder = some caller
  backed : ∀ caller, gates.Backed (gates.callers caller)
  ordered : gates.Ordered
  oneScan : Exclusive Point.job gates.callers
  oneLease : Exclusive Point.lease gates.callers
  onePermit : Exclusive Point.permit gates.callers

theorem inv_new : new.Inv where
  held caller := by simp [new, Point.critical]
  backed caller := by
    constructor <;> simp [new, Point.seesNoScan, Point.seesNoExport, Point.seesNoMutation,
      Point.job, Point.lease, Point.permit, Point.unattended]
  ordered := by constructor <;> simp [new]
  oneScan caller other value claimed := by cases claimed
  oneLease caller other value claimed := by cases claimed
  onePermit caller other value claimed := by cases claimed

/-! ## From the invariant to the exclusion -/

theorem Inv.permit_of_mutationWorker {gates : Gates} (inv : gates.Inv) {caller : Caller}
    (works : (gates.callers caller).mutationWorker = true) :
    ∃ operation, (gates.callers caller).permit = some operation ∧
      gates.activeOperation = some operation := by
  obtain ⟨operation, permit⟩ :=
    Point.permit_of_mutationWorker works (inv.backed caller).attended
  exact ⟨operation, permit, (inv.backed caller).permit operation permit⟩

theorem Inv.active_of_scanWorker {gates : Gates} (inv : gates.Inv) {caller : Caller}
    (works : (gates.callers caller).scanWorker = true) : ∃ job, gates.active = some job := by
  obtain ⟨job, claimed⟩ := Point.job_of_scanWorker works
  exact ⟨job, (inv.backed caller).job job claimed⟩

theorem Inv.running_of_exportWorker {gates : Gates} (inv : gates.Inv) {caller : Caller}
    (works : (gates.callers caller).exportWorker = true) : gates.running ≠ [] := by
  obtain ⟨entry, claimed⟩ := Point.lease_of_exportWorker works
  exact List.ne_nil_of_mem ((inv.backed caller).lease entry claimed)

theorem Inv.noScanWorker {gates : Gates} (inv : gates.Inv) (idle : gates.active = none)
    (caller : Caller) : (gates.callers caller).scanWorker = false := by
  cases works : (gates.callers caller).scanWorker with
  | false => rfl
  | true =>
      obtain ⟨job, active⟩ := inv.active_of_scanWorker works
      rw [idle] at active
      cases active

theorem Inv.noExportWorker {gates : Gates} (inv : gates.Inv) (idle : gates.running = [])
    (caller : Caller) : (gates.callers caller).exportWorker = false := by
  cases works : (gates.callers caller).exportWorker with
  | false => rfl
  | true => exact absurd idle (inv.running_of_exportWorker works)

/-- A running export keeps scans out. -/
theorem Ordered.idle_of_running {gates : Gates} (ordered : gates.Ordered)
    (running : gates.running ≠ []) : gates.active = none := by
  cases active : gates.active with
  | none => rfl
  | some job => exact absurd (ordered.scanAlone job active) running

theorem Inv.excluded {gates : Gates} (inv : gates.Inv) : gates.Excluded where
  mutationAlone caller works := by
    obtain ⟨operation, _, opened⟩ := inv.permit_of_mutationWorker works
    exact inv.ordered.mutationAlone operation opened
  mutationWorkerAlone caller other works := by
    obtain ⟨operation, permit, opened⟩ := inv.permit_of_mutationWorker works
    have alone := inv.ordered.mutationAlone operation opened
    refine ⟨inv.noScanWorker alone.1 other, inv.noExportWorker alone.2 other, ?_⟩
    intro otherWorks
    obtain ⟨otherOperation, otherPermit, otherOpened⟩ := inv.permit_of_mutationWorker otherWorks
    rw [opened] at otherOpened
    cases otherOpened
    exact inv.onePermit other caller operation otherPermit permit
  exportAlone caller works := by
    have idle := inv.ordered.idle_of_running (inv.running_of_exportWorker works)
    exact ⟨idle, inv.noScanWorker idle⟩
  oneScan caller other job otherJob claimed otherClaimed := by
    have active := (inv.backed caller).job job claimed
    have otherActive := (inv.backed other).job otherJob otherClaimed
    rw [active] at otherActive
    cases otherActive
    exact inv.oneScan caller other job claimed otherClaimed

/-! ## A step of one caller -/

/-- A claim that nobody else makes may be made by the caller that moves. -/
theorem Exclusive.move {β : Type} {claim : Point → Option β} {callers : Caller → Point}
    (exclusive : Exclusive claim callers) {caller : Caller} {point : Point}
    (alone : ∀ value, claim point = some value → ∀ other, other ≠ caller →
      claim (callers other) ≠ some value) :
    Exclusive claim (Function.update callers caller point) := by
  intro first second value firstClaims secondClaims
  by_cases isFirst : first = caller
  · by_cases isSecond : second = caller
    · rw [isFirst, isSecond]
    · subst isFirst
      rw [Function.update_self] at firstClaims
      rw [Function.update_of_ne isSecond] at secondClaims
      exact absurd secondClaims (alone value firstClaims second isSecond)
  · rw [Function.update_of_ne isFirst] at firstClaims
    by_cases isSecond : second = caller
    · subst isSecond
      rw [Function.update_self] at secondClaims
      exact absurd firstClaims (alone value secondClaims first isFirst)
    · rw [Function.update_of_ne isSecond] at secondClaims
      exact exclusive first second value firstClaims secondClaims

/-- The invariant while one caller is about to move: all but what that caller relies on. -/
structure Serves (gates : Gates) (caller : Caller) : Prop where
  held : ∀ other, (gates.callers other).critical = true ↔ gates.holder = some other
  backed : ∀ other, other ≠ caller → gates.Backed (gates.callers other)
  ordered : gates.Ordered
  oneScan : Exclusive Point.job gates.callers
  oneLease : Exclusive Point.lease gates.callers
  onePermit : Exclusive Point.permit gates.callers

/-- Nobody but the caller claims what it will claim at a point. -/
structure Alone (callers : Caller → Point) (caller : Caller) (point : Point) : Prop where
  job : ∀ value, point.job = some value → ∀ other, other ≠ caller →
    (callers other).job ≠ some value
  lease : ∀ value, point.lease = some value → ∀ other, other ≠ caller →
    (callers other).lease ≠ some value
  permit : ∀ value, point.permit = some value → ∀ other, other ≠ caller →
    (callers other).permit ≠ some value

theorem Inv.serves {gates : Gates} (inv : gates.Inv) (caller : Caller) : gates.Serves caller where
  held := inv.held
  backed other _ := inv.backed other
  ordered := inv.ordered
  oneScan := inv.oneScan
  oneLease := inv.oneLease
  onePermit := inv.onePermit

theorem Exclusive.alone {β : Type} {claim : Point → Option β} {callers : Caller → Point}
    (exclusive : Exclusive claim callers) {caller : Caller} {value : β}
    (claims : claim (callers caller) = some value) {other : Caller} (ne : other ≠ caller) :
    claim (callers other) ≠ some value := by
  intro otherClaims
  exact ne (exclusive other caller value otherClaims claims)

/-- A point that relies on no more than an earlier one does. -/
structure Follows (old point : Point) : Prop where
  noScan : point.seesNoScan = true → old.seesNoScan = true
  noExport : point.seesNoExport = true → old.seesNoExport = true
  noMutation : point.seesNoMutation = true → old.seesNoMutation = true
  job : ∀ value, point.job = some value → old.job = some value
  lease : ∀ value, point.lease = some value → old.lease = some value
  permit : ∀ value, point.permit = some value → old.permit = some value
  attended : old.unattended = false → point.unattended = false

theorem Backed.follow {gates : Gates} {old point : Point} (backed : gates.Backed old)
    (follows : Follows old point) : gates.Backed point where
  noScan sees := backed.noScan (follows.noScan sees)
  noExport sees := backed.noExport (follows.noExport sees)
  noMutation sees := backed.noMutation (follows.noMutation sees)
  job value claimed := backed.job value (follows.job value claimed)
  lease value claimed := backed.lease value (follows.lease value claimed)
  permit value claimed := backed.permit value (follows.permit value claimed)
  attended := follows.attended backed.attended

theorem Serves.alone {gates : Gates} {caller : Caller} (serves : gates.Serves caller)
    {point : Point} (follows : Follows (gates.callers caller) point) :
    Alone gates.callers caller point := by
  constructor
  · intro value claimed other ne
    exact serves.oneScan.alone (follows.job value claimed) ne
  · intro value claimed other ne
    exact serves.oneLease.alone (follows.lease value claimed) ne
  · intro value claimed other ne
    exact serves.onePermit.alone (follows.permit value claimed) ne

theorem alone_of_claimless {callers : Caller → Point} {caller : Caller} {point : Point}
    (claimless : point.Claimless) : Alone callers caller point := by
  constructor
  · intro value claimed
    rw [claimless.job] at claimed
    cases claimed
  · intro value claimed
    rw [claimless.lease] at claimed
    cases claimed
  · intro value claimed
    rw [claimless.permit] at claimed
    cases claimed

theorem backed_of_claimless {gates : Gates} {point : Point} (claimless : point.Claimless)
    (noScan : point.seesNoScan = true → gates.active = none)
    (noExport : point.seesNoExport = true → gates.running = [])
    (noMutation : point.seesNoMutation = true → gates.activeOperation = none) :
    gates.Backed point where
  noScan := noScan
  noExport := noExport
  noMutation := noMutation
  job := by simp [claimless.job]
  lease := by simp [claimless.lease]
  permit := by simp [claimless.permit]
  attended := claimless.unattended

/-- A point outside the job registry that claims nothing can always be gone to. -/
theorem backed_outside {gates : Gates} {point : Point} (claimless : point.Claimless)
    (outside : point.critical = false) : gates.Backed point := by
  apply backed_of_claimless claimless
  · intro sees
    rw [Point.critical_of_seesNoScan sees] at outside
    cases outside
  · intro sees
    rw [Point.critical_of_seesNoExport sees] at outside
    cases outside
  · intro sees
    rw [Point.critical_of_seesNoMutation sees] at outside
    cases outside

/-- A caller moves; the mutex is with it or with the others, as the point says. -/
theorem Serves.move {gates : Gates} {caller : Caller} (serves : gates.Serves caller)
    {point : Point} {holder : Option Caller}
    (mine : point.critical = true ↔ holder = some caller)
    (others : ∀ other, other ≠ caller → (gates.holder = some other ↔ holder = some other))
    (own : gates.Backed point) (alone : Alone gates.callers caller point) :
    Inv { gates.goto caller point with holder := holder } where
  held other := by
    by_cases same : other = caller
    · subst same
      simpa [goto] using mine
    · simp only [goto, Function.update_of_ne same]
      exact (serves.held other).trans (others other same)
  backed other := by
    by_cases same : other = caller
    · subst same
      simp only [goto, Function.update_self]
      exact ⟨own.noScan, own.noExport, own.noMutation, own.job, own.lease, own.permit,
        own.attended⟩
    · simp only [goto, Function.update_of_ne same]
      have before := serves.backed other same
      exact ⟨before.noScan, before.noExport, before.noMutation, before.job, before.lease,
        before.permit, before.attended⟩
  ordered :=
    ⟨serves.ordered.mutationAlone, serves.ordered.scanAlone, serves.ordered.freshTokens⟩
  oneScan := serves.oneScan.move alone.job
  oneLease := serves.oneLease.move alone.lease
  onePermit := serves.onePermit.move alone.permit

theorem Serves.goto {gates : Gates} {caller : Caller} (serves : gates.Serves caller)
    {point : Point} (same : point.critical = (gates.callers caller).critical)
    (own : gates.Backed point) (alone : Alone gates.callers caller point) :
    (gates.goto caller point).Inv := by
  have mine : point.critical = true ↔ gates.holder = some caller := by
    rw [same]
    exact serves.held caller
  exact serves.move mine (fun other _ => Iff.rfl) own alone

theorem Serves.release {gates : Gates} {caller : Caller} (serves : gates.Serves caller)
    {point : Point} (holds : (gates.callers caller).critical = true)
    (outside : point.critical = false) (own : gates.Backed point)
    (alone : Alone gates.callers caller point) : (gates.release caller point).Inv := by
  have holder := (serves.held caller).mp holds
  refine serves.move ?_ ?_ own alone
  · simp [outside]
  · intro other ne
    simp [holder, ne.symm]

theorem Serves.acquire {gates next : Gates} {caller : Caller} (serves : gates.Serves caller)
    {point : Point} (inside : point.critical = true) (own : gates.Backed point)
    (alone : Alone gates.callers caller point) (stepped : gates.acquire caller point = some next) :
    next.Inv := by
  unfold Gates.acquire at stepped
  split at stepped
  · rename_i free
    cases stepped
    refine serves.move ?_ ?_ own alone
    · simp [inside]
    · intro other ne
      simp [free, ne.symm]
  · cases stepped

/-! ## Each effect serves the caller that has it -/

/-- Outside the job registry only the claims of a caller count. -/
theorem Backed.outside {gates next : Gates} {point : Point} (backed : gates.Backed point)
    (outside : point.critical = false)
    (job : ∀ job, point.job = some job → next.active = some job)
    (lease : ∀ entry, point.lease = some entry → entry ∈ next.running)
    (permit : ∀ operation, point.permit = some operation →
      next.activeOperation = some operation) : next.Backed point where
  noScan sees := by
    rw [Point.critical_of_seesNoScan sees] at outside
    cases outside
  noExport sees := by
    rw [Point.critical_of_seesNoExport sees] at outside
    cases outside
  noMutation sees := by
    rw [Point.critical_of_seesNoMutation sees] at outside
    cases outside
  job := job
  lease := lease
  permit := permit
  attended := backed.attended

/-- Who else holds the registry that this caller holds? -/
theorem Serves.outside {gates : Gates} {caller other : Caller} (serves : gates.Serves caller)
    (holds : (gates.callers caller).critical = true) (ne : other ≠ caller) :
    (gates.callers other).critical = false := by
  cases critical : (gates.callers other).critical with
  | false => rfl
  | true =>
      have holder := (serves.held caller).mp holds
      rw [(serves.held other).mp critical] at holder
      exact absurd (Option.some.inj holder) ne

/-- An effect on the registries leaves the callers and the mutex where they are. -/
theorem Serves.effect {gates next : Gates} {caller : Caller} (serves : gates.Serves caller)
    (callers : next.callers = gates.callers) (holder : next.holder = gates.holder)
    (backed : ∀ other, other ≠ caller → next.Backed (gates.callers other))
    (ordered : next.Ordered) : next.Serves caller where
  held := by
    rw [callers, holder]
    exact serves.held
  backed := by
    rw [callers]
    exact backed
  ordered := ordered
  oneScan := by
    rw [callers]
    exact serves.oneScan
  oneLease := by
    rw [callers]
    exact serves.oneLease
  onePermit := by
    rw [callers]
    exact serves.onePermit

theorem Serves.reserveJob {gates : Gates} {caller : Caller} (serves : gates.Serves caller)
    (holds : (gates.callers caller).critical = true) (noScan : gates.active = none)
    (noExport : gates.running = []) (noMutation : gates.activeOperation = none) :
    gates.reserveJob.Serves caller := by
  refine serves.effect rfl rfl ?_ ?_
  · intro other ne
    have before := serves.backed other ne
    refine before.outside (serves.outside holds ne) ?_ before.lease before.permit
    intro job claimed
    rw [before.job job claimed] at noScan
    cases noScan
  · constructor
    · intro operation opened
      rw [show gates.reserveJob.activeOperation = gates.activeOperation from rfl,
        noMutation] at opened
      cases opened
    · intro job _
      exact noExport
    · exact serves.ordered.freshTokens

theorem Serves.alone_scanReserved {gates : Gates} {caller : Caller}
    (serves : gates.Serves caller) (noScan : gates.active = none) (job : JobId) :
    Alone gates.callers caller (.scanReserved job) := by
  constructor
  · intro value _ other ne claimed
    rw [(serves.backed other ne).job value claimed] at noScan
    cases noScan
  · intro value claimed
    cases claimed
  · intro value claimed
    cases claimed

theorem Serves.finish {gates : Gates} {caller : Caller} (serves : gates.Serves caller)
    {job : JobId} (stands : gates.callers caller = .finishLocked job) :
    (gates.finish job).Serves caller := by
  have holds : (gates.callers caller).critical = true := by rw [stands]; rfl
  have claims : (gates.callers caller).job = some job := by rw [stands]; rfl
  unfold Gates.finish
  split
  · rename_i active
    refine serves.effect rfl rfl ?_ ?_
    · intro other ne
      have before := serves.backed other ne
      refine before.outside (serves.outside holds ne) ?_ before.lease before.permit
      intro otherJob claimed
      have otherActive := before.job otherJob claimed
      rw [active] at otherActive
      cases otherActive
      exact absurd claimed (serves.oneScan.alone claims ne)
    · constructor
      · intro operation opened
        exact ⟨rfl, (serves.ordered.mutationAlone operation opened).2⟩
      · intro otherJob isActive
        cases isActive
      · exact serves.ordered.freshTokens
  · exact serves

theorem Serves.runExport {gates : Gates} {caller : Caller} (serves : gates.Serves caller)
    (holds : (gates.callers caller).critical = true) (noScan : gates.active = none)
    (noMutation : gates.activeOperation = none) {entry : ExportEntry}
    (granted : entry ∈ gates.grants) : (gates.runExport entry).Serves caller := by
  refine serves.effect rfl rfl ?_ ?_
  · intro other ne
    have before := serves.backed other ne
    refine before.outside (serves.outside holds ne) before.job ?_ before.permit
    intro lease claimed
    have member := before.lease lease claimed
    have differs := serves.ordered.freshTokens entry granted lease member
    simp only [Gates.runExport, List.mem_cons, List.mem_filter]
    exact Or.inr ⟨member, by simpa using differs.symm⟩
  · constructor
    · intro operation opened
      rw [show (gates.runExport entry).activeOperation = gates.activeOperation from rfl,
        noMutation] at opened
      cases opened
    · intro job active
      rw [show (gates.runExport entry).active = gates.active from rfl, noScan] at active
      cases active
    · intro grant grantMember other otherMember
      simp only [Gates.runExport, List.mem_filter, List.mem_cons] at grantMember otherMember
      obtain ⟨isGrant, differs⟩ := grantMember
      cases otherMember with
      | inl isEntry =>
          rw [isEntry]
          simpa using differs
      | inr stays => exact serves.ordered.freshTokens grant isGrant other stays.1

theorem Serves.alone_exportTaken {gates : Gates} {caller : Caller}
    (serves : gates.Serves caller) {entry : ExportEntry} (granted : entry ∈ gates.grants) :
    Alone gates.callers caller (.exportTaken entry) := by
  constructor
  · intro value claimed
    cases claimed
  · intro value claimed other ne otherClaims
    cases claimed
    have running := (serves.backed other ne).lease entry otherClaims
    exact serves.ordered.freshTokens entry granted entry running rfl
  · intro value claimed
    cases claimed

theorem Serves.dropLease {gates : Gates} {caller : Caller} (serves : gates.Serves caller)
    {entry : ExportEntry} (owns : (gates.callers caller).lease = some entry) :
    (gates.dropLease entry).Serves caller := by
  refine serves.effect rfl rfl ?_ ?_
  · intro other ne
    have before := serves.backed other ne
    refine ⟨before.noScan, ?_, before.noMutation, before.job, ?_, before.permit,
      before.attended⟩
    · intro sees
      simp [Gates.dropLease, before.noExport sees]
    · intro lease claimed
      have member := before.lease lease claimed
      have differs : lease ≠ entry := by
        intro same
        rw [same] at claimed
        exact serves.oneLease.alone owns ne claimed
      simp [Gates.dropLease, member, differs]
  · constructor
    · intro operation opened
      have alone := serves.ordered.mutationAlone operation opened
      exact ⟨alone.1, by simp [Gates.dropLease, alone.2]⟩
    · intro job active
      simp [Gates.dropLease, serves.ordered.scanAlone job active]
    · intro grant grantMember other otherMember
      have stays := (List.mem_filter.mp otherMember).1
      exact serves.ordered.freshTokens grant grantMember other stays

theorem Serves.openMutation {gates : Gates} {caller : Caller} (serves : gates.Serves caller)
    (holds : (gates.callers caller).critical = true) (noScan : gates.active = none)
    (noExport : gates.running = []) (noMutation : gates.activeOperation = none)
    (operation : OperationId) : (gates.openMutation operation).Serves caller := by
  refine serves.effect rfl rfl ?_ ?_
  · intro other ne
    have before := serves.backed other ne
    refine before.outside (serves.outside holds ne) before.job before.lease ?_
    intro otherOperation claimed
    rw [before.permit otherOperation claimed] at noMutation
    cases noMutation
  · constructor
    · intro _ _
      exact ⟨noScan, noExport⟩
    · exact serves.ordered.scanAlone
    · exact serves.ordered.freshTokens

theorem Serves.alone_mutationGranted {gates : Gates} {caller : Caller}
    (serves : gates.Serves caller) (noMutation : gates.activeOperation = none)
    (operation : OperationId) : Alone gates.callers caller (.mutationGranted operation) := by
  constructor
  · intro value claimed
    cases claimed
  · intro value claimed
    cases claimed
  · intro value _ other ne claimed
    rw [(serves.backed other ne).permit value claimed] at noMutation
    cases noMutation

theorem Serves.dropPermit {gates : Gates} {caller : Caller} (serves : gates.Serves caller)
    {operation : OperationId} (owns : (gates.callers caller).permit = some operation) :
    (gates.dropPermit operation).Serves caller := by
  unfold Gates.dropPermit
  split
  · rename_i opened
    refine serves.effect rfl rfl ?_ ?_
    · intro other ne
      have before := serves.backed other ne
      refine ⟨before.noScan, before.noExport, fun _ => rfl, before.job, before.lease, ?_,
        before.attended⟩
      intro otherOperation claimed
      have otherOpened := before.permit otherOperation claimed
      rw [opened] at otherOpened
      cases otherOpened
      exact absurd claimed (serves.onePermit.alone owns ne)
    · constructor
      · intro _ isOpen
        cases isOpen
      · exact serves.ordered.scanAlone
      · exact serves.ordered.freshTokens
  · exact serves

/-! ## Every step keeps the invariant -/

theorem claimless_ended : Point.ended.Claimless := ⟨rfl, rfl, rfl, rfl⟩

/-- A call ends with the job registry held. -/
theorem Serves.fail {gates : Gates} {caller : Caller} (serves : gates.Serves caller)
    (holds : (gates.callers caller).critical = true) : (gates.release caller .ended).Inv :=
  serves.release holds rfl (backed_outside claimless_ended rfl) (alone_of_claimless claimless_ended)

/-- A call ends with the job registry free of it. -/
theorem Serves.end {gates : Gates} {caller : Caller} (serves : gates.Serves caller)
    (free : (gates.callers caller).critical = false) : (gates.goto caller .ended).Inv :=
  serves.goto free.symm (backed_outside claimless_ended rfl) (alone_of_claimless claimless_ended)

theorem Serves.check {gates : Gates} {caller : Caller} (serves : gates.Serves caller)
    (holds : (gates.callers caller).critical = true) {condition : Bool} {passed : Point}
    (inside : passed.critical = true) (claimless : passed.Claimless)
    (own : condition = true → gates.Backed passed) :
    (gates.check caller condition passed).Inv := by
  unfold Gates.check
  split
  · rename_i isTrue
    exact serves.goto (inside.trans holds.symm) (own isTrue) (alone_of_claimless claimless)
  · exact serves.fail holds

/-- A caller that awaits the job registry gets it. -/
theorem Inv.enter {gates next : Gates} (inv : gates.Inv) {caller : Caller} {old point : Point}
    (stands : gates.callers caller = old) (inside : point.critical = true)
    (follows : Follows old point) (stepped : gates.acquire caller point = some next) :
    next.Inv := by
  subst stands
  have serves := inv.serves caller
  exact serves.acquire inside ((inv.backed caller).follow follows) (serves.alone follows) stepped

/-- A caller goes on with what it has. -/
theorem Inv.follow {gates : Gates} (inv : gates.Inv) {caller : Caller} {old point : Point}
    (stands : gates.callers caller = old) (same : point.critical = old.critical)
    (follows : Follows old point) : (gates.goto caller point).Inv := by
  subst stands
  have serves := inv.serves caller
  exact serves.goto same ((inv.backed caller).follow follows) (serves.alone follows)

/-- A caller lets the job registry go and keeps what it claims. -/
theorem Inv.leave {gates : Gates} (inv : gates.Inv) {caller : Caller} {old point : Point}
    (stands : gates.callers caller = old) (holds : old.critical = true)
    (outside : point.critical = false) (follows : Follows old point) :
    (gates.release caller point).Inv := by
  subst stands
  have serves := inv.serves caller
  exact serves.release holds outside ((inv.backed caller).follow follows) (serves.alone follows)

/-- A check made with the job registry held. -/
theorem Inv.check {gates : Gates} (inv : gates.Inv) {caller : Caller} {old passed : Point}
    (stands : gates.callers caller = old) (holds : old.critical = true) {condition : Bool}
    (inside : passed.critical = true) (claimless : passed.Claimless)
    (noScan : condition = true → gates.Backed old → passed.seesNoScan = true →
      gates.active = none)
    (noExport : condition = true → gates.Backed old → passed.seesNoExport = true →
      gates.running = [])
    (noMutation : condition = true → gates.Backed old → passed.seesNoMutation = true →
      gates.activeOperation = none) : (gates.check caller condition passed).Inv := by
  subst stands
  apply (inv.serves caller).check holds inside claimless
  intro isTrue
  have own := inv.backed caller
  exact backed_of_claimless claimless (noScan isTrue own) (noExport isTrue own)
    (noMutation isTrue own)

theorem Inv.reserve {gates : Gates} (inv : gates.Inv) {caller : Caller}
    (stands : gates.callers caller = .scanNoMutation) :
    (gates.reserveJob.goto caller (.scanReserved gates.nextJob)).Inv := by
  have serves := inv.serves caller
  have own := inv.backed caller
  have holds : (gates.callers caller).critical = true := by rw [stands]; rfl
  rw [stands] at own
  have noScan := own.noScan rfl
  have reserved := serves.reserveJob holds noScan (own.noExport rfl) (own.noMutation rfl)
  refine reserved.goto holds.symm ?_ (serves.alone_scanReserved noScan _)
  exact ⟨nofun, nofun, nofun, fun _ claimed => claimed, nofun, nofun, rfl⟩

theorem Inv.finished {gates : Gates} (inv : gates.Inv) {caller : Caller} {job : JobId}
    (stands : gates.callers caller = .finishLocked job) :
    ((gates.finish job).release caller .ended).Inv := by
  have served := (inv.serves caller).finish stands
  have callers : (gates.finish job).callers = gates.callers := by
    unfold finish
    split <;> rfl
  apply served.fail
  rw [callers, stands]
  rfl

theorem Inv.take {gates : Gates} (inv : gates.Inv) {caller : Caller} {entry : ExportEntry}
    (stands : gates.callers caller = .exportRead entry) (granted : entry ∈ gates.grants) :
    ((gates.runExport entry).goto caller (.exportTaken entry)).Inv := by
  have serves := inv.serves caller
  have own := inv.backed caller
  have holds : (gates.callers caller).critical = true := by rw [stands]; rfl
  rw [stands] at own
  have taken := serves.runExport holds (own.noScan rfl) (own.noMutation rfl) granted
  refine taken.goto holds.symm ?_ (serves.alone_exportTaken granted)
  refine ⟨nofun, nofun, nofun, nofun, ?_, nofun, rfl⟩
  intro lease claimed
  cases claimed
  exact List.mem_cons_self

theorem Inv.grant {gates : Gates} (inv : gates.Inv) {caller : Caller} {operation : OperationId}
    (stands : gates.callers caller = .mutationNoExport operation)
    (noMutation : gates.activeOperation = none) :
    ((gates.openMutation operation).goto caller (.mutationGranted operation)).Inv := by
  have serves := inv.serves caller
  have own := inv.backed caller
  have holds : (gates.callers caller).critical = true := by rw [stands]; rfl
  rw [stands] at own
  have opened := serves.openMutation holds (own.noScan rfl) (own.noExport rfl) noMutation operation
  refine opened.goto holds.symm ?_ (serves.alone_mutationGranted noMutation operation)
  exact ⟨nofun, nofun, nofun, nofun, nofun, fun _ claimed => claimed, rfl⟩

/-- The lease of a call that is over is dropped. -/
theorem Inv.returnLease {gates : Gates} (inv : gates.Inv) {caller : Caller}
    {entry : ExportEntry} (free : (gates.callers caller).critical = false)
    (owns : (gates.callers caller).lease = some entry) :
    ((gates.dropLease entry).goto caller .ended).Inv :=
  ((inv.serves caller).dropLease owns).end free

theorem Inv.returnPermit {gates : Gates} (inv : gates.Inv) {caller : Caller}
    {operation : OperationId} (free : (gates.callers caller).critical = false)
    (owns : (gates.callers caller).permit = some operation) :
    ((gates.dropPermit operation).goto caller .ended).Inv := by
  have served := (inv.serves caller).dropPermit owns
  have callers : (gates.dropPermit operation).callers = gates.callers := by
    unfold dropPermit
    split <;> rfl
  apply served.end
  rw [callers]
  exact free

/-! ### The points of a call -/

section Advance

variable {gates next : Gates} (inv : gates.Inv) {caller : Caller} {ok : Bool}
  (stepped : gates.advance caller ok = some next)

include inv stepped

theorem Inv.advance_scanLocked (stands : gates.callers caller = .scanLocked) : next.Inv := by
  unfold Gates.advance at stepped
  rw [stands] at stepped
  cases stepped
  apply inv.check stands rfl rfl ⟨rfl, rfl, rfl, rfl⟩
  · intro free _ _
    exact Option.isNone_iff_eq_none.mp (Bool.and_eq_true_iff.mp free).1
  · exact nofun
  · exact nofun

theorem Inv.advance_scanAvailable (stands : gates.callers caller = .scanAvailable) : next.Inv := by
  unfold Gates.advance at stepped
  rw [stands] at stepped
  cases stepped
  apply inv.check stands rfl rfl ⟨rfl, rfl, rfl, rfl⟩
  · exact fun _ own _ => own.noScan rfl
  · exact fun free _ _ => List.isEmpty_iff.mp free
  · exact nofun

theorem Inv.advance_scanNoExport (stands : gates.callers caller = .scanNoExport) : next.Inv := by
  unfold Gates.advance at stepped
  rw [stands] at stepped
  cases stepped
  apply inv.check stands rfl rfl ⟨rfl, rfl, rfl, rfl⟩
  · exact fun _ own _ => own.noScan rfl
  · exact fun _ own _ => own.noExport rfl
  · exact fun free _ _ => Option.isNone_iff_eq_none.mp free

theorem Inv.advance_scanNoMutation (stands : gates.callers caller = .scanNoMutation) :
    next.Inv := by
  have serves := inv.serves caller
  unfold Gates.advance at stepped
  rw [stands] at stepped
  cases ok with
  | false =>
      cases stepped
      apply serves.fail
      rw [stands]
      rfl
  | true =>
      cases stepped
      exact inv.reserve stands

theorem Inv.advance_exportLocked {token : ExportToken}
    (stands : gates.callers caller = .exportLocked token) : next.Inv := by
  unfold Gates.advance at stepped
  rw [stands] at stepped
  cases stepped
  apply inv.check stands rfl rfl ⟨rfl, rfl, rfl, rfl⟩
  · exact fun free _ _ => Option.isNone_iff_eq_none.mp free
  · exact nofun
  · exact nofun

theorem Inv.advance_exportNoScan {token : ExportToken}
    (stands : gates.callers caller = .exportNoScan token) : next.Inv := by
  unfold Gates.advance at stepped
  rw [stands] at stepped
  cases stepped
  apply inv.check stands rfl rfl ⟨rfl, rfl, rfl, rfl⟩
  · exact fun _ own _ => own.noScan rfl
  · exact nofun
  · exact fun free _ _ => Option.isNone_iff_eq_none.mp free

theorem Inv.advance_exportNoMutation {token : ExportToken}
    (stands : gates.callers caller = .exportNoMutation token) : next.Inv := by
  have serves := inv.serves caller
  unfold Gates.advance at stepped
  rw [stands] at stepped
  simp only at stepped
  split at stepped
  · cases stepped
    apply serves.fail
    rw [stands]
    rfl
  · cases stepped
    apply inv.check stands rfl rfl ⟨rfl, rfl, rfl, rfl⟩
    · exact fun _ own _ => own.noScan rfl
    · exact nofun
    · exact fun _ own _ => own.noMutation rfl

theorem Inv.advance_exportReading {entry : ExportEntry}
    (stands : gates.callers caller = .exportReading entry) : next.Inv := by
  unfold Gates.advance at stepped
  rw [stands] at stepped
  cases stepped
  apply inv.check stands rfl rfl ⟨rfl, rfl, rfl, rfl⟩
  · exact fun _ own _ => own.noScan rfl
  · exact nofun
  · exact fun _ own _ => own.noMutation rfl

theorem Inv.advance_exportRead {entry : ExportEntry}
    (stands : gates.callers caller = .exportRead entry) : next.Inv := by
  have serves := inv.serves caller
  unfold Gates.advance at stepped
  rw [stands] at stepped
  simp only at stepped
  split at stepped
  · rename_i granted
    cases stepped
    exact inv.take stands granted.2
  · cases stepped
    apply serves.fail
    rw [stands]
    rfl

theorem Inv.advance_exporting {entry : ExportEntry}
    (stands : gates.callers caller = .exporting entry) : next.Inv := by
  unfold Gates.advance at stepped
  rw [stands] at stepped
  cases ok with
  | false =>
      cases stepped
      exact inv.returnLease (by rw [stands]; rfl) (by rw [stands]; rfl)
  | true =>
      cases stepped
      exact inv.follow stands rfl ⟨id, id, id, fun _ => id, fun _ => id, fun _ => id, id⟩

theorem Inv.advance_mutationLocked {operation : OperationId}
    (stands : gates.callers caller = .mutationLocked operation) : next.Inv := by
  unfold Gates.advance at stepped
  rw [stands] at stepped
  cases stepped
  apply inv.check stands rfl rfl ⟨rfl, rfl, rfl, rfl⟩
  · exact fun free _ _ => Option.isNone_iff_eq_none.mp free
  · exact nofun
  · exact nofun

theorem Inv.advance_mutationNoScan {operation : OperationId}
    (stands : gates.callers caller = .mutationNoScan operation) : next.Inv := by
  unfold Gates.advance at stepped
  rw [stands] at stepped
  cases stepped
  apply inv.check stands rfl rfl ⟨rfl, rfl, rfl, rfl⟩
  · exact fun _ own _ => own.noScan rfl
  · exact fun free _ _ => List.isEmpty_iff.mp free
  · exact nofun

theorem Inv.advance_mutationNoExport {operation : OperationId}
    (stands : gates.callers caller = .mutationNoExport operation) : next.Inv := by
  have serves := inv.serves caller
  unfold Gates.advance at stepped
  rw [stands] at stepped
  simp only at stepped
  split at stepped
  · rename_i free
    cases stepped
    exact inv.grant stands (Option.isNone_iff_eq_none.mp free)
  · cases stepped
    apply serves.fail
    rw [stands]
    rfl

theorem Inv.advance_mutationPreparing {operation : OperationId}
    (stands : gates.callers caller = .mutationPreparing operation) : next.Inv := by
  unfold Gates.advance at stepped
  rw [stands] at stepped
  cases ok with
  | false =>
      cases stepped
      exact inv.returnPermit (by rw [stands]; rfl) (by rw [stands]; rfl)
  | true =>
      cases stepped
      exact inv.follow stands rfl ⟨id, id, id, fun _ => id, fun _ => id, fun _ => id, id⟩

theorem Inv.advance : next.Inv := by
  cases stands : gates.callers caller with
  | unused | ended =>
      unfold Gates.advance at stepped
      rw [stands] at stepped
      cases stepped
  | scanQueued | finishQueued | exportQueued | mutationQueued =>
      unfold Gates.advance at stepped
      rw [stands] at stepped
      refine inv.enter stands ?_ ?_ stepped
      · rfl
      · exact ⟨id, id, id, fun _ => id, fun _ => id, fun _ => id, id⟩
  | scanLocked => exact inv.advance_scanLocked stepped stands
  | scanAvailable => exact inv.advance_scanAvailable stepped stands
  | scanNoExport => exact inv.advance_scanNoExport stepped stands
  | scanNoMutation => exact inv.advance_scanNoMutation stepped stands
  | scanReserved job | exportTaken entry | mutationGranted operation =>
      unfold Gates.advance at stepped
      rw [stands] at stepped
      cases stepped
      exact inv.leave stands rfl rfl ⟨id, id, id, fun _ => id, fun _ => id, fun _ => id, id⟩
  | scanning job | mutating operation =>
      unfold Gates.advance at stepped
      rw [stands] at stepped
      cases stepped
      exact inv.follow stands rfl ⟨id, id, id, fun _ => id, fun _ => id, fun _ => id, id⟩
  | finishLocked job =>
      unfold Gates.advance at stepped
      rw [stands] at stepped
      cases stepped
      exact inv.finished stands
  | exportLocked token => exact inv.advance_exportLocked stepped stands
  | exportNoScan token => exact inv.advance_exportNoScan stepped stands
  | exportNoMutation token => exact inv.advance_exportNoMutation stepped stands
  | exportReading entry => exact inv.advance_exportReading stepped stands
  | exportRead entry => exact inv.advance_exportRead stepped stands
  | exporting entry => exact inv.advance_exporting stepped stands
  | exportAbandoned entry | exportFinishing entry =>
      unfold Gates.advance at stepped
      rw [stands] at stepped
      cases stepped
      exact inv.returnLease (by rw [stands]; rfl) (by rw [stands]; rfl)
  | mutationLocked operation => exact inv.advance_mutationLocked stepped stands
  | mutationNoScan operation => exact inv.advance_mutationNoScan stepped stands
  | mutationNoExport operation => exact inv.advance_mutationNoExport stepped stands
  | mutationPreparing operation => exact inv.advance_mutationPreparing stepped stands
  | mutationAbandoned operation =>
      have attended := (inv.backed caller).attended
      rw [stands] at attended
      cases attended
  | mutated operation =>
      unfold Gates.advance at stepped
      rw [stands] at stepped
      cases stepped
      exact inv.returnPermit (by rw [stands]; rfl) (by rw [stands]; rfl)

end Advance

theorem Inv.abandon {gates next : Gates} (inv : gates.Inv) {caller : Caller}
    (attended : ∀ operation, gates.callers caller ≠ .mutating operation)
    (stepped : gates.abandon caller = some next) : next.Inv := by
  have serves := inv.serves caller
  unfold Gates.abandon at stepped
  cases stands : gates.callers caller with
  | scanQueued | exportQueued token | mutationQueued operation =>
      rw [stands] at stepped
      cases stepped
      apply serves.end
      rw [stands]
      rfl
  | exportReading entry =>
      rw [stands] at stepped
      cases stepped
      apply serves.fail
      rw [stands]
      rfl
  | exporting entry =>
      rw [stands] at stepped
      cases stepped
      exact inv.follow stands rfl ⟨id, id, id, fun _ => id, fun _ => id, fun _ => id, id⟩
  | exportFinishing entry =>
      rw [stands] at stepped
      cases stepped
      exact inv.returnLease (by rw [stands]; rfl) (by rw [stands]; rfl)
  | mutationPreparing operation =>
      rw [stands] at stepped
      cases stepped
      exact inv.returnPermit (by rw [stands]; rfl) (by rw [stands]; rfl)
  | mutating operation => exact absurd stands (attended operation)
  | _ =>
      rw [stands] at stepped
      cases stepped

/-- Grants come and go without a caller that moves. -/
theorem Inv.regrant {gates : Gates} (inv : gates.Inv) {grants : List ExportEntry}
    (generation : Nat)
    (fresh : ∀ grant ∈ grants, ∀ entry ∈ gates.running, grant.token ≠ entry.token) :
    Inv { gates with grants := grants, nextGeneration := generation } where
  held := inv.held
  backed caller := by
    have before := inv.backed caller
    exact ⟨before.noScan, before.noExport, before.noMutation, before.job, before.lease,
      before.permit, before.attended⟩
  ordered := ⟨inv.ordered.mutationAlone, inv.ordered.scanAlone, fresh⟩
  oneScan := inv.oneScan
  oneLease := inv.oneLease
  onePermit := inv.onePermit

theorem Inv.acknowledge {gates : Gates} (inv : gates.Inv) :
    Inv { gates with resultPending := false } where
  held := inv.held
  backed caller := by
    have before := inv.backed caller
    exact ⟨before.noScan, before.noExport, before.noMutation, before.job, before.lease,
      before.permit, before.attended⟩
  ordered := ⟨inv.ordered.mutationAlone, inv.ordered.scanAlone, inv.ordered.freshTokens⟩
  oneScan := inv.oneScan
  oneLease := inv.oneLease
  onePermit := inv.onePermit

theorem Inv.step {gates next : Gates} {action : Action} (inv : gates.Inv)
    (attended : gates.Attended action) (stepped : gates.step action = some next) : next.Inv := by
  cases action with
  | request caller request =>
      simp only [Gates.step] at stepped
      split at stepped
      · rename_i unused
        cases stepped
        apply inv.follow unused
        · cases request <;> rfl
        · cases request <;> exact ⟨id, id, id, fun _ => id, fun _ => id, fun _ => id, id⟩
      · cases stepped
  | advance caller ok => exact inv.advance stepped
  | abandon caller => exact inv.abandon (fun operation => attended caller operation rfl) stepped
  | issueGrant token =>
      simp only [Gates.step] at stepped
      split at stepped
      · cases stepped
      · rename_i unknown
        cases stepped
        apply inv.regrant
        intro grant member entry running
        cases List.mem_cons.mp member with
        | inl isNew =>
            intro same
            apply unknown
            rw [List.any_eq_true]
            refine ⟨entry, List.mem_append_right _ running, ?_⟩
            rw [isNew] at same
            exact decide_eq_true same.symm
        | inr old => exact inv.ordered.freshTokens grant old entry running
  | dropGrant token =>
      cases stepped
      apply inv.regrant gates.nextGeneration
      intro grant member entry running
      exact inv.ordered.freshTokens grant (List.mem_filter.mp member).1 entry running
  | acknowledge =>
      simp only [Gates.step] at stepped
      split at stepped
      · cases stepped
        exact inv.acknowledge
      · cases stepped

end Gates

/-- While every mutation caller waits for its worker, the three kinds of work exclude each other
in every order of the steps. -/
theorem excluded_of_attended (gates : Gates) (reached : gateMachine.Reaches Gates.Attended gates) :
    gates.Excluded := by
  have inv : gates.Inv := by
    refine reached.invariant Gates.inv_new ?_
    intro state action next before attended stepped
    exact before.step attended stepped
  exact inv.excluded

/-- Caller `0` quarantines: it has its permit and awaits its worker. -/
def quarantineRun : List Action :=
  .request 0 (.mutation 7) :: List.replicate 6 (.advance 0 true)

/-- The quarantine is dropped while its worker executes, and caller `1` scans. -/
def droppedRun : List Action :=
  quarantineRun ++ [.abandon 0, .request 1 .scan] ++ List.replicate 6 (.advance 1 true)

theorem quarantineRun_works : ∃ gates, gateMachine.after .new quarantineRun = some gates ∧
    gates.callers 0 = .mutating 7 := ⟨_, rfl, rfl⟩

theorem droppedRun_works : ∃ gates, gateMachine.after .new droppedRun = some gates ∧
    gates.callers 0 = .mutationAbandoned 7 ∧ gates.callers 1 = .scanning 0 ∧
    gates.active = some 0 := ⟨_, rfl, rfl, rfl, rfl⟩

theorem excluded_quarantineRun : ∃ gates, gateMachine.after .new quarantineRun = some gates ∧
    gates.callers 0 = .mutating 7 ∧ gates.Excluded := by
  obtain ⟨gates, ran, works⟩ := quarantineRun_works
  have start : gateMachine.Reaches Gates.Attended Gates.new := .init
  have reached := start.after ran (by
    intro state action member caller operation isAbandon
    subst isAbandon
    simp [quarantineRun] at member)
  exact ⟨gates, ran, works, excluded_of_attended gates reached⟩

/-- A scan is active over the worker of the quarantine that was dropped. -/
theorem not_excluded_droppedRun :
    ¬ ∀ gates, gateMachine.Reachable gates → gates.Excluded := by
  intro excluded
  obtain ⟨gates, ran, works, _, active⟩ := droppedRun_works
  have start : gateMachine.Reachable Gates.new := .init
  have reached := start.after ran fun _ _ _ => trivial
  have alone := (excluded gates reached).mutationAlone 0 (by rw [works]; rfl)
  rw [active] at alone
  cases alone.1

end Guiying.Desktop
