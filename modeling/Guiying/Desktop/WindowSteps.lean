import Guiying.Desktop.WindowFacts

/-!
# What one step does to a window

Every call but the handler of a closing window leaves a closed window without
what it does not have. This is said once for each group of calls, registry by
registry, and then holds of every step.
-/

namespace Guiying.Desktop

open Guiying.Foundation

namespace DeskPoint

/-- The permit of a selection whose dialog is over. -/
def awaits : DeskPoint → Option PendingExportSelection
  | validated permit | checked permit => some permit
  | _ => none

/-- How far the handler of a closing window has come. -/
def passed : DeskPoint → Nat
  | closeTombstone => 1
  | closeExports => 2
  | closeReads => 3
  | closeScan => 4
  | closeQuarantine => 5
  | closed => 6
  | _ => 0

/-- What a call carries is its owner's. -/
def Fits (sequence : Nat) (owner : Window) : DeskPoint → Prop
  | openPermitted permit => permit.ownerWindowLabel = owner
  | reading lease | exportStarted lease => lease.ownerWindowLabel = owner
  | selecting binding _ => binding.ownerWindowLabel = owner
  | choosing permit | validated permit | checked permit =>
      permit.binding.ownerWindowLabel = owner ∧ permit.sequence ≤ sequence
  | exportFound grant => grant.binding.ownerWindowLabel = owner
  | exportLeased grant lease =>
      grant.binding.ownerWindowLabel = owner ∧ lease.ownerWindowLabel = owner
  | _ => True

theorem Fits.mono {sequence later : Nat} {owner : Window} {point : DeskPoint}
    (fits : point.Fits sequence owner) (le : sequence ≤ later) : point.Fits later owner := by
  cases point <;> simp only [Fits] at fits ⊢
  all_goals first
    | exact fits
    | exact ⟨fits.1, fits.2.trans le⟩

theorem Fits.of_awaits {sequence : Nat} {owner : Window} {point : DeskPoint}
    {permit : PendingExportSelection} (fits : point.Fits sequence owner)
    (awaits : point.awaits = some permit) :
    permit.binding.ownerWindowLabel = owner ∧ permit.sequence ≤ sequence := by
  cases point with
  | validated _ =>
      cases awaits
      exact fits
  | checked _ =>
      cases awaits
      exact fits
  | _ => cases awaits

end DeskPoint

/-! ## What a window is rid of -/

/-- No grant, no run that goes on, and no permit that still counts. -/
structure ExportsGone (desk : Desk) (window : Window) : Prop where
  grants : ¬ desk.exports.Grants window
  stopped : desk.exports.Stopped window
  unpending : ∀ caller permit, (desk.callers caller).ownerWindowLabel = window →
    (desk.callers caller).point.awaits = some permit → permit ∉ desk.exports.pendingSelections

/-- A scan of the window has its cancel directive, and none is about to begin. -/
structure ScanStopped (desk : Desk) (window : Window) : Prop where
  cancelled : ∀ active, desk.scan = some active → active.ownerWindowLabel = window →
    active.control.directive = .cancel
  unstarted : ∀ caller, (desk.callers caller).ownerWindowLabel = window →
    (desk.callers caller).point ≠ .scanConsumed

/-- Every permit that a window of `next` waits with it waited with before. -/
def Tame (desk next : Desk) (window : Window) : Prop :=
  ∀ caller permit, (next.callers caller).ownerWindowLabel = window →
    (next.callers caller).point.awaits = some permit →
      (desk.callers caller).ownerWindowLabel = window ∧
        (desk.callers caller).point.awaits = some permit

theorem ExportsGone.narrow {desk next : Desk} {window : Window} (gone : ExportsGone desk window)
    (narrows : HistoryExportRegistry.Narrows desk.exports next.exports)
    (tame : Tame desk next window) : ExportsGone next window := by
  constructor
  · exact narrows.not_grants gone.grants
  · exact narrows.stopped gone.stopped
  · intro caller permit owned awaits
    obtain ⟨before, awaited⟩ := tame caller permit owned awaits
    exact narrows.not_pending (gone.unpending caller permit before awaited)

/-! ## Calls -/

/-- A call of `owner` goes on from `point` to `target`. -/
structure Goes (desk next : Desk) (caller : Caller) (owner : Window) (point target : DeskPoint) :
    Prop where
  callers : next.callers = Function.update desk.callers caller ⟨owner, target⟩
  owners : next.owners = desk.owners
  deferredReads : next.deferredReads = desk.deferredReads
  deferredScans : next.deferredScans = desk.deferredScans
  passed : target.passed = 0
  fits : target.Fits next.exports.nextSelectionSequence owner
  sequence : desk.exports.nextSelectionSequence ≤ next.exports.nextSelectionSequence
  reads : ∀ window, (desk.owners window).closed = true → next.reads.Owns window →
    desk.reads.Owns window
  exports : ∀ window, (desk.owners window).closed = true → ExportsGone desk window →
    ExportsGone next window
  roots : ∀ window, (point = .queued .selectRoot → owner ≠ window) → next.roots.Owns window →
    desk.roots.Owns window
  scan : ∀ window, ¬ desk.roots.Owns window → ScanStopped desk window → ScanStopped next window
  quarantine : ∀ window, next.quarantine.Serves window → desk.quarantine.Serves window
  gained : target.gained = true → (desk.owners owner).closed = false ∨
    ¬ ExportsGone desk owner ∨ desk.quarantine.Serves owner
  holds : target.holds = true → next.holder = some caller
  holder : ∀ other, point.holds = false → desk.holder = some other → next.holder = some other

/-- A call that carries nothing on. -/
structure Plain (sequence : Nat) (owner : Window) (target : DeskPoint) : Prop where
  passed : target.passed = 0
  awaits : target.awaits = none
  unscanned : target ≠ .scanConsumed
  fits : target.Fits sequence owner

theorem plain_ended (sequence : Nat) (owner : Window) : Plain sequence owner .ended := by
  refine ⟨rfl, rfl, ?_, trivial⟩
  intro same
  cases same

section Calls

variable {desk : Desk} {caller : Caller} {owner : Window} {point target : DeskPoint}

theorem Desk.goto_callers (here : desk.callers caller = ⟨owner, point⟩) :
    (desk.goto caller target).callers = Function.update desk.callers caller ⟨owner, target⟩ := by
  unfold Desk.goto
  rw [here]

/-- A fact of each caller that the others had and the one that goes on has. -/
theorem forall_update (holds : Caller → DeskCall → Prop) {call : DeskCall}
    (acting : holds caller call) (others : ∀ other, other ≠ caller → holds other
      (desk.callers other)) (other : Caller) :
    holds other (Function.update desk.callers caller call other) := by
  by_cases same : other = caller
  · subst same
    rw [Function.update_self]
    exact acting
  · rw [Function.update_of_ne same]
    exact others other same

theorem tame_of_callers {next : Desk} {window : Window}
    (callers : next.callers = Function.update desk.callers caller ⟨owner, target⟩)
    (here : desk.callers caller = ⟨owner, point⟩)
    (awaits : ∀ permit, owner = window → target.awaits = some permit →
      point.awaits = some permit) : Tame desk next window := by
  intro other permit
  rw [callers]
  refine forall_update (fun other call => call.ownerWindowLabel = window →
    call.point.awaits = some permit → (desk.callers other).ownerWindowLabel = window ∧
      (desk.callers other).point.awaits = some permit) ?_ ?_ other
  · intro owned awaiting
    rw [here]
    exact ⟨owned, awaits permit owned awaiting⟩
  · intro other _ owned awaiting
    exact ⟨owned, awaiting⟩

theorem ScanStopped.of_callers {next : Desk} {window : Window} (stopped : ScanStopped desk window)
    (callers : next.callers = Function.update desk.callers caller ⟨owner, target⟩)
    (scan : next.scan = desk.scan) (unscanned : owner = window → target ≠ .scanConsumed) :
    ScanStopped next window := by
  constructor
  · rw [scan]
    exact stopped.cancelled
  · rw [callers]
    exact forall_update (fun _ call => call.ownerWindowLabel = window →
      call.point ≠ .scanConsumed) unscanned fun other _ => stopped.unstarted other

/-- A call that changes result reads, exports and the lock. -/
theorem Goes.results {reads : ResultReadRegistry} {exports : HistoryExportRegistry}
    {holder : Option Caller} (here : desk.callers caller = ⟨owner, point⟩)
    (unscanned : target ≠ .scanConsumed) (passed : target.passed = 0)
    (fits : target.Fits exports.nextSelectionSequence owner)
    (sequence : desk.exports.nextSelectionSequence ≤ exports.nextSelectionSequence)
    (keepsReads : ∀ window, (desk.owners window).closed = true → reads.Owns window →
      desk.reads.Owns window)
    (keepsExports : ∀ window, (desk.owners window).closed = true → ExportsGone desk window →
      ExportsGone { desk.goto caller target with reads, exports, holder } window)
    (gained : target.gained = true → (desk.owners owner).closed = false ∨
      ¬ ExportsGone desk owner ∨ desk.quarantine.Serves owner)
    (holds : target.holds = true → holder = some caller)
    (keepsHolder : ∀ other, point.holds = false → desk.holder = some other →
      holder = some other) :
    Goes desk { desk.goto caller target with reads, exports, holder } caller owner point
      target where
  callers := Desk.goto_callers here
  owners := rfl
  deferredReads := rfl
  deferredScans := rfl
  passed := passed
  fits := fits
  sequence := sequence
  reads := keepsReads
  exports := keepsExports
  roots := fun _ _ owns => owns
  scan := fun _ _ stopped =>
    stopped.of_callers (Desk.goto_callers here) rfl fun _ => unscanned
  quarantine := fun _ serves => serves
  gained := gained
  holds := holds
  holder := keepsHolder

/-- The same, when the exports only narrow. -/
theorem Goes.narrowing {reads : ResultReadRegistry} {exports : HistoryExportRegistry}
    {holder : Option Caller} (here : desk.callers caller = ⟨owner, point⟩)
    (plain : Plain desk.exports.nextSelectionSequence owner target)
    (keepsReads : ∀ window, (desk.owners window).closed = true → reads.Owns window →
      desk.reads.Owns window)
    (narrows : HistoryExportRegistry.Narrows desk.exports exports)
    (gained : target.gained = true → (desk.owners owner).closed = false)
    (holds : target.holds = true → holder = some caller)
    (keepsHolder : ∀ other, point.holds = false → desk.holder = some other →
      holder = some other) :
    Goes desk { desk.goto caller target with reads, exports, holder } caller owner point
      target := by
  apply Goes.results here plain.unscanned plain.passed
  · exact plain.fits.mono (le_of_eq narrows.sequence.symm)
  · exact le_of_eq narrows.sequence.symm
  · exact keepsReads
  · intro window _ gone
    refine gone.narrow narrows (tame_of_callers (Desk.goto_callers here) here ?_)
    intro permit _ awaiting
    rw [plain.awaits] at awaiting
    cases awaiting
  · exact fun new => .inl (gained new)
  · exact holds
  · exact keepsHolder

/-- Only result reads change, and no lock is held before or after. -/
theorem Goes.reading {reads : ResultReadRegistry} (here : desk.callers caller = ⟨owner, point⟩)
    (plain : Plain desk.exports.nextSelectionSequence owner target)
    (free : target.holds = false)
    (keepsReads : ∀ window, (desk.owners window).closed = true → reads.Owns window →
      desk.reads.Owns window)
    (gained : target.gained = true → (desk.owners owner).closed = false) :
    Goes desk { desk.goto caller target with reads } caller owner point target := by
  apply Goes.narrowing here plain keepsReads (.refl _) gained
  · intro holds
    rw [free] at holds
    cases holds
  · exact fun _ _ held => held

/-- What every call carries is its owner's. -/
def AllFit (desk : Desk) : Prop :=
  ∀ caller, (desk.callers caller).point.Fits desk.exports.nextSelectionSequence
    (desk.callers caller).ownerWindowLabel

theorem answer_of {motive : DeskPoint → Prop} {α : Type} {result : Except AppError α}
    {passed : α → DeskPoint} (ok : ∀ value, result = .ok value → motive (passed value))
    (error : motive .ended) : motive (Desk.answer result passed) := by
  cases same : result with
  | ok value => exact ok value same
  | error _ => exact error

variable {choice : Choice} {next : Desk}

/-! ### Result reads -/

theorem advanceRead_goes (here : desk.callers caller = ⟨owner, point⟩)
    (fits : point.Fits desk.exports.nextSelectionSequence owner)
    (stepped : desk.advanceRead caller owner choice point = some next) :
    ∃ target, Goes desk next caller owner point target := by
  unfold Desk.advanceRead at stepped
  split at stepped
  · rename_i scanRunId
    cases stepped
    refine ⟨_, answer_of (motive := fun target => Goes desk { desk.goto caller target with reads := _ }
      caller owner _ target) ?_ ?_⟩
    · intro permit permitted
      have owned := ResultReadRegistry.beginResultOpen_owner permitted
      refine Goes.reading here ⟨rfl, rfl, nofun, owned⟩ rfl ?_ nofun
      exact fun _ closed owns => ResultReadRegistry.beginResultOpen_owns closed owns
    · refine Goes.reading here (plain_ended _ _) rfl ?_ nofun
      exact fun _ closed owns => ResultReadRegistry.beginResultOpen_owns closed owns
  · rename_i permit
    have owned : permit.ownerWindowLabel = owner := fits
    split at stepped
    · dsimp only at stepped
      split at stepped
      · rename_i issued passed
        cases stepped
        refine ⟨_, Goes.reading here ⟨rfl, rfl, nofun, trivial⟩ rfl ?_ ?_⟩
        · exact fun _ closed owns => ResultReadRegistry.issueResultRead_owns closed owns
        · intro _
          rw [← owned]
          exact ResultReadRegistry.issueResultRead_live passed
      · cases stepped
        refine ⟨_, Goes.reading here (plain_ended _ _) rfl ?_ nofun⟩
        exact fun _ closed owns =>
          ResultReadRegistry.issueResultRead_owns closed owns.of_dropPending
    · cases stepped
      refine ⟨_, Goes.reading here (plain_ended _ _) rfl ?_ nofun⟩
      exact fun _ _ owns => owns.of_dropPending
  · cases stepped
    refine ⟨_, answer_of (motive := fun target => Goes desk { desk.goto caller target with reads := _ }
      caller owner _ target) ?_ ?_⟩
    · intro lease leased
      have owned := (ResultReadRegistry.beginResultRead_lease leased).1
      refine Goes.reading here ⟨rfl, rfl, nofun, owned⟩ rfl ?_ nofun
      exact fun _ _ owns => ResultReadRegistry.beginResultRead_owns owns
    · refine Goes.reading here (plain_ended _ _) rfl ?_ nofun
      exact fun _ _ owns => ResultReadRegistry.beginResultRead_owns owns
  · rename_i lease
    have owned : lease.ownerWindowLabel = owner := fits
    have kept : ∀ window, (desk.owners window).closed = true →
        (desk.reads.finishResultRead desk.owners choice.now lease).1.Owns window →
        desk.reads.Owns window :=
      fun _ _ owns => ResultReadRegistry.finishResultRead_owns owns
    cases stepped
    split
    · refine ⟨_, answer_of (motive := fun target => Goes desk { desk.goto caller target with reads := _ }
        caller owner _ target) ?_ ?_⟩
      · intro _ finished
        refine Goes.reading here ⟨rfl, rfl, nofun, trivial⟩ rfl kept ?_
        intro _
        rw [← owned]
        cases closed : (desk.owners lease.ownerWindowLabel).closed with
        | false => rfl
        | true =>
            obtain ⟨error, failed⟩ := @ResultReadRegistry.finishResultRead_closed
              desk.owners choice.now desk.reads lease closed
            rw [failed] at finished
            cases finished
      · exact Goes.reading here (plain_ended _ _) rfl kept nofun
    · exact ⟨_, Goes.reading here (plain_ended _ _) rfl kept nofun⟩
  · cases stepped

/-! ### Exports -/

section Gone

variable {window : Window} {reads : ResultReadRegistry} {holder : Option Caller}

/-- The number of a new permit is none that a window waits with. -/
theorem ExportsGone.beginSelection {now : Instant} {binding : ResultExportBinding}
    {options : ExportOptions} (gone : ExportsGone desk window) (fits : AllFit desk)
    (same : next.exports = (desk.exports.beginSelection now binding options).1)
    (tame : Tame desk next window) : ExportsGone next window := by
  obtain ⟨grants, running, _, pending⟩ := @HistoryExportRegistry.beginSelection_effect now desk.exports
    binding options
  rw [← same] at grants running pending
  constructor
  · rintro ⟨grant, member, owned⟩
    exact gone.grants ⟨grant, grants member, owned⟩
  · intro run member owned
    rw [running] at member
    exact gone.stopped run member owned
  · intro other permit owned awaits member
    obtain ⟨before, awaited⟩ := tame other permit owned awaits
    rcases pending permit member with member | fresh
    · exact gone.unpending other permit before awaited member
    · have bound := ((fits other).of_awaits awaited).2
      omega

/-- A permit of the window that still waited does not count any more. -/
theorem ExportsGone.finishSelection {now : Instant} {permit : PendingExportSelection}
    {drawn : List Token} (gone : ExportsGone desk window)
    (here : desk.callers caller = ⟨owner, .checked permit⟩)
    (owned : permit.binding.ownerWindowLabel = owner)
    (narrows : HistoryExportRegistry.Narrows (desk.exports.finishSelection now permit drawn).1
      next.exports)
    (tame : Tame desk next window) : ExportsGone next window := by
  obtain ⟨kept, granted⟩ := @HistoryExportRegistry.finishSelection_effect now desk.exports
    permit drawn
  constructor
  · rintro ⟨grant, member, of⟩
    rcases granted grant (narrows.grants member) with member | ⟨member, same⟩
    · exact gone.grants ⟨grant, member, of⟩
    · have own : owner = window := by rw [← owned, ← same, of]
      refine gone.unpending caller permit ?_ ?_ member
      · rw [here]
        exact own
      · rw [here]
        rfl
  · exact narrows.stopped (kept.stopped gone.stopped)
  · intro other waiting of awaits
    obtain ⟨before, awaited⟩ := tame other waiting of awaits
    exact narrows.not_pending (kept.not_pending (gone.unpending other waiting before awaited))

/-- A run of the window would start from a grant of the window. -/
theorem ExportsGone.runGrant {now : Instant} {found : HistoryExportGrant}
    (gone : ExportsGone desk window) (owned : found.binding.ownerWindowLabel = owner)
    (same : next.exports = (desk.exports.runGrant now owner found).1)
    (tame : Tame desk next window) : ExportsGone next window := by
  obtain ⟨kept, started⟩ := @HistoryExportRegistry.runGrant_effect now owner desk.exports found
  rw [← same] at kept started
  constructor
  · exact kept.not_grants gone.grants
  · intro running member of
    rcases started running member with member | ⟨own, grant, member, binding⟩
    · exact gone.stopped running member of
    · refine absurd ⟨grant, member, ?_⟩ gone.grants
      rw [binding, owned, ← own, of]
  · intro other waiting of awaits
    obtain ⟨before, awaited⟩ := tame other waiting of awaits
    exact kept.not_pending (gone.unpending other waiting before awaited)

end Gone

theorem whenFree_eq_some {desk next last : Desk} (free : desk.whenFree next = some last) :
    desk.holder = none ∧ last = next := by
  unfold Desk.whenFree at free
  split at free
  · rename_i none_
    cases free
    exact ⟨none_, rfl⟩
  · cases free

theorem acquire_eq_some {desk last : Desk} {caller : Caller} {target : DeskPoint}
    (acquired : desk.acquire caller target = some last) :
    desk.holder = none ∧ last = { desk.goto caller target with holder := some caller } := by
  unfold Desk.acquire at acquired
  split at acquired
  · rename_i none_
    cases acquired
    exact ⟨none_, rfl⟩
  · cases acquired

theorem selectExport_goes {token : Token} {options : ExportOptions}
    (here : desk.callers caller = ⟨owner, .queued (.selectExport token options)⟩)
    (stepped : desk.advanceExport caller owner choice (.queued (.selectExport token options)) =
      some next) :
    ∃ target, Goes desk next caller owner (.queued (.selectExport token options)) target := by
  unfold Desk.advanceExport at stepped
  dsimp only at stepped
  obtain ⟨-, rfl⟩ := whenFree_eq_some stepped
  refine ⟨_, Goes.reading here ?_ ?_ (fun _ _ owns => owns) ?_⟩
  · split
    · exact ⟨rfl, rfl, nofun, trivial⟩
    · exact plain_ended _ _
  · split <;> rfl
  · split <;> nofun

theorem selectAdmitted_goes {token : Token} {options : ExportOptions}
    (here : desk.callers caller = ⟨owner, .selectAdmitted token options⟩)
    (stepped : desk.advanceExport caller owner choice (.selectAdmitted token options) = some next) :
    ∃ target, Goes desk next caller owner (.selectAdmitted token options) target := by
  cases stepped
  refine ⟨_, answer_of (motive := fun target => Goes desk { desk.goto caller target with reads := _ }
    caller owner _ target) ?_ ?_⟩
  · intro binding bound
    have owned := (ResultReadRegistry.snapshotResultExportBinding_live bound).1
    refine Goes.reading here ⟨rfl, rfl, nofun, owned⟩ rfl ?_ nofun
    exact fun _ _ owns => ResultReadRegistry.snapshotResultExportBinding_owns owns
  · refine Goes.reading here (plain_ended _ _) rfl ?_ nofun
    exact fun _ _ owns => ResultReadRegistry.snapshotResultExportBinding_owns owns

theorem selecting_goes {binding : ResultExportBinding} {options : ExportOptions}
    (here : desk.callers caller = ⟨owner, .selecting binding options⟩) (fits : AllFit desk)
    (stepped : desk.advanceExport caller owner choice (.selecting binding options) = some next) :
    ∃ target, Goes desk next caller owner (.selecting binding options) target := by
  have fit := fits caller
  rw [here] at fit
  have owned : binding.ownerWindowLabel = owner := fit
  have sequence := (@HistoryExportRegistry.beginSelection_effect choice.now desk.exports binding
    options).2.2.1
  cases stepped
  refine ⟨_, answer_of (motive := fun target => Goes desk { desk.goto caller target with exports := _ }
    caller owner _ target) ?_ ?_⟩
  · intro permit permitted
    obtain ⟨same, bound⟩ := HistoryExportRegistry.beginSelection_permit permitted
    refine Goes.results here nofun rfl ⟨same ▸ owned, bound⟩ sequence
      (fun _ _ owns => owns) ?_ nofun nofun fun _ _ held => held
    intro window _ gone
    exact gone.beginSelection fits rfl (tame_of_callers (Desk.goto_callers here) here nofun)
  · refine Goes.results here nofun rfl trivial sequence (fun _ _ owns => owns) ?_ nofun nofun
      fun _ _ held => held
    intro window _ gone
    exact gone.beginSelection fits rfl (tame_of_callers (Desk.goto_callers here) here nofun)

theorem choosing_goes {permit : PendingExportSelection}
    (here : desk.callers caller = ⟨owner, .choosing permit⟩) (fits : AllFit desk)
    (stepped : desk.advanceExport caller owner choice (.choosing permit) = some next) :
    ∃ target, Goes desk next caller owner (.choosing permit) target := by
  have fit := fits caller
  rw [here] at fit
  unfold Desk.advanceExport at stepped
  dsimp only at stepped
  have dropped := @HistoryExportRegistry.narrows_dropPending desk.exports permit.sequence
  have kept : ∀ window, (desk.owners window).closed = true →
      (desk.reads.snapshotResultExportBinding desk.owners choice.now
        permit.binding.ownerWindowLabel permit.binding.resultReadToken).1.Owns window →
      desk.reads.Owns window :=
    fun _ _ owns => ResultReadRegistry.snapshotResultExportBinding_owns owns
  split at stepped
  · cases stepped
    exact ⟨_, Goes.narrowing here (plain_ended _ _) (fun _ _ owns => owns) dropped nofun nofun
      fun _ _ held => held⟩
  · split at stepped
    · rename_i current bound
      split at stepped
      · cases stepped
        refine ⟨_, Goes.results here nofun rfl fit (Nat.le_refl _) kept ?_ nofun nofun
          fun _ _ held => held⟩
        intro window closed gone
        refine gone.narrow (.refl _) (tame_of_callers (Desk.goto_callers here) here ?_)
        intro _ own _
        have live := (ResultReadRegistry.snapshotResultExportBinding_live bound).2
        rw [fit.1, own, closed] at live
        cases live
      · cases stepped
        exact ⟨_, Goes.narrowing here (plain_ended _ _) kept dropped nofun nofun
          fun _ _ held => held⟩
    · cases stepped
      exact ⟨_, Goes.narrowing here (plain_ended _ _) kept dropped nofun nofun
        fun _ _ held => held⟩

theorem validated_goes {permit : PendingExportSelection}
    (here : desk.callers caller = ⟨owner, .validated permit⟩) (fits : AllFit desk)
    (stepped : desk.advanceExport caller owner choice (.validated permit) = some next) :
    ∃ target, Goes desk next caller owner (.validated permit) target := by
  have fit := fits caller
  rw [here] at fit
  unfold Desk.advanceExport at stepped
  dsimp only at stepped
  split at stepped
  · obtain ⟨-, rfl⟩ := whenFree_eq_some stepped
    refine ⟨_, Goes.results here nofun rfl fit (Nat.le_refl _) (fun _ _ owns => owns) ?_ nofun
      nofun fun _ _ held => held⟩
    intro window _ gone
    refine gone.narrow (.refl _) (tame_of_callers (Desk.goto_callers here) here ?_)
    exact fun _ _ awaiting => awaiting
  · obtain ⟨-, rfl⟩ := whenFree_eq_some stepped
    exact ⟨_, Goes.narrowing here (plain_ended _ _) (fun _ _ owns => owns)
      (HistoryExportRegistry.narrows_dropPending _) nofun nofun fun _ _ held => held⟩

theorem checked_goes {permit : PendingExportSelection}
    (here : desk.callers caller = ⟨owner, .checked permit⟩) (fits : AllFit desk)
    (stepped : desk.advanceExport caller owner choice (.checked permit) = some next) :
    ∃ target, Goes desk next caller owner (.checked permit) target := by
  have fit := fits caller
  rw [here] at fit
  unfold Desk.advanceExport at stepped
  dsimp only at stepped
  have sequence := (@HistoryExportRegistry.finishSelection_effect choice.now desk.exports permit
    choice.drawn).1.sequence
  split at stepped
  · rename_i token granted
    cases stepped
    refine ⟨_, Goes.results here nofun rfl trivial (le_of_eq sequence.symm)
      (fun _ _ owns => owns) ?_ ?_ nofun fun _ _ held => held⟩
    · intro window _ gone
      exact gone.finishSelection here fit.1 (.refl _)
        (tame_of_callers (Desk.goto_callers here) here nofun)
    · intro _
      refine .inr (.inl ?_)
      intro gone
      refine gone.unpending caller permit ?_ ?_
        (HistoryExportRegistry.finishSelection_pending granted)
      · rw [here]
      · rw [here]
        rfl
  · cases stepped
    refine ⟨_, Goes.results here nofun rfl trivial (le_of_eq sequence.symm)
      (fun _ _ owns => owns) ?_ nofun nofun fun _ _ held => held⟩
    intro window _ gone
    exact gone.finishSelection here fit.1 (HistoryExportRegistry.narrows_dropPending _)
      (tame_of_callers (Desk.goto_callers here) here nofun)

theorem startExport_goes {token : Token}
    (here : desk.callers caller = ⟨owner, .queued (.startExport token)⟩)
    (stepped : desk.advanceExport caller owner choice (.queued (.startExport token)) = some next) :
    ∃ target, Goes desk next caller owner (.queued (.startExport token)) target := by
  unfold Desk.advanceExport at stepped
  dsimp only at stepped
  obtain ⟨free, rfl⟩ := acquire_eq_some stepped
  refine ⟨_, Goes.narrowing here ⟨rfl, rfl, nofun, trivial⟩ (fun _ _ owns => owns) (.refl _)
    nofun (fun _ => rfl) ?_⟩
  intro other _ held
  rw [free] at held
  cases held

theorem exportLocked_goes {token : Token}
    (here : desk.callers caller = ⟨owner, .exportLocked token⟩) (held : desk.holder = some caller)
    (stepped : desk.advanceExport caller owner choice (.exportLocked token) = some next) :
    ∃ target, Goes desk next caller owner (.exportLocked token) target := by
  unfold Desk.advanceExport at stepped
  dsimp only at stepped
  split at stepped
  · split at stepped
    · rename_i grant found
      cases stepped
      refine ⟨_, Goes.narrowing here ⟨rfl, rfl, nofun,
        (HistoryExportRegistry.findGrant_grant found).2⟩ (fun _ _ owns => owns)
        HistoryExportRegistry.narrows_findGrant nofun (fun _ => held) fun _ _ kept => kept⟩
    · cases stepped
      exact ⟨_, Goes.narrowing here (plain_ended _ _) (fun _ _ owns => owns)
        HistoryExportRegistry.narrows_findGrant nofun nofun nofun⟩
  · cases stepped
    exact ⟨_, Goes.narrowing here (plain_ended _ _) (fun _ _ owns => owns) (.refl _) nofun
      nofun nofun⟩

theorem exportFound_goes {grant : HistoryExportGrant}
    (here : desk.callers caller = ⟨owner, .exportFound grant⟩) (fits : AllFit desk)
    (held : desk.holder = some caller)
    (stepped : desk.advanceExport caller owner choice (.exportFound grant) = some next) :
    ∃ target, Goes desk next caller owner (.exportFound grant) target := by
  have fit := fits caller
  rw [here] at fit
  unfold Desk.advanceExport at stepped
  dsimp only at stepped
  have owned : grant.binding.ownerWindowLabel = owner := fit
  have kept : ∀ window, (desk.owners window).closed = true →
      (desk.reads.beginResultRead desk.owners choice.now owner
        grant.binding.resultReadToken).1.Owns window → desk.reads.Owns window :=
    fun _ _ owns => ResultReadRegistry.beginResultRead_owns owns
  split at stepped
  · rename_i lease leased
    split at stepped
    · cases stepped
      have of := (ResultReadRegistry.beginResultRead_lease leased).1
      exact ⟨_, Goes.narrowing here ⟨rfl, rfl, nofun, owned, of⟩ kept (.refl _) nofun
        (fun _ => held) fun _ _ kept => kept⟩
    · cases stepped
      refine ⟨_, Goes.narrowing here (plain_ended _ _) ?_ (.refl _) nofun nofun nofun⟩
      exact fun window closed owns => kept window closed owns.of_releaseInFlight
  · cases stepped
    exact ⟨_, Goes.narrowing here (plain_ended _ _) kept (.refl _) nofun nofun nofun⟩

theorem exportLeased_goes {grant : HistoryExportGrant} {lease : ResultReadLease}
    (here : desk.callers caller = ⟨owner, .exportLeased grant lease⟩) (fits : AllFit desk)
    (stepped : desk.advanceExport caller owner choice (.exportLeased grant lease) = some next) :
    ∃ target, Goes desk next caller owner (.exportLeased grant lease) target := by
  have fit := fits caller
  rw [here] at fit
  unfold Desk.advanceExport at stepped
  dsimp only at stepped
  have sequence := (@HistoryExportRegistry.runGrant_effect choice.now owner desk.exports
    grant).1.sequence
  split at stepped
  · rename_i started
    cases stepped
    refine ⟨_, Goes.results here nofun rfl fit.2 (le_of_eq sequence.symm)
      (fun _ _ owns => owns) ?_ ?_ nofun nofun⟩
    · intro window _ gone
      exact gone.runGrant fit.1 rfl (tame_of_callers (Desk.goto_callers here) here nofun)
    · intro _
      refine .inr (.inl ?_)
      intro gone
      obtain ⟨granted, member, same⟩ := HistoryExportRegistry.runGrant_grant started
      exact gone.grants ⟨granted, member, same ▸ fit.1⟩
  · cases stepped
    refine ⟨_, Goes.results here nofun rfl trivial (le_of_eq sequence.symm)
      (fun _ _ owns => owns.of_releaseInFlight) ?_ nofun nofun nofun⟩
    intro window _ gone
    exact gone.runGrant fit.1 rfl (tame_of_callers (Desk.goto_callers here) here nofun)

theorem exportStarted_goes {lease : ResultReadLease}
    (here : desk.callers caller = ⟨owner, .exportStarted lease⟩)
    (stepped : desk.advanceExport caller owner choice (.exportStarted lease) = some next) :
    ∃ target, Goes desk next caller owner (.exportStarted lease) target := by
  cases stepped
  refine ⟨_, Goes.reading here (plain_ended _ _) rfl ?_ nofun⟩
  exact fun _ _ owns => ResultReadRegistry.finishResultRead_owns owns

theorem advanceExport_goes (here : desk.callers caller = ⟨owner, point⟩) (fits : AllFit desk)
    (held : point.holds = true → desk.holder = some caller)
    (stepped : desk.advanceExport caller owner choice point = some next) :
    ∃ target, Goes desk next caller owner point target := by
  have whole := stepped
  unfold Desk.advanceExport at stepped
  split at stepped
  · exact selectExport_goes here whole
  · exact selectAdmitted_goes here whole
  · exact selecting_goes here fits whole
  · exact choosing_goes here fits whole
  · exact validated_goes here fits whole
  · exact checked_goes here fits whole
  · exact startExport_goes here whole
  · exact exportLocked_goes here (held rfl) whole
  · exact exportFound_goes here fits (held rfl) whole
  · exact exportLeased_goes here fits whole
  · exact exportStarted_goes here whole
  · cases stepped

/-! ### Scans -/

/-- A call that changes scan roots, the scan and the lock. -/
theorem Goes.scanning {roots : ScanRootTokenRegistry} {scan : Option ActiveScan}
    {holder : Option Caller} (here : desk.callers caller = ⟨owner, point⟩)
    (passed : target.passed = 0) (awaits : target.awaits = none)
    (fits : target.Fits desk.exports.nextSelectionSequence owner)
    (gained : target.gained = false)
    (keepsRoots : ∀ window, (point = .queued .selectRoot → owner ≠ window) →
      roots.Owns window → desk.roots.Owns window)
    (keepsScan : ∀ window, ¬ desk.roots.Owns window → ScanStopped desk window →
      ScanStopped { desk.goto caller target with roots, scan, holder } window)
    (holds : target.holds = true → holder = some caller)
    (keepsHolder : ∀ other, point.holds = false → desk.holder = some other →
      holder = some other) :
    Goes desk { desk.goto caller target with roots, scan, holder } caller owner point target where
  callers := Desk.goto_callers here
  owners := rfl
  deferredReads := rfl
  deferredScans := rfl
  passed := passed
  fits := fits
  sequence := Nat.le_refl _
  reads := fun _ _ owns => owns
  exports := by
    intro window _ gone
    refine gone.narrow (.refl _) (tame_of_callers (Desk.goto_callers here) here ?_)
    intro permit _ awaiting
    rw [awaits] at awaiting
    cases awaiting
  roots := keepsRoots
  scan := keepsScan
  quarantine := fun _ serves => serves
  gained := by
    intro new
    rw [gained] at new
    cases new
  holds := holds
  holder := keepsHolder

theorem advanceScan_goes (here : desk.callers caller = ⟨owner, point⟩)
    (held : point.holds = true → desk.holder = some caller)
    (stepped : desk.advanceScan caller owner choice point = some next) :
    ∃ target, Goes desk next caller owner point target := by
  have moves : ∀ {target : DeskPoint} {next : Desk} {window : Window},
      next.callers = Function.update desk.callers caller ⟨owner, target⟩ →
      next.scan = desk.scan → target ≠ .scanConsumed → ScanStopped desk window →
      ScanStopped next window :=
    fun callers scan unscanned stopped => stopped.of_callers callers scan fun _ => unscanned
  unfold Desk.advanceScan at stepped
  split at stepped
  · obtain ⟨free, rfl⟩ := acquire_eq_some stepped
    refine ⟨_, Goes.scanning here rfl rfl trivial rfl (fun _ _ owns => owns) ?_ (fun _ => rfl) ?_⟩
    · exact fun _ _ => moves (Desk.goto_callers here) rfl nofun
    · intro other _ taken
      rw [free] at taken
      cases taken
  · rename_i token
    have kept : ∀ window, (DeskPoint.scanLocked token = .queued .selectRoot → owner ≠ window) →
        (desk.roots.consume choice.now owner token).1.Owns window → desk.roots.Owns window :=
      fun _ _ owns => ScanRootTokenRegistry.consume_owns owns
    split at stepped
    · dsimp only at stepped
      split at stepped
      · rename_i root consumed
        cases stepped
        refine ⟨_, Goes.scanning here rfl rfl trivial rfl kept ?_ (fun _ => held rfl)
          fun _ _ kept => kept⟩
        intro window rootless stopped
        refine stopped.of_callers (Desk.goto_callers here) rfl ?_
        -- a window that starts a scan had its root
        intro own
        subst own
        exact absurd (ScanRootTokenRegistry.consume_granted consumed) rootless
      · cases stepped
        refine ⟨_, Goes.scanning here rfl rfl trivial rfl kept ?_ nofun nofun⟩
        exact fun _ _ => moves (Desk.goto_callers here) rfl nofun
    · cases stepped
      refine ⟨_, Goes.scanning here rfl rfl trivial rfl (fun _ _ owns => owns) ?_ nofun nofun⟩
      exact fun _ _ => moves (Desk.goto_callers here) rfl nofun
  · cases stepped
    refine ⟨_, Goes.scanning here rfl rfl trivial rfl (fun _ _ owns => owns) ?_ nofun nofun⟩
    intro window _ stopped
    have other : owner ≠ window := by
      intro own
      refine stopped.unstarted caller ?_ ?_
      · rw [here]
        exact own
      · rw [here]
    constructor
    · intro active same of
      cases same
      exact absurd of other
    · have calm : ScanStopped (desk.goto caller .scanStarted) window :=
        moves (Desk.goto_callers here) rfl nofun stopped
      exact calm.unstarted
  · cases stepped
    refine ⟨_, answer_of (motive := fun target => Goes desk { desk.goto caller target with roots := _ }
      caller owner _ target) ?_ ?_⟩
    · intro sequence _
      refine Goes.scanning here rfl rfl trivial rfl ?_ ?_ nofun fun _ _ held => held
      · exact fun _ other owns => ScanRootTokenRegistry.beginSelection_owns (other rfl) owns
      · exact fun _ _ => moves (Desk.goto_callers here) rfl nofun
    · refine Goes.scanning here rfl rfl trivial rfl ?_ ?_ nofun fun _ _ held => held
      · exact fun _ other owns => ScanRootTokenRegistry.beginSelection_owns (other rfl) owns
      · exact fun _ _ => moves (Desk.goto_callers here) rfl nofun
  · rename_i sequence
    have kept : ∀ window,
        (DeskPoint.rootSelecting sequence = .queued .selectRoot → owner ≠ window) →
        (desk.roots.finishSelection choice.now owner sequence choice.selected
          choice.drawn).1.Owns window → desk.roots.Owns window :=
      fun _ _ owns => ScanRootTokenRegistry.finishSelection_owns owns
    cases stepped
    refine ⟨_, answer_of (motive := fun target => Goes desk { desk.goto caller target with roots := _ }
      caller owner _ target) ?_ ?_⟩
    · intro granted _
      cases granted with
      | none =>
          refine Goes.scanning here rfl rfl trivial rfl kept ?_ nofun fun _ _ held => held
          exact fun _ _ => moves (Desk.goto_callers here) rfl nofun
      | some token =>
          refine Goes.scanning here rfl rfl trivial rfl kept ?_ nofun fun _ _ held => held
          exact fun _ _ => moves (Desk.goto_callers here) rfl nofun
    · refine Goes.scanning here rfl rfl trivial rfl kept ?_ nofun fun _ _ held => held
      exact fun _ _ => moves (Desk.goto_callers here) rfl nofun
  · cases stepped

/-! ### Quarantine -/

/-- A call that changes only the quarantine registry. -/
theorem Goes.quarantining {quarantine : QuarantineRegistry}
    (here : desk.callers caller = ⟨owner, point⟩)
    (plain : Plain desk.exports.nextSelectionSequence owner target)
    (unheld : target.holds = false)
    (keeps : ∀ window, quarantine.Serves window → desk.quarantine.Serves window)
    (gained : target.gained = true → desk.quarantine.Serves owner) :
    Goes desk { desk.goto caller target with quarantine } caller owner point target where
  callers := Desk.goto_callers here
  owners := rfl
  deferredReads := rfl
  deferredScans := rfl
  passed := plain.passed
  fits := plain.fits
  sequence := Nat.le_refl _
  reads := fun _ _ owns => owns
  exports := by
    intro window _ gone
    refine gone.narrow (.refl _) (tame_of_callers (Desk.goto_callers here) here ?_)
    intro permit _ awaiting
    rw [plain.awaits] at awaiting
    cases awaiting
  roots := fun _ _ owns => owns
  scan := fun _ _ stopped =>
    stopped.of_callers (Desk.goto_callers here) rfl fun _ => plain.unscanned
  quarantine := keeps
  gained := fun new => .inr (.inr (gained new))
  holds := by
    intro holds
    rw [unheld] at holds
    cases holds
  holder := fun _ _ held => held

/-- A section of the quarantine registry answers, and the call goes on with the answer. -/
theorem Goes.answered {quarantine : QuarantineRegistry} {α : Type} {result : Except AppError α}
    {passed : α → DeskPoint} (here : desk.callers caller = ⟨owner, point⟩)
    (plain : ∀ value, Plain desk.exports.nextSelectionSequence owner (passed value))
    (unheld : ∀ value, (passed value).holds = false)
    (keeps : ∀ window, quarantine.Serves window → desk.quarantine.Serves window)
    (gained : ∀ value, result = .ok value → (passed value).gained = true →
      desk.quarantine.Serves owner) :
    Goes desk { desk.goto caller (Desk.answer result passed) with quarantine } caller owner point
      (Desk.answer result passed) := by
  refine answer_of (motive := fun target => Goes desk { desk.goto caller target with quarantine }
    caller owner point target) ?_ ?_
  · intro value ok
    exact Goes.quarantining here (plain value) (unheld value) keeps (gained value ok)
  · exact Goes.quarantining here (plain_ended _ _) rfl keeps nofun

theorem advanceQuarantine_goes (here : desk.callers caller = ⟨owner, point⟩)
    (stepped : desk.advanceQuarantine caller owner choice point = some next) :
    ∃ target, Goes desk next caller owner point target := by
  unfold Desk.advanceQuarantine at stepped
  split at stepped
  · cases stepped
    refine ⟨_, Goes.answered here ?_ (fun _ => rfl) (fun _ serves => serves) nofun⟩
    exact fun _ => ⟨rfl, rfl, nofun, trivial⟩
  · split at stepped
    · cases stepped
      refine ⟨_, Goes.answered here ?_ (fun _ => rfl) ?_ ?_⟩
      · exact fun _ => ⟨rfl, rfl, nofun, trivial⟩
      · exact fun _ serves => QuarantineRegistry.issuePlan_serves serves
      · exact fun _ issued _ => QuarantineRegistry.issuePlan_live issued
    · cases stepped
      exact ⟨_, Goes.quarantining here (plain_ended _ _) rfl (fun _ serves => serves) nofun⟩
  · cases stepped
    refine ⟨_, Goes.answered here ?_ (fun _ => rfl) ?_ ?_⟩
    · exact fun _ => ⟨rfl, rfl, nofun, trivial⟩
    · exact fun _ serves => QuarantineRegistry.takePlan_serves serves
    · exact fun _ taken _ => QuarantineRegistry.takePlan_taken taken
  · cases stepped
    refine ⟨_, Goes.answered here ?_ (fun _ => rfl) (fun _ serves => serves) nofun⟩
    exact fun _ => ⟨rfl, rfl, nofun, trivial⟩
  · split at stepped
    · cases stepped
      refine ⟨_, Goes.answered here ?_ (fun _ => rfl) ?_ ?_⟩
      · exact fun _ => ⟨rfl, rfl, nofun, trivial⟩
      · exact fun _ serves => QuarantineRegistry.issueRestoreRoot_serves serves
      · exact fun _ issued _ => QuarantineRegistry.issueRestoreRoot_live issued
    · cases stepped
      exact ⟨_, Goes.quarantining here (plain_ended _ _) rfl (fun _ serves => serves) nofun⟩
  · cases stepped
    refine ⟨_, Goes.answered here ?_ (fun _ => rfl) ?_ ?_⟩
    · exact fun _ => ⟨rfl, rfl, nofun, trivial⟩
    · exact fun _ serves => QuarantineRegistry.restoreRoot_serves serves
    · exact fun _ taken _ => QuarantineRegistry.restoreRoot_taken taken
  · cases stepped

/-! ### Calls that are dropped -/

theorem abandon_goes (here : desk.callers caller = ⟨owner, point⟩)
    (held : point.holds = true → desk.holder = some caller)
    (stepped : desk.abandon caller = some next) :
    Goes desk next caller owner point .ended ∧ next.roots = desk.roots := by
  have reading : ∀ {reads : ResultReadRegistry},
      (∀ window, reads.Owns window → desk.reads.Owns window) →
      Goes desk { desk.goto caller .ended with reads } caller owner point .ended :=
    fun keeps => Goes.reading here (plain_ended _ _) rfl (fun window _ => keeps window) nofun
  unfold Desk.abandon at stepped
  rw [here] at stepped
  dsimp only at stepped
  split at stepped
  · cases stepped
  · cases stepped
    exact ⟨reading fun _ owns => owns, rfl⟩
  · cases stepped
    exact ⟨reading fun _ owns => owns, rfl⟩
  · cases stepped
    exact ⟨reading fun _ owns => owns, rfl⟩
  · cases stepped
    exact ⟨reading fun _ owns => owns, rfl⟩
  · cases stepped
    exact ⟨reading fun _ owns => owns, rfl⟩
  · cases stepped
    exact ⟨reading fun _ owns => owns.of_dropPending, rfl⟩
  · cases stepped
    exact ⟨reading fun _ owns => owns.of_releaseInFlight, rfl⟩
  · cases stepped
    exact ⟨reading fun _ owns => owns.of_releaseInFlight, rfl⟩
  · cases stepped
    exact ⟨Goes.narrowing here (plain_ended _ _) (fun _ _ owns => owns)
      (HistoryExportRegistry.narrows_dropPending _) nofun nofun fun _ _ held => held, rfl⟩
  · cases stepped
    exact ⟨Goes.narrowing here (plain_ended _ _) (fun _ _ owns => owns)
      (HistoryExportRegistry.narrows_dropPending _) nofun nofun fun _ _ held => held, rfl⟩
  · cases stepped
    refine ⟨Goes.narrowing here (plain_ended _ _) (fun _ _ owns => owns) (.refl _) nofun nofun
      nofun, rfl⟩
  · cases stepped

end Calls

/-! ## Steps -/

/-- Calls carry what is their owner's, and only the holder is past the lock. -/
structure Sound (desk : Desk) : Prop where
  fits : AllFit desk
  held : ∀ caller, (desk.callers caller).point.holds = true → desk.holder = some caller

/-- The action opens a directory dialog for the window. -/
def BeginsRoot (desk : Desk) (action : DeskAction) (window : Window) : Prop :=
  ∃ caller choice, action = .advance caller choice ∧
    desk.callers caller = ⟨window, .queued .selectRoot⟩

/-- What a closed window is rid of it stays rid of. -/
structure Keeps (desk : Desk) (action : DeskAction) (next : Desk) : Prop where
  sound : Sound next
  owners : ∀ window, (desk.owners window).closed = true → (next.owners window).closed = true
  reads : ∀ window, (desk.owners window).closed = true → next.reads.Owns window →
    desk.reads.Owns window
  exports : ∀ window, (desk.owners window).closed = true → ExportsGone desk window →
    ExportsGone next window
  quarantine : ∀ window, next.quarantine.Serves window → desk.quarantine.Serves window
  roots : ∀ window, ¬ BeginsRoot desk action window → next.roots.Owns window →
    desk.roots.Owns window
  scan : ∀ window, ¬ desk.roots.Owns window → ScanStopped desk window → ScanStopped next window
  deferredReads : ∀ window, window ∈ desk.deferredReads → window ∈ next.deferredReads ∨
    ¬ next.reads.Owns window
  deferredScans : ∀ window, window ∈ desk.deferredScans → window ∈ next.deferredScans ∨
    ScanStopped next window

section Steps

variable {desk next : Desk} {action : DeskAction} {caller : Caller} {owner window : Window}
  {point target : DeskPoint} {choice : Choice}

/-- Nobody is past the lock while it is free. -/
theorem Sound.unstarted (sound : Sound desk) (free : desk.holder = none) (other : Caller) :
    (desk.callers other).point ≠ .scanConsumed := by
  intro started
  have held := sound.held other (by rw [started]; rfl)
  rw [free] at held
  cases held

theorem Goes.sound (goes : Goes desk next caller owner point target)
    (here : (desk.callers caller).point = point) (sound : Sound desk) : Sound next := by
  constructor
  · unfold AllFit
    rw [goes.callers]
    refine forall_update (fun _ call => call.point.Fits
      next.exports.nextSelectionSequence call.ownerWindowLabel) goes.fits ?_
    intro other _
    exact (sound.fits other).mono goes.sequence
  · rw [goes.callers]
    refine forall_update (fun other call => call.point.holds = true →
      next.holder = some other) goes.holds ?_
    intro other distinct holds
    have before := sound.held other holds
    refine goes.holder other ?_ before
    by_contra taken
    rw [Bool.not_eq_false, ← here] at taken
    have own := sound.held caller taken
    rw [before] at own
    exact distinct (Option.some.inj own)

theorem Goes.keeps (goes : Goes desk next caller owner point target)
    (here : (desk.callers caller).point = point)
    (begins : (point = .queued .selectRoot → BeginsRoot desk action owner) ∨
      next.roots = desk.roots) (sound : Sound desk) : Keeps desk action next where
  sound := goes.sound here sound
  owners := fun _ closed => goes.owners ▸ closed
  reads := goes.reads
  exports := goes.exports
  quarantine := goes.quarantine
  roots := by
    intro window unbegun owns
    rcases begins with begins | same
    · refine goes.roots window ?_ owns
      intro selecting own
      exact unbegun (own ▸ begins selecting)
    · exact same ▸ owns
  scan := goes.scan
  deferredReads := fun _ member => .inl (goes.deferredReads ▸ member)
  deferredScans := fun _ member => .inl (goes.deferredScans ▸ member)

/-- A request that arrives carries nothing. -/
theorem request_goes {request : DeskRequest}
    (stepped : desk.step (.request caller owner request) = some next) :
    Goes desk next caller owner .unused (.queued request) ∧
      (desk.callers caller).point = .unused := by
  simp only [Desk.step] at stepped
  split at stepped
  · rename_i unused
    cases stepped
    refine ⟨?_, unused⟩
    constructor
    · rfl
    · rfl
    · rfl
    · rfl
    · rfl
    · exact trivial
    · exact Nat.le_refl _
    · exact fun _ _ owns => owns
    · intro window _ gone
      refine gone.narrow (.refl _) ?_
      intro other permit
      refine forall_update (fun other call =>
        call.ownerWindowLabel = window → call.point.awaits = some permit →
          (desk.callers other).ownerWindowLabel = window ∧
            (desk.callers other).point.awaits = some permit) ?_ ?_ other
      · nofun
      · exact fun _ _ owned awaits => ⟨owned, awaits⟩
    · exact fun _ _ owns => owns
    · exact fun _ _ stopped => stopped.of_callers rfl rfl fun _ => nofun
    · exact fun _ serves => serves
    · nofun
    · nofun
    · exact fun _ _ held => held
  · cases stepped

end Steps

end Guiying.Desktop
