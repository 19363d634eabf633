import Guiying.Desktop.WindowSteps

/-!
# A closed window has no authority

The handler of a closing window takes away one registry after the other, and
each registry stays as it left it. Once it has returned, and the tasks it left
behind have run, the window can do nothing, whatever calls of it go on.
-/

namespace Guiying.Desktop

open Guiying.Foundation

/-! ## Steps that only take away -/

/-- What was there before, less of it; an export or a scan that was stopped stays so, and only
handlers of closing windows go on. -/
structure Eases (desk next : Desk) : Prop where
  calm : ∀ caller, next.callers caller = desk.callers caller ∨
    (next.callers caller).point.closing = true
  owners : ∀ window, (desk.owners window).closed = true → (next.owners window).closed = true
  reads : ∀ window, next.reads.Owns window → desk.reads.Owns window
  exports : HistoryExportRegistry.Narrows desk.exports next.exports
  quarantine : ∀ window, next.quarantine.Serves window → desk.quarantine.Serves window
  roots : ∀ window, next.roots.Owns window → desk.roots.Owns window
  holder : next.holder = desk.holder
  scan : ∀ active, next.scan = some active → ∃ old, desk.scan = some old ∧
    old.ownerWindowLabel = active.ownerWindowLabel ∧
      (old.control.directive = .cancel → active.control.directive = .cancel)
  deferredReads : ∀ window, window ∈ desk.deferredReads → window ∈ next.deferredReads ∨
    ¬ next.reads.Owns window
  deferredScans : ∀ window, window ∈ desk.deferredScans → window ∈ next.deferredScans ∨
    desk.holder = none ∧ ∀ active, next.scan = some active → active.ownerWindowLabel = window →
      active.control.directive = .cancel

/-- A handler holds nothing and waits with nothing. -/
structure DeskPoint.Idle (point : DeskPoint) : Prop where
  awaits : point.awaits = none
  holds : point.holds = false
  gained : point.gained = false
  unscanned : point ≠ .scanConsumed
  fits : ∀ sequence owner, point.Fits sequence owner

theorem DeskPoint.idle_of_closing {point : DeskPoint} (closing : point.closing = true) :
    point.Idle := by
  cases point with
  | queued request => exact ⟨rfl, rfl, rfl, nofun, fun _ _ => trivial⟩
  | closeRoots | closeTombstone | closeExports | closeReads | closeScan | closeQuarantine
  | closed => exact ⟨rfl, rfl, rfl, nofun, fun _ _ => trivial⟩
  | _ => cases closing

section Eases

variable {desk next : Desk} {action : DeskAction} {window : Window}

theorem Eases.tame (eases : Eases desk next) : Tame desk next window := by
  intro caller permit owned awaits
  rcases eases.calm caller with same | closing
  · rw [same] at owned awaits
    exact ⟨owned, awaits⟩
  · rw [(DeskPoint.idle_of_closing closing).awaits] at awaits
    cases awaits

theorem Eases.unstarted (eases : Eases desk next) {caller : Caller}
    (unstarted : (desk.callers caller).point ≠ .scanConsumed) :
    (next.callers caller).point ≠ .scanConsumed := by
  rcases eases.calm caller with same | closing
  · rw [same]
    exact unstarted
  · exact (DeskPoint.idle_of_closing closing).unscanned

theorem Eases.scanStopped (eases : Eases desk next) (stopped : ScanStopped desk window) :
    ScanStopped next window := by
  constructor
  · intro active runs owned
    obtain ⟨old, ran, same, kept⟩ := eases.scan active runs
    exact kept (stopped.cancelled old ran (same.trans owned))
  · intro caller owned
    rcases eases.calm caller with same | closing
    · rw [same] at owned ⊢
      exact stopped.unstarted caller owned
    · exact (DeskPoint.idle_of_closing closing).unscanned

theorem Eases.sound (eases : Eases desk next) (sound : Sound desk) : Sound next := by
  constructor
  · intro caller
    rcases eases.calm caller with same | closing
    · rw [same, eases.exports.sequence]
      exact sound.fits caller
    · exact (DeskPoint.idle_of_closing closing).fits _ _
  · intro caller holds
    rw [eases.holder]
    rcases eases.calm caller with same | closing
    · rw [same] at holds
      exact sound.held caller holds
    · rw [(DeskPoint.idle_of_closing closing).holds] at holds
      cases holds

theorem Eases.keeps (eases : Eases desk next) (sound : Sound desk) : Keeps desk action next where
  sound := eases.sound sound
  owners := eases.owners
  reads := fun window _ => eases.reads window
  exports := fun _ _ gone => gone.narrow eases.exports eases.tame
  quarantine := eases.quarantine
  roots := fun window _ => eases.roots window
  scan := fun _ _ => eases.scanStopped
  deferredReads := eases.deferredReads
  deferredScans := by
    intro window deferred
    rcases eases.deferredScans window deferred with still | ⟨free, cancelled⟩
    · exact .inl still
    · refine .inr ⟨cancelled, ?_⟩
      intro caller _
      exact eases.unstarted (sound.unstarted free caller)

theorem Eases.refl (desk : Desk) : Eases desk desk where
  calm := fun _ => .inl rfl
  owners := fun _ closed => closed
  reads := fun _ owns => owns
  exports := .refl _
  quarantine := fun _ serves => serves
  roots := fun _ owns => owns
  holder := rfl
  scan := fun active runs => ⟨active, runs, rfl, id⟩
  deferredReads := fun _ member => .inl member
  deferredScans := fun _ member => .inl member

theorem cancelScanOf_scan {active : ActiveScan} (runs : desk.cancelScanOf window = some active) :
    ∃ old, desk.scan = some old ∧ old.ownerWindowLabel = active.ownerWindowLabel ∧
      (old.control.directive = .cancel → active.control.directive = .cancel) ∧
      (active.ownerWindowLabel = window → active.control.directive = .cancel) := by
  obtain ⟨old, ran, rfl⟩ := Option.map_eq_some_iff.mp runs
  refine ⟨old, ran, ?_⟩
  by_cases owned : old.ownerWindowLabel = window
  · rw [if_pos owned]
    exact ⟨rfl, fun _ => rfl, fun _ => rfl⟩
  · rw [if_neg owned]
    exact ⟨rfl, id, fun own => absurd own owned⟩

end Eases

/-! ## The handler -/

section Close

variable {desk next : Desk} {caller : Caller} {owner : Window} {point target : DeskPoint}
  {choice : Choice}

theorem goto_calm (closing : target.closing = true) (other : Caller) :
    (desk.goto caller target).callers other = desk.callers other ∨
      ((desk.goto caller target).callers other).point.closing = true := by
  refine forall_update (fun other call => call = desk.callers other ∨
    call.point.closing = true) (.inr closing) ?_ other
  exact fun _ _ => .inl rfl

theorem advanceClose_eases
    (stepped : desk.advanceClose caller owner choice point = some next) : Eases desk next := by
  unfold Desk.advanceClose at stepped
  split at stepped
  · cases stepped
    exact { Eases.refl desk with calm := goto_calm rfl }
  · cases stepped
    exact { Eases.refl desk with
      calm := goto_calm rfl
      roots := fun _ owns => ScanRootTokenRegistry.clearForOwner_owns owns }
  · cases stepped
    exact { Eases.refl desk with
      calm := goto_calm rfl
      owners := fun _ closed => ResultOwners.markResultOwnerClosed_closed closed }
  · cases stepped
    exact { Eases.refl desk with
      calm := goto_calm rfl
      exports := HistoryExportRegistry.narrows_revokeForOwner }
  · split at stepped
    · cases stepped
      exact { Eases.refl desk with
        calm := goto_calm rfl
        reads := fun _ owns => owns.of_removeResultReadsForOwner
        deferredReads := fun _ member => .inl member }
    · cases stepped
      exact { Eases.refl desk with
        calm := goto_calm rfl
        deferredReads := fun _ member => .inl (List.mem_cons_of_mem _ member) }
  · split at stepped
    · cases stepped
      refine { Eases.refl desk with calm := goto_calm rfl, scan := ?_, deferredScans := ?_ }
      · intro active runs
        obtain ⟨old, ran, same, kept, -⟩ := cancelScanOf_scan runs
        exact ⟨old, ran, same, kept⟩
      · exact fun _ member => .inl member
    · cases stepped
      exact { Eases.refl desk with
        calm := goto_calm rfl
        deferredScans := fun _ member => .inl (List.mem_cons_of_mem _ member) }
  · cases stepped
    exact { Eases.refl desk with
      calm := goto_calm rfl
      quarantine := fun _ serves => QuarantineRegistry.revokeForOwner_serves serves }
  · cases stepped

end Close

/-! ## Every step -/

section Steps

variable {desk next : Desk} {action : DeskAction} {caller : Caller} {owner window : Window}
  {choice : Choice}

theorem orElse_cases {α : Type} {first : Option α} {second : Unit → Option α} {value : α}
    (found : first.orElse second = some value) : first = some value ∨ second () = some value := by
  cases first with
  | none => exact .inr found
  | some _ => exact .inl found

/-- One of the five groups of calls goes on. -/
theorem advance_cases (stepped : desk.advance caller choice = some next) (sound : Sound desk) :
    (∃ target, Goes desk next caller (desk.callers caller).ownerWindowLabel
      (desk.callers caller).point target) ∨
    desk.advanceClose caller (desk.callers caller).ownerWindowLabel choice
      (desk.callers caller).point = some next := by
  have held := sound.held caller
  unfold Desk.advance at stepped
  rcases orElse_cases stepped with reads | stepped
  · exact .inl (advanceRead_goes rfl (sound.fits caller) reads)
  · rcases orElse_cases stepped with exports | stepped
    · exact .inl (advanceExport_goes rfl sound.fits held exports)
    · rcases orElse_cases stepped with scan | stepped
      · exact .inl (advanceScan_goes rfl held scan)
      · rcases orElse_cases stepped with quarantine | close
        · exact .inl (advanceQuarantine_goes rfl quarantine)
        · exact .inr close

theorem advance_closing {caller : Caller} {choice : Choice}
    (closing : (desk.callers caller).point.closing = true) :
    desk.advance caller choice = desk.advanceClose caller (desk.callers caller).ownerWindowLabel
      choice (desk.callers caller).point := by
  unfold Desk.advance
  dsimp only
  cases at_ : (desk.callers caller).point with
  | queued request =>
      rw [at_] at closing
      cases request with
      | close => rfl
      | _ => cases closing
  | closeRoots | closeTombstone | closeExports | closeReads | closeScan | closeQuarantine
  | closed => rfl
  | _ =>
      rw [at_] at closing
      cases closing

theorem abandon_closing (closing : (desk.callers caller).point.closing = true) :
    desk.abandon caller = none := by
  unfold Desk.abandon
  split
  all_goals first
    | rfl
    | (rename_i at_
       rw [at_] at closing
       cases closing)
    | skip
  rename_i request other at_
  rw [at_] at closing
  cases request with
  | close => exact absurd rfl other
  | _ => cases closing

theorem steerScan_eases {change : WorkerControlState → WorkerControlState}
    (keeps : ∀ control : WorkerControlState, control.directive = .cancel →
      (change control).directive = .cancel)
    (steered : desk.steerScan change = some next) :
    Eases desk next ∧ next.callers = desk.callers := by
  unfold Desk.steerScan at steered
  split at steered
  · cases steered
  · rename_i active running
    cases steered
    refine ⟨{ Eases.refl desk with scan := ?_, deferredScans := fun _ member => .inl member }, rfl⟩
    intro _ runs
    cases runs
    exact ⟨active, running, rfl, keeps active.control⟩

theorem whenFree_step {result : Option Desk}
    (stepped : (if desk.holder = none then result else none) = some next) :
    desk.holder = none ∧ result = some next := by
  split at stepped
  · rename_i free
    exact ⟨free, stepped⟩
  · cases stepped

theorem runReads_eases (stepped : desk.step (.runReads owner) = some next) :
    Eases desk next ∧ next.callers = desk.callers := by
  simp only [Desk.step] at stepped
  split at stepped
  · cases stepped
    refine ⟨{ Eases.refl desk with reads := ?_, deferredReads := ?_ }, rfl⟩
    · exact fun _ owns => owns.of_removeResultReadsForOwner
    · intro window member
      by_cases same : window = owner
      · subst same
        exact .inr ResultReadRegistry.not_owns_removed
      · exact .inl ((List.mem_erase_of_ne same).mpr member)
  · cases stepped

theorem runScan_eases (stepped : desk.step (.runScan owner) = some next) :
    Eases desk next ∧ next.callers = desk.callers := by
  simp only [Desk.step] at stepped
  split at stepped
  · rename_i able
    cases stepped
    refine ⟨{ Eases.refl desk with scan := ?_, deferredScans := ?_ }, rfl⟩
    · intro active runs
      obtain ⟨old, ran, same, kept, -⟩ := cancelScanOf_scan runs
      exact ⟨old, ran, same, kept⟩
    · intro window member
      by_cases same : window = owner
      · subst same
        refine .inr ⟨able.2, fun active runs owned => ?_⟩
        obtain ⟨-, -, -, -, cancelled⟩ := cancelScanOf_scan runs
        exact cancelled owned
      · exact .inl ((List.mem_erase_of_ne same).mpr member)
  · cases stepped

/-- What a step is: a call that goes on, a step of a handler, or one that only takes away. -/
theorem step_cases (stepped : desk.step action = some next) (sound : Sound desk) :
    (∃ caller owner target, Goes desk next caller owner (desk.callers caller).point target ∧
      (desk.callers caller).point.closing = false ∧
      (((desk.callers caller).point = .queued .selectRoot → BeginsRoot desk action owner) ∨
        next.roots = desk.roots)) ∨
    (∃ caller choice, action = .advance caller choice ∧
      desk.advanceClose caller (desk.callers caller).ownerWindowLabel choice
        (desk.callers caller).point = some next) ∨
    Eases desk next ∧ next.callers = desk.callers := by
  cases action with
  | request caller owner request =>
      obtain ⟨goes, unused⟩ := request_goes stepped
      refine .inl ⟨caller, owner, _, unused ▸ goes, by rw [unused]; rfl, .inl ?_⟩
      intro selecting
      rw [unused] at selecting
      cases selecting
  | advance caller choice =>
      cases closing : (desk.callers caller).point.closing with
      | true => exact .inr (.inl ⟨caller, choice, rfl, advance_closing closing ▸ stepped⟩)
      | false =>
          rcases advance_cases stepped sound with ⟨target, goes⟩ | close
          · refine .inl ⟨caller, _, target, goes, closing, .inl ?_⟩
            intro selecting
            exact ⟨caller, choice, rfl, by rw [← selecting]⟩
          · exact .inr (.inl ⟨caller, choice, rfl, close⟩)
  | abandon caller =>
      obtain ⟨goes, roots⟩ := abandon_goes rfl (sound.held caller) stepped
      refine .inl ⟨caller, _, .ended, goes, ?_, .inr roots⟩
      by_contra closing
      rw [Bool.not_eq_false] at closing
      have none_ := abandon_closing closing
      rw [show desk.abandon caller = some next from stepped] at none_
      cases none_
  | commitExport token =>
      cases stepped
      exact .inr (.inr ⟨{ Eases.refl desk with
        exports := HistoryExportRegistry.narrows_commit token }, rfl⟩)
  | dropRun token generation =>
      cases stepped
      exact .inr (.inr ⟨{ Eases.refl desk with
        exports := HistoryExportRegistry.narrows_dropRun token generation }, rfl⟩)
  | cancelExport owner token =>
      cases stepped
      exact .inr (.inr ⟨{ Eases.refl desk with
        exports := HistoryExportRegistry.narrows_cancelExport }, rfl⟩)
  | revokeExports token =>
      cases stepped
      exact .inr (.inr ⟨{ Eases.refl desk with
        exports := HistoryExportRegistry.narrows_revokeForResultToken token }, rfl⟩)
  | closeResultRead owner token =>
      cases stepped
      refine .inr (.inr ⟨{ Eases.refl desk with reads := ?_, deferredReads := ?_ }, rfl⟩)
      · exact fun _ owns => ResultReadRegistry.closeResultRead_owns owns
      · exact fun _ member => .inl member
  | pauseScan =>
      refine .inr (.inr (steerScan_eases ?_ (whenFree_step stepped).2))
      intro control cancelled
      unfold WorkerControlState.requestPause
      rw [if_neg fun able => able.2 cancelled]
      exact cancelled
  | resumeScan =>
      refine .inr (.inr (steerScan_eases ?_ (whenFree_step stepped).2))
      intro control cancelled
      unfold WorkerControlState.requestResume
      rw [cancelled, if_neg nofun]
      exact cancelled
  | finishEnumeration =>
      refine .inr (.inr (steerScan_eases ?_ stepped))
      intro control cancelled
      unfold WorkerControlState.finishEnumeration
      rw [cancelled]
      rfl
  | cancelScan =>
      exact .inr (.inr (steerScan_eases (fun _ _ => rfl) (whenFree_step stepped).2))
  | finishScan =>
      cases (whenFree_step stepped).2
      refine .inr (.inr ⟨{ Eases.refl desk with scan := nofun, deferredScans := ?_ }, rfl⟩)
      exact fun _ member => .inl member
  | runReads owner => exact .inr (.inr (runReads_eases stepped))
  | runScan owner => exact .inr (.inr (runScan_eases stepped))

theorem step_keeps (stepped : desk.step action = some next) (sound : Sound desk) :
    Keeps desk action next := by
  rcases step_cases stepped sound with ⟨caller, owner, target, goes, -, begins⟩ | rest
  · exact goes.keeps rfl begins sound
  · rcases rest with ⟨caller, choice, -, close⟩ | ⟨eases, -⟩
    · exact (advanceClose_eases close).keeps sound
    · exact eases.keeps sound

end Steps

end Guiying.Desktop
