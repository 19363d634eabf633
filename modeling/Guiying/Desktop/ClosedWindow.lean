import Guiying.Desktop.WindowRevoked

/-!
# The authority of a closed window

How far the handler of a window has come says what the window is rid of. This is
kept by every step, and after the handler and the tasks it left behind nothing is
left that any call of the window could use.
-/

namespace Guiying.Desktop

open Guiying.Foundation

/-! ## The progress of a handler -/

/-- What the handler has taken by the time it gets to a point. -/
structure Progress (desk : Desk) (call : DeskCall) : Prop where
  tombstoned : 2 ≤ call.point.passed → (desk.owners call.ownerWindowLabel).closed = true
  exports : 3 ≤ call.point.passed → ExportsGone desk call.ownerWindowLabel
  reads : 4 ≤ call.point.passed → ¬ desk.reads.Owns call.ownerWindowLabel ∨
    call.ownerWindowLabel ∈ desk.deferredReads
  quarantine : 6 ≤ call.point.passed → ¬ desk.quarantine.Serves call.ownerWindowLabel

/-- The same of scans, which hold as long as the window opens no dialog again. -/
structure ScanProgress (desk : Desk) (call : DeskCall) : Prop where
  roots : 1 ≤ call.point.passed → ¬ desk.roots.Owns call.ownerWindowLabel
  scan : 5 ≤ call.point.passed → ScanStopped desk call.ownerWindowLabel ∨
    call.ownerWindowLabel ∈ desk.deferredScans

section Progress

variable {desk next : Desk} {action : DeskAction} {call : DeskCall} {caller : Caller}
  {owner window : Window} {point target : DeskPoint} {choice : Choice}

theorem Progress.keeps (progress : Progress desk call) (keeps : Keeps desk action next) :
    Progress next call := by
  constructor
  · intro past
    exact keeps.owners _ (progress.tombstoned past)
  · intro past
    exact keeps.exports _ (progress.tombstoned (by omega)) (progress.exports past)
  · intro past
    rcases progress.reads past with gone | deferred
    · refine .inl fun owns => gone (keeps.reads _ (progress.tombstoned (by omega)) owns)
    · exact (keeps.deferredReads _ deferred).symm
  · intro past serves
    exact progress.quarantine past (keeps.quarantine _ serves)

theorem ScanProgress.keeps (progress : ScanProgress desk call) (keeps : Keeps desk action next)
    (unbegun : 1 ≤ call.point.passed → ¬ BeginsRoot desk action call.ownerWindowLabel) :
    ScanProgress next call := by
  constructor
  · intro past owns
    exact progress.roots past (keeps.roots _ (unbegun past) owns)
  · intro past
    rcases progress.scan past with stopped | deferred
    · exact .inl (keeps.scan _ (progress.roots (by omega)) stopped)
    · exact (keeps.deferredScans _ deferred).symm

theorem progress_of_passed (none_ : call.point.passed = 0) : Progress desk call := by
  constructor <;> omega

theorem scanProgress_of_passed (none_ : call.point.passed = 0) : ScanProgress desk call := by
  constructor <;> omega

/-- The handler takes one more registry. -/
theorem Progress.advance (progress : Progress desk ⟨owner, point⟩)
    (one : target.passed ≤ point.passed + 1)
    (tombstoned : target.passed = 2 → (desk.owners owner).closed = true)
    (exports : target.passed = 3 → ExportsGone desk owner)
    (reads : target.passed = 4 → ¬ desk.reads.Owns owner ∨ owner ∈ desk.deferredReads)
    (quarantine : target.passed = 6 → ¬ desk.quarantine.Serves owner) :
    Progress desk ⟨owner, target⟩ := by
  constructor
  · intro past
    rcases Nat.lt_or_eq_of_le past with further | now
    · exact progress.tombstoned (by simp only at further ⊢; omega)
    · exact tombstoned now.symm
  · intro past
    rcases Nat.lt_or_eq_of_le past with further | now
    · exact progress.exports (by simp only at further ⊢; omega)
    · exact exports now.symm
  · intro past
    rcases Nat.lt_or_eq_of_le past with further | now
    · exact progress.reads (by simp only at further ⊢; omega)
    · exact reads now.symm
  · intro past
    rcases Nat.lt_or_eq_of_le past with further | now
    · exact progress.quarantine (by simp only at further ⊢; omega)
    · exact quarantine now.symm

theorem ScanProgress.advance (progress : ScanProgress desk ⟨owner, point⟩)
    (one : target.passed ≤ point.passed + 1)
    (roots : target.passed = 1 → ¬ desk.roots.Owns owner)
    (scan : target.passed = 5 → ScanStopped desk owner ∨ owner ∈ desk.deferredScans) :
    ScanProgress desk ⟨owner, target⟩ := by
  constructor
  · intro past
    rcases Nat.lt_or_eq_of_le past with further | now
    · exact progress.roots (by simp only at further ⊢; omega)
    · exact roots now.symm
  · intro past
    rcases Nat.lt_or_eq_of_le past with further | now
    · exact progress.scan (by simp only at further ⊢; omega)
    · exact scan now.symm

/-- Where a step of the handler leads, and what is so once it is there. -/
theorem advanceClose_progress (here : desk.callers caller = ⟨owner, point⟩) (sound : Sound desk)
    (stepped : desk.advanceClose caller owner choice point = some next) :
    ∃ target, next.callers = Function.update desk.callers caller ⟨owner, target⟩ ∧
      target.passed ≤ point.passed + 1 ∧
      (target.passed = 1 → ¬ next.roots.Owns owner) ∧
      (target.passed = 2 → (next.owners owner).closed = true) ∧
      (target.passed = 3 → ExportsGone next owner) ∧
      (target.passed = 4 → ¬ next.reads.Owns owner ∨ owner ∈ next.deferredReads) ∧
      (target.passed = 5 → ScanStopped next owner ∨ owner ∈ next.deferredScans) ∧
      (target.passed = 6 → ¬ next.quarantine.Serves owner) := by
  have eases := advanceClose_eases stepped
  unfold Desk.advanceClose at stepped
  split at stepped
  · cases stepped
    exact ⟨_, Desk.goto_callers here, Nat.zero_le _, (absurd · (by decide)),
      (absurd · (by decide)), (absurd · (by decide)), (absurd · (by decide)),
      (absurd · (by decide)), (absurd · (by decide))⟩
  · cases stepped
    refine ⟨_, Desk.goto_callers here, Nat.le_refl _, ?_, (absurd · (by decide)),
      (absurd · (by decide)), (absurd · (by decide)), (absurd · (by decide)),
      (absurd · (by decide))⟩
    exact fun _ => ScanRootTokenRegistry.not_owns_cleared
  · cases stepped
    refine ⟨_, Desk.goto_callers here, Nat.le_refl _, (absurd · (by decide)), ?_,
      (absurd · (by decide)), (absurd · (by decide)), (absurd · (by decide)),
      (absurd · (by decide))⟩
    intro _
    simp [ResultOwners.markResultOwnerClosed]
  · cases stepped
    refine ⟨_, Desk.goto_callers here, Nat.le_refl _, (absurd · (by decide)),
      (absurd · (by decide)), ?_, (absurd · (by decide)), (absurd · (by decide)),
      (absurd · (by decide))⟩
    intro _
    constructor
    · exact HistoryExportRegistry.not_grants_revoked
    · exact HistoryExportRegistry.stopped_revoked
    · intro other permit owned awaits
      obtain ⟨before, awaited⟩ := eases.tame other permit owned awaits
      exact HistoryExportRegistry.not_pending_revoked
        (((sound.fits other).of_awaits awaited).1.trans before)
  · split at stepped
    · cases stepped
      refine ⟨_, Desk.goto_callers here, Nat.le_refl _, (absurd · (by decide)),
        (absurd · (by decide)), (absurd · (by decide)), ?_, (absurd · (by decide)),
        (absurd · (by decide))⟩
      exact fun _ => .inl ResultReadRegistry.not_owns_removed
    · cases stepped
      refine ⟨_, Desk.goto_callers here, Nat.le_refl _, (absurd · (by decide)),
        (absurd · (by decide)), (absurd · (by decide)), ?_, (absurd · (by decide)),
        (absurd · (by decide))⟩
      exact fun _ => .inr List.mem_cons_self
  · split at stepped
    · rename_i able
      cases stepped
      refine ⟨_, Desk.goto_callers here, Nat.le_refl _, (absurd · (by decide)),
        (absurd · (by decide)), (absurd · (by decide)), (absurd · (by decide)), ?_,
        (absurd · (by decide))⟩
      refine fun _ => .inl ⟨?_, ?_⟩
      · intro active runs owned
        obtain ⟨-, -, -, -, cancelled⟩ := cancelScanOf_scan runs
        exact cancelled owned
      · exact fun other _ => eases.unstarted (sound.unstarted able.2 other)
    · cases stepped
      refine ⟨_, Desk.goto_callers here, Nat.le_refl _, (absurd · (by decide)),
        (absurd · (by decide)), (absurd · (by decide)), (absurd · (by decide)), ?_,
        (absurd · (by decide))⟩
      exact fun _ => .inr List.mem_cons_self
  · cases stepped
    refine ⟨_, Desk.goto_callers here, Nat.le_refl _, (absurd · (by decide)),
      (absurd · (by decide)), (absurd · (by decide)), (absurd · (by decide)),
      (absurd · (by decide)), ?_⟩
    exact fun _ => QuarantineRegistry.not_serves_revoked
  · cases stepped

end Progress

/-! ## Runs -/

/-- Once the closing of the window has begun, no directory dialog is opened for it. -/
def Listed (window : Window) (desk : Desk) (action : DeskAction) : Prop :=
  BeginsRoot desk action window → ∀ caller, (desk.callers caller).ownerWindowLabel = window →
    (desk.callers caller).point.closing = false

/-- The environment of a step that succeeds. -/
def granting : Choice where
  now := 0
  ok := true
  drawn := [7]
  source := ⟨"library.sqlite3", 1, 1, 1⟩
  selected := none
  plan := ⟨0, "", 0, 0, 0⟩

/-- A window is closed while its `select_scan_root` is queued, and then the dialog is opened and
answered, and a scan is started in what it selected. -/
def queuedRootRun : List DeskAction :=
  [.request 0 "main" .selectRoot, .request 1 "main" .close] ++
  List.replicate 7 (.advance 1 granting) ++
  [.advance 0 granting, .advance 0 { granting with selected := some "/Pictures" },
    .request 2 "main" (.startScan 7)] ++
  List.replicate 3 (.advance 2 granting)

/-- Without `Listed` the scan of a closed window may go on. -/
theorem queuedRootRun_scans : ∃ desk active, deskMachine.after .new queuedRootRun = some desk ∧
    desk.callers 1 = ⟨"main", .closed⟩ ∧ "main" ∉ desk.deferredScans ∧
    desk.scan = some active ∧ active.ownerWindowLabel = "main" ∧
    active.control.directive ≠ .cancel :=
  ⟨_, _, rfl, rfl, List.not_mem_nil, rfl, rfl, by decide⟩

structure Closing (desk : Desk) : Prop where
  sound : Sound desk
  progress : ∀ caller, Progress desk (desk.callers caller)

theorem closing_new : Closing Desk.new := by
  constructor
  · constructor
    · exact fun _ => trivial
    · nofun
  · exact fun _ => progress_of_passed rfl

section Runs

variable {desk next : Desk} {action : DeskAction} {window : Window}

theorem Closing.step (closing : Closing desk) (stepped : desk.step action = some next) :
    Closing next := by
  have keeps := step_keeps stepped closing.sound
  refine ⟨keeps.sound, ?_⟩
  have kept := fun other => (closing.progress other).keeps keeps
  rcases step_cases stepped closing.sound with ⟨caller, owner, target, goes, -, -⟩ | rest
  · rw [goes.callers]
    refine forall_update (fun _ call => Progress next call) ?_ fun other _ => kept other
    exact progress_of_passed goes.passed
  · rcases rest with ⟨caller, choice, -, close⟩ | ⟨-, same⟩
    · obtain ⟨target, callers, one, -, tombstoned, exports, reads, -, quarantine⟩ :=
        advanceClose_progress rfl closing.sound close
      rw [callers]
      refine forall_update (fun _ call => Progress next call) ?_ fun other _ => kept other
      exact (kept caller).advance one tombstoned exports reads quarantine
    · rw [same]
      exact kept

theorem closing_of_passed {point : DeskPoint} (past : 1 ≤ point.passed) : point.closing = true := by
  cases point with
  | closeTombstone | closeExports | closeReads | closeScan | closeQuarantine | closed => rfl
  | _ => cases past

/-- The handlers of one window, in a run that opens no dialog for it after its closing began. -/
def ScanClosing (window : Window) (desk : Desk) : Prop :=
  ∀ caller, (desk.callers caller).ownerWindowLabel = window →
    ScanProgress desk (desk.callers caller)

theorem ScanClosing.step (scans : ScanClosing window desk) (closing : Closing desk)
    (listed : Listed window desk action) (stepped : desk.step action = some next) :
    ScanClosing window next := by
  have keeps := step_keeps stepped closing.sound
  have kept : ∀ other, (desk.callers other).ownerWindowLabel = window →
      ScanProgress next (desk.callers other) := by
    intro other owned
    refine (scans other owned).keeps keeps ?_
    intro past begins
    have open_ := listed (owned ▸ begins) other owned
    rw [closing_of_passed past] at open_
    cases open_
  unfold ScanClosing
  rcases step_cases stepped closing.sound with ⟨caller, owner, target, goes, -, -⟩ | rest
  · rw [goes.callers]
    refine forall_update (fun _ call => call.ownerWindowLabel = window →
      ScanProgress next call) ?_ fun other _ => kept other
    exact fun _ => scanProgress_of_passed goes.passed
  · rcases rest with ⟨caller, choice, -, close⟩ | ⟨-, same⟩
    · obtain ⟨target, callers, one, roots, -, -, -, scan, -⟩ :=
        advanceClose_progress rfl closing.sound close
      rw [callers]
      refine forall_update (fun _ call => call.ownerWindowLabel = window →
        ScanProgress next call) ?_ fun other _ => kept other
      exact fun owned => (kept caller owned).advance one roots scan
    · rw [same]
      exact kept

end Runs

/-- A handler that has returned stays where it is. -/
theorem closed_stays {desk next : Desk} {action : DeskAction} {window : Window} {caller : Caller}
    (here : desk.callers caller = ⟨window, .closed⟩) (sound : Sound desk)
    (stepped : desk.step action = some next) : next.callers caller = ⟨window, .closed⟩ := by
  rcases step_cases stepped sound with ⟨acting, owner, target, goes, open_, -⟩ | rest
  · have other : caller ≠ acting := by
      rintro rfl
      rw [here] at open_
      cases open_
    rw [goes.callers, Function.update_of_ne other]
    exact here
  · rcases rest with ⟨acting, choice, -, close⟩ | ⟨-, same⟩
    · have other : caller ≠ acting := by
        rintro rfl
        rw [here] at close
        cases close
      obtain ⟨target, callers, -⟩ := advanceClose_progress rfl sound close
      rw [callers, Function.update_of_ne other]
      exact here
    · rw [same]
      exact here

/-! ## What is left -/

structure Revoked (desk : Desk) (window : Window) : Prop where
  tombstoned : (desk.owners window).closed = true
  reads : ¬ desk.reads.Owns window
  exports : ExportsGone desk window
  quarantine : ¬ desk.quarantine.Serves window

/-- No section of a registry says yes to the window, and what it had running stops. -/
structure Powerless (desk : Desk) (window : Window) : Prop where
  opens : ∀ now scanRunId permit,
    (desk.reads.beginResultOpen desk.owners now window scanRunId).2 ≠ .ok permit
  issues : ∀ now permit source drawn issued, permit.ownerWindowLabel = window →
    (desk.reads.issueResultRead desk.owners now permit source drawn).2 ≠ .ok issued
  reads : ∀ now token lease,
    (desk.reads.beginResultRead desk.owners now window token).2 ≠ .ok lease
  /-- Every read of the window that is in flight ends with an error. -/
  inFlight : ∀ now lease, lease.ownerWindowLabel = window →
    (desk.reads.finishResultRead desk.owners now lease).2 ≠ .ok ()
  selections : ∀ now token binding,
    (desk.reads.snapshotResultExportBinding desk.owners now window token).2 ≠ .ok binding
  grants : ∀ caller permit now drawn token, desk.callers caller = ⟨window, .checked permit⟩ →
    (desk.exports.finishSelection now permit drawn).2 ≠ .ok token
  starts : ∀ now token grant, (desk.exports.findGrant now window token).2 ≠ .ok grant
  runs : ∀ caller grant lease now, desk.callers caller = ⟨window, .exportLeased grant lease⟩ →
    (desk.exports.runGrant now window grant).2 ≠ .ok ()
  cancels : ∀ token, (desk.exports.cancelExport desk.owners window token).2 ≠ .ok true
  /-- Every export of the window that has not committed its link is cancelled. -/
  exports : ∀ running ∈ desk.exports.running, running.ownerWindowLabel = window →
    running.cancellation.commitState ≠ .committed → running.cancellation.isCancelled = true
  plans : ∀ now token plan, (desk.quarantine.takePlan now window token).2 ≠ .ok plan
  restoreRoots : ∀ now token root, (desk.quarantine.restoreRoot now window token).2 ≠ .ok root
  issuesPlan : ∀ now epoch plan token,
    (desk.quarantine.issuePlan now window epoch plan).2 ≠ .ok token
  issuesRestoreRoot : ∀ now epoch token root issued,
    (desk.quarantine.issueRestoreRoot now window epoch token root).2 ≠ .ok issued

/-- What belongs to other windows is as it was. -/
structure Leaves (window : Window) (desk next : Desk) : Prop where
  readGrants : (next.reads.grants.filter fun grant => grant.ownerWindowLabel ≠ window) =
    desk.reads.grants.filter fun grant => grant.ownerWindowLabel ≠ window
  opens : (next.reads.pendingOpens.filter fun pending => pending.ownerWindowLabel ≠ window) =
    desk.reads.pendingOpens.filter fun pending => pending.ownerWindowLabel ≠ window
  selections :
    (next.exports.pendingSelections.filter fun pending =>
      pending.binding.ownerWindowLabel ≠ window) =
    desk.exports.pendingSelections.filter fun pending => pending.binding.ownerWindowLabel ≠ window
  exportGrants : (next.exports.grants.filter fun grant =>
      grant.binding.ownerWindowLabel ≠ window) =
    desk.exports.grants.filter fun grant => grant.binding.ownerWindowLabel ≠ window
  running : (next.exports.running.filter fun running => running.ownerWindowLabel ≠ window) =
    desk.exports.running.filter fun running => running.ownerWindowLabel ≠ window
  roots : (next.roots.grants.filter fun grant => grant.ownerWindowLabel ≠ window) =
    desk.roots.grants.filter fun grant => grant.ownerWindowLabel ≠ window
  rootSelections : (next.roots.pendingSelections.filter fun pending => pending.1 ≠ window) =
    desk.roots.pendingSelections.filter fun pending => pending.1 ≠ window
  plans : (next.quarantine.plans.filter fun plan => plan.ownerWindowLabel ≠ window) =
    desk.quarantine.plans.filter fun plan => plan.ownerWindowLabel ≠ window
  restoreRoots : (next.quarantine.restoreRoots.filter fun grant =>
      grant.ownerWindowLabel ≠ window) =
    desk.quarantine.restoreRoots.filter fun grant => grant.ownerWindowLabel ≠ window
  owners : ∀ other, other ≠ window → next.owners other = desk.owners other ∧
    next.quarantine.owners other = desk.quarantine.owners other
  scan : (∀ active, desk.scan = some active → active.ownerWindowLabel ≠ window) →
    next.scan = desk.scan
  callers : ∀ caller, (desk.callers caller).ownerWindowLabel ≠ window →
    next.callers caller = desk.callers caller
  holder : next.holder = desk.holder

/-- A step of the handler of the window, or of a task that it left behind. -/
def ClosesWindow (window : Window) (desk : Desk) : DeskAction → Prop
  | .advance caller _ => (desk.callers caller).ownerWindowLabel = window ∧
      (desk.callers caller).point.closing = true
  | .runReads owner | .runScan owner => owner = window
  | _ => False

section Left

variable {desk next : Desk} {action : DeskAction} {window : Window}

theorem Revoked.step (revoked : Revoked desk window) (closing : Closing desk)
    (stepped : desk.step action = some next) : Revoked next window := by
  have keeps := step_keeps stepped closing.sound
  constructor
  · exact keeps.owners _ revoked.tombstoned
  · exact fun owns => revoked.reads (keeps.reads _ revoked.tombstoned owns)
  · exact keeps.exports _ revoked.tombstoned revoked.exports
  · exact fun serves => revoked.quarantine (keeps.quarantine _ serves)

theorem Closing.revoked (closing : Closing desk) {caller : Caller}
    (returned : desk.callers caller = ⟨window, .closed⟩) (reads : window ∉ desk.deferredReads) :
    Revoked desk window := by
  have progress := closing.progress caller
  rw [returned] at progress
  constructor
  · exact progress.tombstoned (show 2 ≤ 6 by decide)
  · exact (progress.reads (show 4 ≤ 6 by decide)).resolve_right reads
  · exact progress.exports (show 3 ≤ 6 by decide)
  · exact progress.quarantine (show 6 ≤ 6 by decide)

theorem beginResultOpen_closed {registry : ResultReadRegistry} {owners : ResultOwners}
    {now : Instant} {scanRunId : Int} (closed : (owners window).closed = true)
    (permit : ResultOpenPermit) :
    (registry.beginResultOpen owners now window scanRunId).2 ≠ .ok permit := by
  unfold ResultReadRegistry.beginResultOpen
  split
  · nofun
  · rw [if_pos (.inl closed)]
    nofun

theorem not_cancels {registry : HistoryExportRegistry} {owners : ResultOwners}
    (closed : (owners window).closed = true) (gone : ¬ registry.Grants window) (token : Token) :
    (registry.cancelExport owners window token).2 ≠ .ok true := by
  unfold HistoryExportRegistry.cancelExport
  split
  · rename_i grant known
    have other : grant.binding.ownerWindowLabel ≠ window := fun own =>
      gone ⟨grant, HistoryExportRegistry.grant_mem known, own⟩
    rw [if_pos other]
    nofun
  · split
    · nofun
    · split
      · nofun
      · rw [if_pos (.inl (by rw [ResultOwners.closed_of_not_live closed]; rfl))]
        nofun

theorem Revoked.powerless (revoked : Revoked desk window) (sound : Sound desk) :
    Powerless desk window := by
  have shut : (desk.owners window).closed ≠ false := by
    rw [revoked.tombstoned]
    nofun
  constructor
  · exact fun _ _ => beginResultOpen_closed revoked.tombstoned
  · intro now permit source drawn issued owned passed
    exact shut (owned ▸ ResultReadRegistry.issueResultRead_live passed)
  · intro now token lease passed
    exact shut (ResultReadRegistry.beginResultRead_lease passed).2
  · intro now lease owned passed
    obtain ⟨error, failed⟩ := @ResultReadRegistry.finishResultRead_closed desk.owners now
      desk.reads lease (owned ▸ revoked.tombstoned)
    rw [failed] at passed
    cases passed
  · intro now token binding passed
    exact shut (ResultReadRegistry.snapshotResultExportBinding_live passed).2
  · intro caller permit now drawn token here passed
    refine revoked.exports.unpending caller permit ?_ ?_
      (HistoryExportRegistry.finishSelection_pending passed)
    · rw [here]
    · rw [here]
      rfl
  · intro now token grant passed
    obtain ⟨member, owned⟩ := HistoryExportRegistry.findGrant_grant passed
    exact revoked.exports.grants ⟨grant, member, owned⟩
  · intro caller grant lease now here passed
    have fit := sound.fits caller
    rw [here] at fit
    obtain ⟨granted, member, same⟩ := HistoryExportRegistry.runGrant_grant passed
    exact revoked.exports.grants ⟨granted, member, same ▸ fit.1⟩
  · exact not_cancels revoked.tombstoned revoked.exports.grants
  · intro running member owned uncommitted
    exact (revoked.exports.stopped running member owned).resolve_right uncommitted
  · exact fun _ _ _ passed => revoked.quarantine (QuarantineRegistry.takePlan_taken passed)
  · exact fun _ _ _ passed => revoked.quarantine (QuarantineRegistry.restoreRoot_taken passed)
  · exact fun _ _ _ _ passed => revoked.quarantine (QuarantineRegistry.issuePlan_live passed)
  · exact fun _ _ _ _ _ passed =>
      revoked.quarantine (QuarantineRegistry.issueRestoreRoot_live passed)

/-- No call of the window gets anything in a step. -/
theorem Revoked.ungained (revoked : Revoked desk window) (sound : Sound desk)
    (stepped : desk.step action = some next) (caller : Caller)
    (owned : (next.callers caller).ownerWindowLabel = window)
    (gained : (next.callers caller).point.gained = true) :
    next.callers caller = desk.callers caller := by
  rcases step_cases stepped sound with ⟨acting, owner, target, goes, -, -⟩ | rest
  · rw [goes.callers] at owned gained ⊢
    by_cases same : caller = acting
    · subst same
      rw [Function.update_self] at owned gained
      cases owned
      rcases goes.gained gained with open_ | present | serves
      · rw [revoked.tombstoned] at open_
        cases open_
      · exact absurd revoked.exports present
      · exact absurd serves revoked.quarantine
    · exact Function.update_of_ne same _ _
  · have calm : next.callers caller = desk.callers caller ∨
        (next.callers caller).point.closing = true := by
      rcases rest with ⟨_, _, -, close⟩ | ⟨eases, -⟩
      · exact (advanceClose_eases close).calm caller
      · exact eases.calm caller
    rcases calm with same | closing
    · exact same
    · rw [(DeskPoint.idle_of_closing closing).gained] at gained
      cases gained

/-! ### Other windows -/

theorem filter_filter_ne {α : Type} {owner : α → Window} (items : List α) :
    ((items.filter fun item => owner item ≠ window).filter fun item => owner item ≠ window) =
      items.filter fun item => owner item ≠ window := by
  simp

theorem filter_cancelled (running : List RunningHistoryExport) :
    ((running.map fun export_ =>
        if export_.ownerWindowLabel = window then HistoryExportRegistry.cancelRunning export_
        else export_).filter fun export_ => export_.ownerWindowLabel ≠ window) =
      running.filter fun export_ => export_.ownerWindowLabel ≠ window := by
  induction running with
  | nil => rfl
  | cons export_ rest ih =>
      by_cases owned : export_.ownerWindowLabel = window
      · simp only [List.map_cons, if_pos owned]
        rw [List.filter_cons_of_neg (by simp [HistoryExportRegistry.cancelRunning, owned]),
          List.filter_cons_of_neg (by simp [owned]), ih]
      · simp only [List.map_cons, if_neg owned]
        rw [List.filter_cons_of_pos (by simpa using owned),
          List.filter_cons_of_pos (by simpa using owned), ih]

theorem Leaves.refl (window : Window) (desk : Desk) : Leaves window desk desk where
  readGrants := rfl
  opens := rfl
  selections := rfl
  exportGrants := rfl
  running := rfl
  roots := rfl
  rootSelections := rfl
  plans := rfl
  restoreRoots := rfl
  owners := fun _ _ => ⟨rfl, rfl⟩
  scan := fun _ => rfl
  callers := fun _ _ => rfl
  holder := rfl

theorem cancelScanOf_other
    (other : ∀ active, desk.scan = some active → active.ownerWindowLabel ≠ window) :
    desk.cancelScanOf window = desk.scan := by
  unfold Desk.cancelScanOf
  cases scan : desk.scan with
  | none => rfl
  | some active => simp only [Option.map_some, if_neg (other active scan)]

theorem closesWindow_leaves (closes : ClosesWindow window desk action)
    (stepped : desk.step action = some next) : Leaves window desk next := by
  cases action with
  | advance caller choice =>
      obtain ⟨owned, closing⟩ := closes
      have moved : ∀ target other, (desk.callers other).ownerWindowLabel ≠ window →
          (desk.goto caller target).callers other = desk.callers other := by
        intro target other foreign
        refine Function.update_of_ne ?_ _ _
        rintro rfl
        exact foreign owned
      simp only [Desk.step, advance_closing closing] at stepped
      rw [owned] at stepped
      unfold Desk.advanceClose at stepped
      split at stepped
      · cases stepped
        exact { Leaves.refl window desk with callers := moved _ }
      · cases stepped
        exact { Leaves.refl window desk with
          callers := moved _
          roots := filter_filter_ne _
          rootSelections := filter_filter_ne _ }
      · cases stepped
        refine { Leaves.refl window desk with callers := moved _, owners := ?_ }
        exact fun _ other => ⟨Function.update_of_ne other _ _, rfl⟩
      · cases stepped
        exact { Leaves.refl window desk with
          callers := moved _
          selections := filter_filter_ne _
          exportGrants := filter_filter_ne _
          running := filter_cancelled _ }
      · split at stepped
        · cases stepped
          exact { Leaves.refl window desk with
            callers := moved _
            readGrants := filter_filter_ne _
            opens := filter_filter_ne _ }
        · cases stepped
          exact { Leaves.refl window desk with callers := moved _ }
      · split at stepped
        · cases stepped
          exact { Leaves.refl window desk with callers := moved _, scan := cancelScanOf_other }
        · cases stepped
          exact { Leaves.refl window desk with callers := moved _ }
      · cases stepped
        refine { Leaves.refl window desk with
          callers := moved _
          plans := filter_filter_ne _
          restoreRoots := filter_filter_ne _
          owners := ?_ }
        exact fun _ other => ⟨rfl, Function.update_of_ne other _ _⟩
      · cases stepped
  | runReads owner =>
      cases closes
      simp only [Desk.step] at stepped
      split at stepped
      · cases stepped
        exact { Leaves.refl window desk with
          readGrants := filter_filter_ne _
          opens := filter_filter_ne _ }
      · cases stepped
  | runScan owner =>
      cases closes
      simp only [Desk.step] at stepped
      split at stepped
      · cases stepped
        exact { Leaves.refl window desk with scan := cancelScanOf_other }
      · cases stepped
  | _ => cases closes

end Left

/-! ## The closed window -/

section Main

variable {desk later : Desk} {window : Window}

theorem closing_reached {allowed : Desk → DeskAction → Prop}
    (reached : deskMachine.Reaches allowed desk) : Closing desk :=
  reached.invariant closing_new fun _ _ _ closing _ stepped => closing.step stepped

theorem scanClosing_reached (reached : deskMachine.Reaches (Listed window) desk) :
    Closing desk ∧ ScanClosing window desk := by
  induction reached with
  | init => exact ⟨closing_new, fun _ _ => scanProgress_of_passed rfl⟩
  | step _ listed stepped ih => exact ⟨ih.1.step stepped, ih.2.step ih.1 listed stepped⟩

/-- After the handler of a window has returned and its tasks have run, no call of the window gets
or uses anything, in any run that follows; its scan stays cancelled as long as no directory dialog
is opened for it; and no step of the closing changed what belongs to another window. -/
theorem closed_window_revoked (reached : deskMachine.Reachable desk) {caller : Caller}
    (returned : desk.callers caller = ⟨window, .closed⟩)
    (readsRun : window ∉ desk.deferredReads) (scansRun : window ∉ desk.deferredScans) :
    (∀ later, (Machine.mk desk Desk.step).Reachable later →
      Powerless later window ∧
      ∀ action next, later.step action = some next → ∀ call,
        (next.callers call).ownerWindowLabel = window →
        (next.callers call).point.gained = true → next.callers call = later.callers call) ∧
    (deskMachine.Reaches (Listed window) desk →
      ∀ later, (Machine.mk desk Desk.step).Reaches (Listed window) later →
        ∀ active, later.scan = some active → active.ownerWindowLabel = window →
          active.control.directive = .cancel) ∧
    ∀ before action after, ClosesWindow window before action →
      before.step action = some after → Leaves window before after := by
  refine ⟨?_, ?_, fun _ _ _ => closesWindow_leaves⟩
  · intro later followed
    have both : Closing later ∧ Revoked later window := by
      induction followed with
      | init =>
          have closing := closing_reached reached
          exact ⟨closing, closing.revoked returned readsRun⟩
      | step _ _ stepped ih => exact ⟨ih.1.step stepped, ih.2.step ih.1 stepped⟩
    refine ⟨both.2.powerless both.1.sound, ?_⟩
    exact fun _ _ stepped => both.2.ungained both.1.sound stepped
  · intro listed later followed
    obtain ⟨closing, scans⟩ := scanClosing_reached listed
    have progress := scans caller (by rw [returned])
    rw [returned] at progress
    have rootless := progress.roots (show 1 ≤ 6 by decide)
    have stopped := (progress.scan (show 5 ≤ 6 by decide)).resolve_right scansRun
    -- the handler is still closing, so that no dialog opens
    have all : Closing later ∧ later.callers caller = ⟨window, .closed⟩ ∧
        ¬ later.roots.Owns window ∧ ScanStopped later window := by
      induction followed with
      | init => exact ⟨closing, returned, rootless, stopped⟩
      | @step state next action _ meets stepped ih =>
          obtain ⟨closing, returned, rootless, stopped⟩ := ih
          have keeps := step_keeps stepped closing.sound
          have unbegun : ¬ BeginsRoot state action window := by
            intro begins
            have open_ := meets begins caller (by rw [returned])
            rw [returned] at open_
            cases open_
          refine ⟨closing.step stepped, closed_stays returned closing.sound stepped, ?_,
            keeps.scan _ rootless stopped⟩
          exact fun owns => rootless (keeps.roots _ unbegun owns)
    exact all.2.2.2.cancelled

end Main

/-- A window opens a result, reads it, and is closed while it reads; the handler finds the registry
of result reads locked. -/
def closedRun : List DeskAction :=
  [.request 0 "main" (.openResult 1), .advance 0 granting, .advance 0 granting,
    .request 1 "main" (.readResult 7), .advance 1 granting, .request 2 "main" .close] ++
  List.replicate 4 (.advance 2 granting) ++ [.advance 2 { granting with ok := false }] ++
  List.replicate 2 (.advance 2 granting) ++ [.runReads "main"]

theorem closedRun_returns : ∃ desk lease, deskMachine.after .new closedRun = some desk ∧
    desk.callers 1 = ⟨"main", .reading lease⟩ ∧ desk.callers 2 = ⟨"main", .closed⟩ ∧
    "main" ∉ desk.deferredReads ∧ "main" ∉ desk.deferredScans :=
  ⟨_, _, rfl, rfl, rfl, List.not_mem_nil, List.not_mem_nil⟩

theorem closed_window_revoked_closedRun : ∃ desk lease,
    deskMachine.after .new closedRun = some desk ∧
    desk.callers 1 = ⟨"main", .reading lease⟩ ∧ Powerless desk "main" := by
  obtain ⟨desk, lease, ran, reading, returned, reads, scans⟩ := closedRun_returns
  have start : deskMachine.Reachable Desk.new := .init
  have reached := start.after ran fun _ _ _ => trivial
  have later : (Machine.mk desk Desk.step).Reachable desk := .init
  exact ⟨desk, lease, ran, reading,
    ((closed_window_revoked reached returned reads scans).1 desk later).1⟩

end Guiying.Desktop
