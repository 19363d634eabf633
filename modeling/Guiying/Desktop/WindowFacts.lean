import Guiying.Desktop.WindowClose

/-!
# What a window has in each registry

Only an open window gets something new. Every other section of a registry takes
from what is there, and says no to a window that has nothing.
-/

namespace Guiying.Desktop

open Guiying.Export

variable {owners : ResultOwners} {now : Instant} {owner window : Window}

theorem ResultOwners.closed_of_not_live {epoch : Nat} (closed : (owners owner).closed = true) :
    owners.live owner epoch = false := by
  simp [ResultOwners.live, closed]

theorem ResultOwners.markResultOwnerClosed_closed (closed : (owners window).closed = true) :
    ((owners.markResultOwnerClosed owner) window).closed = true := by
  unfold ResultOwners.markResultOwnerClosed
  by_cases same : window = owner
  · simp [same]
  · rw [Function.update_of_ne same]
    exact closed

/-! ## Result reads -/

namespace ResultReadRegistry

variable {registry next : ResultReadRegistry}

/-- A window has a grant or an open that is pending. -/
def Owns (registry : ResultReadRegistry) (window : Window) : Prop :=
  (∃ grant ∈ registry.grants, grant.ownerWindowLabel = window) ∨
    ∃ pending ∈ registry.pendingOpens, pending.ownerWindowLabel = window

theorem Owns.of_subset (owns : next.Owns window)
    (grants : ∀ grant ∈ next.grants,
      ∃ old ∈ registry.grants, old.ownerWindowLabel = grant.ownerWindowLabel)
    (opens : next.pendingOpens ⊆ registry.pendingOpens) : registry.Owns window := by
  rcases owns with ⟨grant, member, rfl⟩ | ⟨pending, member, rfl⟩
  · obtain ⟨old, before, same⟩ := grants grant member
    exact .inl ⟨old, before, same⟩
  · exact .inr ⟨pending, opens member, rfl⟩

theorem Owns.of_filter {keeps : ResultReadGrant → Bool}
    (owns : { registry with grants := registry.grants.filter keeps }.Owns window) :
    registry.Owns window := by
  apply owns.of_subset
  · intro grant member
    exact ⟨grant, List.mem_of_mem_filter member, rfl⟩
  · exact List.Subset.refl _

theorem Owns.of_dropPending {sequence : Nat} (owns : (registry.dropPending sequence).Owns window) :
    registry.Owns window := by
  apply owns.of_subset
  · intro grant member
    exact ⟨grant, member, rfl⟩
  · exact List.filter_subset_self _

theorem Owns.of_setInFlight {token : Token} {inFlight : Bool}
    (owns : (registry.setInFlight token inFlight).Owns window) : registry.Owns window := by
  apply owns.of_subset
  · intro grant member
    obtain ⟨old, before, rfl⟩ := List.mem_map.mp member
    refine ⟨old, before, ?_⟩
    split
    · rfl
    · rfl
  · exact List.Subset.refl _

theorem Owns.of_releaseInFlight {lease : ResultReadLease}
    (owns : (registry.releaseInFlight lease).Owns window) : registry.Owns window := by
  unfold releaseInFlight at owns
  split at owns
  · exact owns
  · split at owns
    · exact owns.of_setInFlight
    · exact owns

theorem Owns.of_removeResultReadsForOwner
    (owns : (registry.removeResultReadsForOwner owner).Owns window) : registry.Owns window := by
  apply owns.of_subset
  · intro grant member
    exact ⟨grant, List.mem_of_mem_filter member, rfl⟩
  · exact List.filter_subset_self _

theorem not_owns_removed : ¬ (registry.removeResultReadsForOwner window).Owns window := by
  rintro (⟨grant, member, same⟩ | ⟨pending, member, same⟩)
  · exact of_decide_eq_true (List.mem_filter.mp member).2 same
  · exact of_decide_eq_true (List.mem_filter.mp member).2 same

/-! ### Opening -/

theorem beginResultOpen_owns {scanRunId : Int} (closed : (owners window).closed = true)
    (owns : (registry.beginResultOpen owners now owner scanRunId).1.Owns window) :
    registry.Owns window := by
  unfold beginResultOpen at owns
  split at owns
  · exact owns
  · dsimp only at owns
    split at owns
    · exact owns.of_filter
    · rename_i open_
      split at owns
      · exact owns.of_filter
      · split at owns
        · exact owns.of_filter
        · split at owns
          · exact owns.of_filter
          · -- a new open is one of a window that is not closed
            rcases owns with owns | ⟨pending, member, same⟩
            · exact Owns.of_filter (.inl owns)
            · rcases List.mem_cons.mp member with rfl | member
              · subst same
                exact absurd (.inl closed) open_
              · exact .inr ⟨pending, member, same⟩

theorem beginResultOpen_owner {scanRunId : Int} {permit : ResultOpenPermit}
    (permitted : (registry.beginResultOpen owners now owner scanRunId).2 = .ok permit) :
    permit.ownerWindowLabel = owner := by
  unfold beginResultOpen at permitted
  split at permitted
  · cases permitted
  · dsimp only at permitted
    repeat' split at permitted
    all_goals cases permitted
    rfl

section Issue

variable {permit : ResultOpenPermit} {source : ResultSource} {drawn : List Token}

/-- A token is only ever issued for a window that is open. -/
theorem issueResultRead_live {issued : Token × List Token}
    (passed : (registry.issueResultRead owners now permit source drawn).2 = .ok issued) :
    (owners permit.ownerWindowLabel).closed = false := by
  cases closed : (owners permit.ownerWindowLabel).closed with
  | false => rfl
  | true =>
      unfold issueResultRead at passed
      rw [ResultOwners.closed_of_not_live closed] at passed
      cases passed

theorem issueResultRead_owns (closed : (owners window).closed = true)
    (owns : (registry.issueResultRead owners now permit source drawn).1.Owns window) :
    registry.Owns window := by
  by_cases same : permit.ownerWindowLabel = window
  · subst same
    unfold issueResultRead at owns
    rw [ResultOwners.closed_of_not_live closed] at owns
    exact owns
  · unfold issueResultRead at owns
    split at owns
    · exact owns
    · split at owns
      · exact owns
      · dsimp only at owns
        split at owns
        · exact owns.of_filter
        · split at owns
          · exact owns.of_filter
          · split at owns
            · exact owns.of_filter
            · rcases owns with ⟨grant, member, rfl⟩ | ⟨pending, member, rfl⟩
              · rcases List.mem_cons.mp member with rfl | member
                · exact absurd rfl same
                · exact .inl
                    ⟨grant, List.mem_of_mem_filter (List.mem_of_mem_filter member), rfl⟩
              · exact .inr ⟨pending, List.mem_of_mem_filter member, rfl⟩

end Issue

/-! ### Reading -/

section Read

variable {token : Token} {lease : ResultReadLease}

theorem beginResultRead_owns
    (owns : (registry.beginResultRead owners now owner token).1.Owns window) :
    registry.Owns window := by
  unfold beginResultRead at owns
  repeat' split at owns
  all_goals first
    | exact owns
    | exact owns.of_filter
    | exact owns.of_setInFlight

theorem beginResultRead_lease
    (passed : (registry.beginResultRead owners now owner token).2 = .ok lease) :
    lease.ownerWindowLabel = owner ∧ (owners owner).closed = false := by
  unfold beginResultRead at passed
  split at passed
  · cases passed
  · rename_i grant found
    split at passed
    · cases passed
    · split at passed
      · cases passed
      · rename_i live
        split at passed
        · cases passed
        · split at passed
          · cases passed
          · cases passed
            refine ⟨rfl, ?_⟩
            cases closed : (owners owner).closed with
            | false => rfl
            | true => simp [ResultOwners.live, closed] at live

theorem finishResultRead_owns
    (owns : (registry.finishResultRead owners now lease).1.Owns window) :
    registry.Owns window := by
  unfold finishResultRead at owns
  repeat' split at owns
  all_goals first
    | exact owns
    | exact owns.of_filter
    | exact owns.of_releaseInFlight

/-- The lease of a closed window does not come back with data. -/
theorem finishResultRead_closed (closed : (owners lease.ownerWindowLabel).closed = true) :
    ∃ error, (registry.finishResultRead owners now lease).2 = .error error := by
  unfold finishResultRead
  rw [ResultOwners.closed_of_not_live closed]
  split
  · exact ⟨_, rfl⟩
  · split
    · exact ⟨_, rfl⟩
    · split
      · exact ⟨_, rfl⟩
      · exact ⟨_, rfl⟩

theorem closeResultRead_owns
    (owns : (registry.closeResultRead owner token).1.Owns window) : registry.Owns window := by
  unfold closeResultRead at owns
  repeat' split at owns
  all_goals first
    | exact owns
    | exact owns.of_filter

theorem snapshotResultExportBinding_owns
    (owns : (registry.snapshotResultExportBinding owners now owner token).1.Owns window) :
    registry.Owns window := by
  unfold snapshotResultExportBinding at owns
  repeat' split at owns
  all_goals first
    | exact owns
    | exact owns.of_filter

theorem snapshotResultExportBinding_live {binding : ResultExportBinding}
    (passed : (registry.snapshotResultExportBinding owners now owner token).2 = .ok binding) :
    binding.ownerWindowLabel = owner ∧ (owners owner).closed = false := by
  unfold snapshotResultExportBinding at passed
  split at passed
  · cases passed
  · split at passed
    · cases passed
    · split at passed
      · cases passed
      · rename_i live
        split at passed
        · cases passed
        · cases passed
          refine ⟨rfl, ?_⟩
          cases closed : (owners owner).closed with
          | false => rfl
          | true => simp [ResultOwners.live, closed] at live

end Read

end ResultReadRegistry

/-! ## Exports -/

namespace ExportCancellation

/-- The worker stops before its link, or has made it. -/
def Stopped (cells : ExportCancellation) : Prop :=
  cells.cancelled = true ∨ cells.commitState = .committed

theorem stopped_cancel (cells : ExportCancellation) : Stopped cells.cancel.2 := by
  unfold Stopped ExportCancellation.cancel
  by_cases committed : cells.commitState = .committed
  · rw [if_pos committed]
    exact .inr committed
  · rw [if_neg committed]
    exact .inl rfl

theorem Stopped.commitLink {cells : ExportCancellation} (stopped : Stopped cells) :
    Stopped (commitLink cells) := by
  unfold Desktop.commitLink
  split
  · exact .inr rfl
  · exact stopped

end ExportCancellation

namespace HistoryExportRegistry

variable {registry next : HistoryExportRegistry}

def Grants (registry : HistoryExportRegistry) (window : Window) : Prop :=
  ∃ grant ∈ registry.grants, grant.binding.ownerWindowLabel = window

/-- Every export of the window that runs stops, or has committed. -/
def Stopped (registry : HistoryExportRegistry) (window : Window) : Prop :=
  ∀ running ∈ registry.running, running.ownerWindowLabel = window →
    ExportCancellation.Stopped running.cancellation

/-- Nothing is added, and no export that was stopped goes on. -/
structure Narrows (registry next : HistoryExportRegistry) : Prop where
  grants : next.grants ⊆ registry.grants
  pendingSelections : next.pendingSelections ⊆ registry.pendingSelections
  running : ∀ running ∈ next.running, ∃ old ∈ registry.running,
    old.ownerWindowLabel = running.ownerWindowLabel ∧
      (ExportCancellation.Stopped old.cancellation →
        ExportCancellation.Stopped running.cancellation)
  sequence : next.nextSelectionSequence = registry.nextSelectionSequence

namespace Narrows

theorem refl (registry : HistoryExportRegistry) : Narrows registry registry := by
  constructor
  · exact List.Subset.refl _
  · exact List.Subset.refl _
  · intro running member
    exact ⟨running, member, rfl, id⟩
  · rfl

theorem trans {last : HistoryExportRegistry} (first : Narrows registry next)
    (second : Narrows next last) : Narrows registry last := by
  constructor
  · exact List.Subset.trans second.grants first.grants
  · exact List.Subset.trans second.pendingSelections first.pendingSelections
  · intro running member
    obtain ⟨middle, between, owned, stopped⟩ := second.running running member
    obtain ⟨old, before, ownedFirst, stoppedFirst⟩ := first.running middle between
    exact ⟨old, before, ownedFirst.trans owned, stopped ∘ stoppedFirst⟩
  · exact second.sequence.trans first.sequence

theorem not_grants (narrows : Narrows registry next) (absent : ¬ registry.Grants window) :
    ¬ next.Grants window := by
  rintro ⟨grant, member, same⟩
  exact absent ⟨grant, narrows.grants member, same⟩

theorem stopped (narrows : Narrows registry next) (stopped : registry.Stopped window) :
    next.Stopped window := by
  intro running member same
  obtain ⟨old, before, owned, keeps⟩ := narrows.running running member
  exact keeps (stopped old before (owned.trans same))

theorem not_pending {permit : PendingExportSelection} (narrows : Narrows registry next)
    (absent : permit ∉ registry.pendingSelections) : permit ∉ next.pendingSelections :=
  fun member => absent (narrows.pendingSelections member)

end Narrows

theorem narrows_filters {grants : HistoryExportGrant → Bool}
    {pending : PendingExportSelection → Bool} :
    Narrows registry { registry with
      grants := registry.grants.filter grants
      pendingSelections := registry.pendingSelections.filter pending } := by
  constructor
  · exact List.filter_subset_self _
  · exact List.filter_subset_self _
  · intro running member
    exact ⟨running, member, rfl, id⟩
  · rfl

/-- Some runs are changed in their cells, and none of those goes on that was stopped. -/
theorem narrows_map {change : RunningHistoryExport → RunningHistoryExport}
    (owned : ∀ running, (change running).ownerWindowLabel = running.ownerWindowLabel)
    (keeps : ∀ running, ExportCancellation.Stopped running.cancellation →
      ExportCancellation.Stopped (change running).cancellation) :
    Narrows registry { registry with running := registry.running.map change } := by
  constructor
  · exact List.Subset.refl _
  · exact List.Subset.refl _
  · intro running member
    obtain ⟨old, before, rfl⟩ := List.mem_map.mp member
    exact ⟨old, before, (owned old).symm, keeps old⟩
  · rfl

theorem narrows_cancelRunning {chosen : RunningHistoryExport → Prop} [DecidablePred chosen] :
    Narrows registry { registry with
      running := registry.running.map fun running =>
        if chosen running then cancelRunning running else running } := by
  apply narrows_map
  · intro running
    split
    · rfl
    · rfl
  · intro running stopped
    split
    · exact ExportCancellation.stopped_cancel _
    · exact stopped

theorem narrows_dropGrant (token : Token) : Narrows registry (registry.dropGrant token) := by
  refine ⟨List.filter_subset_self _, List.Subset.refl _, ?_, rfl⟩
  intro running member
  exact ⟨running, member, rfl, id⟩

theorem narrows_dropPending (sequence : Nat) :
    Narrows registry (registry.dropPending sequence) := by
  refine ⟨List.Subset.refl _, List.filter_subset_self _, ?_, rfl⟩
  intro running member
  exact ⟨running, member, rfl, id⟩

theorem narrows_findGrant {token : Token} :
    Narrows registry (registry.findGrant now owner token).1 := by
  unfold findGrant
  repeat' split
  all_goals first
    | exact .refl _
    | exact narrows_dropGrant _

theorem narrows_commit (token : Token) : Narrows registry (registry.commit token) := by
  apply narrows_map
  · intro running
    split
    · rfl
    · rfl
  · intro running stopped
    split
    · exact stopped.commitLink
    · exact stopped

theorem narrows_dropRun (token : Token) (generation : Nat) :
    Narrows registry (registry.dropRun token generation) := by
  refine ⟨List.Subset.refl _, List.Subset.refl _, ?_, rfl⟩
  intro running member
  exact ⟨running, List.mem_of_mem_filter member, rfl, id⟩

theorem narrows_cancelExport {token : Token} :
    Narrows registry (registry.cancelExport owners owner token).1 := by
  unfold cancelExport
  repeat' split
  all_goals first
    | exact .refl _
    | exact narrows_dropGrant _
    | exact narrows_cancelRunning

theorem narrows_revokeForOwner : Narrows registry (registry.revokeForOwner owner) :=
  narrows_filters.trans narrows_cancelRunning

theorem narrows_revokeForResultToken (token : Token) :
    Narrows registry (registry.revokeForResultToken token) :=
  narrows_filters.trans narrows_cancelRunning

/-! ### What a revoked window has left -/

theorem not_grants_revoked : ¬ (registry.revokeForOwner window).Grants window := by
  rintro ⟨grant, member, same⟩
  exact of_decide_eq_true (List.mem_filter.mp member).2 same

theorem not_pending_revoked {permit : PendingExportSelection}
    (owned : permit.binding.ownerWindowLabel = window) :
    permit ∉ (registry.revokeForOwner window).pendingSelections := by
  intro member
  exact of_decide_eq_true (List.mem_filter.mp member).2 owned

theorem stopped_revoked : (registry.revokeForOwner window).Stopped window := by
  intro running member same
  obtain ⟨old, before, rfl⟩ := List.mem_map.mp member
  by_cases owned : old.ownerWindowLabel = window
  · rw [if_pos owned]
    exact ExportCancellation.stopped_cancel _
  · rw [if_neg owned] at same
    exact absurd same owned

/-! ### Selections -/

section Selection

variable {binding : ResultExportBinding} {options : ExportOptions}
  {permit : PendingExportSelection} {drawn : List Token} {token : Token}

/-- A selection adds at most its permit, under the next number. -/
theorem beginSelection_effect :
    let result := registry.beginSelection now binding options
    result.1.grants ⊆ registry.grants ∧ result.1.running = registry.running ∧
      registry.nextSelectionSequence ≤ result.1.nextSelectionSequence ∧
      ∀ pending ∈ result.1.pendingSelections, pending ∈ registry.pendingSelections ∨
        pending.sequence = registry.nextSelectionSequence + 1 := by
  unfold beginSelection
  dsimp only
  split
  · refine ⟨List.filter_subset_self _, rfl, Nat.le_refl _, ?_⟩
    exact fun pending member => .inl member
  · split
    · refine ⟨List.filter_subset_self _, rfl, Nat.le_refl _, ?_⟩
      exact fun pending member => .inl member
    · rename_i sequence counted
      have next : sequence = registry.nextSelectionSequence + 1 :=
        (Foundation.MachineInt.checkedAdd_eq_some.mp counted).2
      refine ⟨List.filter_subset_self _, rfl, ?_, ?_⟩
      · exact next ▸ Nat.le_succ _
      · intro pending member
        rcases List.mem_cons.mp member with rfl | member
        · exact .inr next
        · exact .inl member

theorem beginSelection_permit
    (permitted : (registry.beginSelection now binding options).2 = .ok permit) :
    permit.binding = binding ∧
      permit.sequence ≤ (registry.beginSelection now binding options).1.nextSelectionSequence := by
  unfold beginSelection at permitted ⊢
  dsimp only at permitted ⊢
  split at permitted
  · cases permitted
  · rename_i room
    rw [if_neg room]
    split at permitted
    · cases permitted
    · rename_i sequence counted
      cases permitted
      exact ⟨rfl, Nat.le_refl _⟩

theorem finishSelection_pending
    (granted : (registry.finishSelection now permit drawn).2 = .ok token) :
    permit ∈ registry.pendingSelections := by
  unfold finishSelection at granted
  split at granted
  · cases granted
  · rename_i member
    exact not_not.mp member

theorem finishSelection_effect :
    let next := (registry.finishSelection now permit drawn).1
    Narrows { registry with grants := next.grants } next ∧
      ∀ grant ∈ next.grants, grant ∈ registry.grants ∨
        permit ∈ registry.pendingSelections ∧ grant.binding = permit.binding := by
  unfold finishSelection
  split
  · exact ⟨.refl _, fun grant member => .inl member⟩
  · rename_i member
    split
    · exact ⟨.refl _, fun grant member => .inl member⟩
    · dsimp only
      split
      · exact ⟨.refl _, fun grant member => .inl member⟩
      · constructor
        · refine ⟨List.Subset.refl _, List.filter_subset_self _, ?_, rfl⟩
          intro running before
          exact ⟨running, before, rfl, id⟩
        · intro grant among
          rcases List.mem_cons.mp among with rfl | among
          · exact .inr ⟨not_not.mp member, rfl⟩
          · exact .inl among

end Selection

/-! ### Starts -/

section Start

variable {found : HistoryExportGrant} {token : Token}

theorem grant_mem (known : registry.grant token = some found) : found ∈ registry.grants :=
  List.mem_of_find?_eq_some known

theorem findGrant_grant (passed : (registry.findGrant now owner token).2 = .ok found) :
    found ∈ registry.grants ∧ found.binding.ownerWindowLabel = owner := by
  unfold findGrant at passed
  split at passed
  · cases passed
  · rename_i grant known
    split at passed
    · cases passed
    · rename_i owned
      split at passed
      · cases passed
      · cases passed
        exact ⟨grant_mem known, not_not.mp owned⟩

/-- A run starts only from a grant with the binding that was found. -/
theorem runGrant_grant (passed : (registry.runGrant now owner found).2 = .ok ()) :
    ∃ grant ∈ registry.grants, grant.binding = found.binding := by
  unfold runGrant at passed
  split at passed
  · cases passed
  · rename_i grant known
    split at passed
    · cases passed
    · rename_i same
      refine ⟨grant, grant_mem known, ?_⟩
      by_contra other
      exact same (.inr (.inr (.inr other)))

theorem runGrant_effect :
    let next := (registry.runGrant now owner found).1
    Narrows { registry with running := next.running } next ∧
      ∀ running ∈ next.running, running ∈ registry.running ∨
        running.ownerWindowLabel = owner ∧
          ∃ grant ∈ registry.grants, grant.binding = found.binding := by
  cases passed : (registry.runGrant now owner found).2 with
  | error error =>
      have unchanged : (registry.runGrant now owner found).1 = registry := by
        unfold runGrant at passed ⊢
        split
        · rfl
        · rename_i grant known
          split
          · rfl
          · rename_i same
            simp [known, if_neg same] at passed
      rw [unchanged]
      exact ⟨.refl _, fun running member => .inl member⟩
  | ok started =>
      have granted := runGrant_grant passed
      unfold runGrant
      split
      · exact ⟨.refl _, fun running member => .inl member⟩
      · split
        · exact ⟨.refl _, fun running member => .inl member⟩
        · constructor
          · refine ⟨List.filter_subset_self _, List.Subset.refl _, ?_, rfl⟩
            intro running before
            exact ⟨running, before, rfl, id⟩
          · intro running member
            rcases List.mem_cons.mp member with rfl | member
            · exact .inr ⟨rfl, granted⟩
            · exact .inl (List.mem_of_mem_filter member)

end Start

end HistoryExportRegistry

/-! ## Scan roots -/

namespace ScanRootTokenRegistry

variable {registry next : ScanRootTokenRegistry}

/-- A window has a directory, or its dialog is open. -/
def Owns (registry : ScanRootTokenRegistry) (window : Window) : Prop :=
  (∃ grant ∈ registry.grants, grant.ownerWindowLabel = window) ∨
    ∃ pending ∈ registry.pendingSelections, pending.1 = window

theorem Owns.of_subset (owns : next.Owns window) (grants : next.grants ⊆ registry.grants)
    (pending : next.pendingSelections ⊆ registry.pendingSelections) : registry.Owns window := by
  rcases owns with ⟨grant, member, same⟩ | ⟨selection, member, same⟩
  · exact .inl ⟨grant, grants member, same⟩
  · exact .inr ⟨selection, pending member, same⟩

theorem not_owns_cleared : ¬ (registry.clearForOwner window).Owns window := by
  rintro (⟨grant, member, same⟩ | ⟨selection, member, same⟩)
  · exact of_decide_eq_true (List.mem_filter.mp member).2 same
  · exact of_decide_eq_true (List.mem_filter.mp member).2 same

theorem clearForOwner_owns (owns : (registry.clearForOwner owner).Owns window) :
    registry.Owns window :=
  owns.of_subset (List.filter_subset_self _) (List.filter_subset_self _)

/-- Only the window that asks gets its dialog opened. -/
theorem beginSelection_owns (other : owner ≠ window)
    (owns : (registry.beginSelection now owner).1.Owns window) : registry.Owns window := by
  unfold beginSelection at owns
  split at owns
  · exact owns
  · dsimp only at owns
    split at owns
    · exact owns.of_subset (List.filter_subset_self _) (List.Subset.refl _)
    · split at owns
      · exact owns.of_subset (List.filter_subset_self _) (List.Subset.refl _)
      · split at owns
        · exact owns.of_subset (List.filter_subset_self _) (List.Subset.refl _)
        · rcases owns with ⟨grant, member, same⟩ | ⟨selection, member, same⟩
          · exact .inl ⟨grant, List.mem_of_mem_filter member, same⟩
          · rcases List.mem_cons.mp member with rfl | member
            · exact absurd same other
            · exact .inr ⟨selection, member, same⟩

section Finish

variable {sequence : Nat} {selected : Option String} {drawn : List Token}

/-- What is granted was being selected. -/
theorem finishSelection_owns
    (owns : (registry.finishSelection now owner sequence selected drawn).1.Owns window) :
    registry.Owns window := by
  unfold finishSelection at owns
  split at owns
  · exact owns
  · rename_i pending
    have selecting := not_not.mp pending
    cases selected with
    | none => exact owns.of_subset (List.Subset.refl _) (List.filter_subset_self _)
    | some root =>
        dsimp only at owns
        split at owns
        · exact owns.of_subset (List.filter_subset_self _) (List.filter_subset_self _)
        · split at owns
          · exact owns.of_subset (List.filter_subset_self _) (List.filter_subset_self _)
          · rcases owns with ⟨grant, member, rfl⟩ | ⟨selection, member, same⟩
            · rcases List.mem_cons.mp member with rfl | member
              · exact .inr ⟨_, selecting, rfl⟩
              · exact .inl ⟨grant, List.mem_of_mem_filter member, rfl⟩
            · exact .inr ⟨selection, List.mem_of_mem_filter member, same⟩

end Finish

theorem consume_owns {token : Token} (owns : (registry.consume now owner token).1.Owns window) :
    registry.Owns window := by
  unfold consume at owns
  dsimp only at owns
  repeat' split at owns
  all_goals first
    | exact owns
    | exact owns.of_subset (List.filter_subset_self _) (List.Subset.refl _)

theorem consume_granted {token : Token} {root : String}
    (passed : (registry.consume now owner token).2 = .ok root) : registry.Owns owner := by
  unfold consume at passed
  dsimp only at passed
  split at passed
  · cases passed
  · rename_i grant known
    split at passed
    · cases passed
    · rename_i owned
      exact .inl ⟨grant, List.mem_of_find?_eq_some known, not_not.mp owned⟩

end ScanRootTokenRegistry

/-! ## Quarantine -/

namespace QuarantineRegistry

variable {registry next : QuarantineRegistry}

/-- A window may still get an authority, or has one. -/
def Serves (registry : QuarantineRegistry) (window : Window) : Prop :=
  (registry.owners window).closed = false ∨
    (∃ plan ∈ registry.plans, plan.ownerWindowLabel = window) ∨
    ∃ grant ∈ registry.restoreRoots, grant.ownerWindowLabel = window

theorem Serves.of_subset (serves : next.Serves window) (owners : next.owners = registry.owners)
    (plans : next.plans ⊆ registry.plans)
    (restoreRoots : next.restoreRoots ⊆ registry.restoreRoots) : registry.Serves window := by
  rcases serves with live | ⟨plan, member, same⟩ | ⟨grant, member, same⟩
  · exact .inl (owners ▸ live)
  · exact .inr (.inl ⟨plan, plans member, same⟩)
  · exact .inr (.inr ⟨grant, restoreRoots member, same⟩)

theorem not_serves_revoked : ¬ (registry.revokeForOwner window).Serves window := by
  rintro (live | ⟨plan, member, same⟩ | ⟨grant, member, same⟩)
  · simp [revokeForOwner, ResultOwners.markResultOwnerClosed] at live
  · exact of_decide_eq_true (List.mem_filter.mp member).2 same
  · exact of_decide_eq_true (List.mem_filter.mp member).2 same

theorem revokeForOwner_serves (serves : (registry.revokeForOwner owner).Serves window) :
    registry.Serves window := by
  rcases serves with live | ⟨plan, member, same⟩ | ⟨grant, member, same⟩
  · refine .inl ?_
    by_contra closed
    rw [Bool.not_eq_false] at closed
    have still := @ResultOwners.markResultOwnerClosed_closed _ owner _ closed
    exact Bool.false_ne_true (live.symm.trans still)
  · exact .inr (.inl ⟨plan, List.mem_of_mem_filter member, same⟩)
  · exact .inr (.inr ⟨grant, List.mem_of_mem_filter member, same⟩)

theorem requireLiveOwner_ok {epoch : Nat} (passed : registry.requireLiveOwner owner epoch = .ok ()) :
    (registry.owners owner).closed = false := by
  cases closed : (registry.owners owner).closed with
  | false => rfl
  | true =>
      unfold requireLiveOwner at passed
      rw [ResultOwners.closed_of_not_live closed] at passed
      cases passed

section Issue

variable {epoch : Nat} {token issued : Token}

theorem issuePlan_live {plan : QuarantinePlan}
    (passed : (registry.issuePlan now owner epoch plan).2 = .ok issued) :
    registry.Serves owner := by
  unfold issuePlan at passed
  split at passed
  · cases passed
  · rename_i live
    exact .inl (requireLiveOwner_ok live)

theorem issuePlan_serves {plan : QuarantinePlan}
    (serves : (registry.issuePlan now owner epoch plan).1.Serves window) :
    registry.Serves window := by
  unfold issuePlan at serves
  split at serves
  · exact serves
  · rename_i live
    dsimp only at serves
    split at serves
    · exact serves.of_subset rfl (List.filter_subset_self _) (List.Subset.refl _)
    · rcases serves with open_ | ⟨plan, member, rfl⟩ | owned
      · exact .inl open_
      · rcases List.mem_cons.mp member with rfl | member
        · exact .inl (requireLiveOwner_ok live)
        · exact .inr (.inl ⟨plan, List.mem_of_mem_filter member, rfl⟩)
      · exact .inr (.inr owned)

theorem takePlan_serves (serves : (registry.takePlan now owner token).1.Serves window) :
    registry.Serves window := by
  unfold takePlan at serves
  dsimp only at serves
  repeat' split at serves
  all_goals first
    | exact serves
    | exact serves.of_subset rfl (List.filter_subset_self _) (List.Subset.refl _)

theorem takePlan_taken {plan : QuarantinePlan}
    (passed : (registry.takePlan now owner token).2 = .ok plan) : registry.Serves owner := by
  unfold takePlan at passed
  dsimp only at passed
  split at passed
  · cases passed
  · rename_i known
    split at passed
    · cases passed
    · rename_i owned
      exact .inr (.inl ⟨_, List.mem_of_find?_eq_some known, not_not.mp owned⟩)

theorem issueRestoreRoot_live {root : String}
    (passed : (registry.issueRestoreRoot now owner epoch token root).2 = .ok issued) :
    registry.Serves owner := by
  unfold issueRestoreRoot at passed
  split at passed
  · cases passed
  · rename_i live
    exact .inl (requireLiveOwner_ok live)

theorem issueRestoreRoot_serves {root : String}
    (serves : (registry.issueRestoreRoot now owner epoch token root).1.Serves window) :
    registry.Serves window := by
  unfold issueRestoreRoot at serves
  split at serves
  · exact serves
  · rename_i live
    dsimp only at serves
    split at serves
    · exact serves.of_subset rfl (List.Subset.refl _) (List.filter_subset_self _)
    · rcases serves with open_ | owned | ⟨grant, member, rfl⟩
      · exact .inl open_
      · exact .inr (.inl owned)
      · rcases List.mem_cons.mp member with rfl | member
        · exact .inl (requireLiveOwner_ok live)
        · exact .inr (.inr ⟨grant, List.mem_of_mem_filter member, rfl⟩)

theorem restoreRoot_serves (serves : (registry.restoreRoot now owner token).1.Serves window) :
    registry.Serves window := by
  unfold restoreRoot at serves
  repeat' split at serves
  all_goals first
    | exact serves
    | exact serves.of_subset rfl (List.Subset.refl _) (List.filter_subset_self _)

theorem restoreRoot_taken {root : String}
    (passed : (registry.restoreRoot now owner token).2 = .ok root) : registry.Serves owner := by
  unfold restoreRoot at passed
  split at passed
  · cases passed
  · rename_i known
    split at passed
    · cases passed
    · rename_i owned
      exact .inr (.inr ⟨_, List.mem_of_find?_eq_some known, not_not.mp owned⟩)

end Issue

end QuarantineRegistry

end Guiying.Desktop
